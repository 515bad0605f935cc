import Mathlib.Data.List.Destutter
import Mathlib.Tactic.SplitIfs
import JavaConstants.Identifier

/-!
# The repair of names

What the repair of a name is, as one pass over its composed characters (`repair`), and which names
have none: those whose composed characters are all underscores or foreign to identifiers
(`identifier?_eq`). Underscores are collapsed by passes over the whole text until none is left to
do; that comes to an end (`exists_iterate_collapseUnderscores`) and leaves what one pass leaves that
keeps the first underscore of each run (`collapseUnderscores_eq_squeeze`).
-/

namespace JavaConstants

/-! ## Runs of underscores

A pass merges pairs and so may leave pairs. But it leaves a run where there was one, and a text
with a pair in it gets shorter; so the passes end, and with what one pass gives that keeps the
first underscore of each run. -/

/-- Whether two neighbours are not both underscores. -/
def Separate (c d : Char) : Prop := ¬ (c = '_' ∧ d = '_')

instance : DecidableRel Separate := fun _ _ ↦ inferInstanceAs (Decidable (¬ _))

/-- Every run of underscores shrunk to its first one, in one pass. -/
def squeeze (cs : List Char) : List Char := cs.destutter Separate

theorem hasDoubleUnderscore_eq_false_iff {cs : List Char} :
    hasDoubleUnderscore cs = false ↔ cs.IsChain Separate := by
  fun_induction hasDoubleUnderscore cs with
  | case1 cs => simp [Separate]
  | case2 c cs hne ih =>
    rw [ih]
    rcases cs with _ | ⟨d, cs⟩
    · simp
    · have hseparate : Separate c d := by
        rintro ⟨rfl, rfl⟩
        exact hne cs rfl rfl
      simp [hseparate]
  | case3 => simp

theorem not_infix_of_isChain {cs : List Char} (h : cs.IsChain Separate) : ¬ ['_', '_'] <:+: cs := by
  intro hinfix
  have hpair := h.infix hinfix
  simp [Separate] at hpair

/-- A pass leaves the runs, whatever stands before it. -/
theorem destutter'_mergeUnderscores (c : Char) (cs : List Char) :
    (mergeUnderscores cs).destutter' Separate c = cs.destutter' Separate c := by
  fun_induction mergeUnderscores cs generalizing c with
  | case1 cs ih =>
    have hrun : ¬ Separate '_' '_' := by simp [Separate]
    by_cases hc : Separate c '_'
    · rw [List.destutter'_cons_pos _ hc, List.destutter'_cons_pos _ hc,
        List.destutter'_cons_neg _ hrun, ih]
    · rw [List.destutter'_cons_neg _ hc, List.destutter'_cons_neg _ hc,
        List.destutter'_cons_neg _ hc, ih]
  | case2 d cs hne ih =>
    rw [List.destutter', List.destutter', ih, ih]
  | case3 => rfl

theorem squeeze_mergeUnderscores (cs : List Char) : squeeze (mergeUnderscores cs) = squeeze cs := by
  have hrun : ¬ Separate '_' '_' := by simp [Separate]
  fun_cases mergeUnderscores cs with
  | case1 cs =>
    rw [squeeze, squeeze, List.destutter_cons', List.destutter_cons',
      List.destutter'_cons_neg _ hrun, destutter'_mergeUnderscores]
  | case2 c cs hne =>
    rw [squeeze, squeeze, List.destutter_cons', List.destutter_cons', destutter'_mergeUnderscores]
  | case3 => rfl

theorem collapseUnderscores_eq_squeeze (cs : List Char) : collapseUnderscores cs = squeeze cs := by
  fun_induction collapseUnderscores cs with
  | case1 cs hdouble ih => rw [ih, squeeze_mergeUnderscores]
  | case2 cs hdouble =>
    rw [Bool.not_eq_true, hasDoubleUnderscore_eq_false_iff] at hdouble
    exact (List.destutter_of_isChain _ cs hdouble).symm

/-- The passes come to an end: after as many as there are characters at most. -/
theorem exists_iterate_collapseUnderscores (cs : List Char) :
    ∃ n ≤ cs.length, collapseUnderscores cs = mergeUnderscores^[n] cs ∧
      hasDoubleUnderscore (mergeUnderscores^[n] cs) = false ∧
      ∀ m < n, hasDoubleUnderscore (mergeUnderscores^[m] cs) = true := by
  fun_induction collapseUnderscores cs with
  | case1 cs hdouble ih =>
    obtain ⟨n, hn, heq, hlast, hbefore⟩ := ih
    have hlength := length_mergeUnderscores_lt hdouble
    refine ⟨n + 1, by omega, heq, hlast, ?_⟩
    rintro (_ | m) hm
    · exact hdouble
    · exact hbefore m (by omega)
  | case2 cs hdouble =>
    exact ⟨0, Nat.zero_le _, rfl, by simpa using hdouble, nofun⟩

/-! ## What is left of a text -/

theorem exists_destutter'_eq_cons (c : Char) (cs : List Char) :
    ∃ ds, cs.destutter' Separate c = c :: ds := by
  induction cs with
  | nil => exact ⟨[], rfl⟩
  | cons d cs ih =>
    rw [List.destutter']
    split_ifs
    · exact ⟨_, rfl⟩
    · exact ih

theorem head?_squeeze (cs : List Char) : (squeeze cs).head? = cs.head? := by
  rcases cs with _ | ⟨c, cs⟩
  · rfl
  · obtain ⟨ds, hds⟩ := exists_destutter'_eq_cons c cs
    rw [squeeze, List.destutter_cons', hds]
    rfl

theorem mem_of_mem_squeeze {c : Char} {cs : List Char} (h : c ∈ squeeze cs) : c ∈ cs :=
  (List.destutter_sublist _ cs).subset h

theorem mem_squeeze {c : Char} (hc : c ≠ '_') {cs : List Char} (h : c ∈ cs) : c ∈ squeeze cs := by
  have hafter (d : Char) (cs : List Char) (h : c ∈ d :: cs) : c ∈ cs.destutter' Separate d := by
    induction cs generalizing d with
    | nil => exact h
    | cons e cs ih =>
      rw [List.destutter']
      split_ifs with hseparate
      · rcases List.mem_cons.mp h with rfl | h
        · exact List.mem_cons_self
        · exact List.mem_cons_of_mem _ (ih e h)
      · -- Only an underscore is left out.
        obtain ⟨rfl, rfl⟩ := not_not.mp hseparate
        refine ih '_' ?_
        simpa [hc] using h
  rcases cs with _ | ⟨d, cs⟩
  · exact h
  · exact hafter d cs h

theorem squeeze_underscores {cs : List Char} (h : ∀ c ∈ cs, c = '_') :
    squeeze cs = [] ∨ squeeze cs = ['_'] := by
  have hchain : (squeeze cs).IsChain Separate := List.isChain_destutter _ cs
  have hall : ∀ c ∈ squeeze cs, c = '_' := fun c hc ↦ h c (mem_of_mem_squeeze hc)
  generalize squeeze cs = ds at hchain hall
  rcases ds with _ | ⟨c, _ | ⟨d, ds⟩⟩
  · exact .inl rfl
  · exact .inr (by rw [hall c List.mem_cons_self])
  · obtain ⟨hseparate, _⟩ := List.isChain_cons_cons.mp hchain
    exact absurd ⟨hall c (by simp), hall d (by simp)⟩ hseparate

/-! ## Repaired names -/

/-- An identifier's characters: those of a text with an underscore for each that an identifier
cannot hold. -/
def masked (cs : List Char) : List Char := cs.map fun c ↦ if isIdentifierPart c then c else '_'

/-- A text with an underscore in front unless its first character starts an identifier. -/
def startable (cs : List Char) : List Char :=
  if cs.head?.any isIdentifierStart then cs else '_' :: cs

/-- The repair of a name: its composed characters, startable, masked and squeezed, with one more
underscore in front of a reserved word. -/
def repair (raw : String) : String :=
  let name := String.ofList (squeeze (masked (startable (Unicode.composed raw).toList)))
  if isReserved name then "_" ++ name else name

/-- Whether the composed characters of a name hold nothing but underscores and what an identifier
cannot hold. -/
def Unrepairable (raw : String) : Prop :=
  ∀ c ∈ (Unicode.composed raw).toList, isIdentifierPart c = true → c = '_'

instance (raw : String) : Decidable (Unrepairable raw) :=
  List.decidableBAll (fun c ↦ isIdentifierPart c = true → c = '_') _

theorem isIdentifierStart_underscore : isIdentifierStart '_' = true := rfl

theorem isIdentifierPart_underscore : isIdentifierPart '_' = true := rfl

theorem replaceForeign_eq {cs : List Char} (h : cs ≠ []) :
    replaceForeign cs = masked (startable cs) := by
  rcases cs with _ | ⟨c, cs⟩
  · exact absurd rfl h
  · rw [replaceForeign, startable, List.head?_cons, Option.any_some]
    split_ifs
    · rfl
    · rfl

theorem isIdentifierPart_of_mem_masked {c : Char} {cs : List Char} (h : c ∈ masked cs) :
    isIdentifierPart c = true := by
  obtain ⟨d, _, rfl⟩ := List.mem_map.mp h
  split_ifs with hd
  · exact hd
  · exact isIdentifierPart_underscore

theorem mem_masked {c : Char} {cs : List Char} (hpart : isIdentifierPart c = true) (h : c ∈ cs) :
    c ∈ masked cs :=
  List.mem_map.mpr ⟨c, h, if_pos hpart⟩

theorem exists_masked_startable (cs : List Char) : ∃ c ds,
    masked (startable cs) = c :: ds ∧ isIdentifierStart c = true := by
  rw [startable]
  split_ifs with hhead
  · rcases cs with _ | ⟨c, cs⟩
    · simp at hhead
    · have hstart : isIdentifierStart c = true := by simpa using hhead
      refine ⟨c, masked cs, ?_, hstart⟩
      rw [masked, List.map_cons, if_pos (isIdentifierPart_of_isIdentifierStart hstart)]
      rfl
  · exact ⟨'_', masked cs, rfl, isIdentifierStart_underscore⟩

theorem isName_ofList_cons_iff {c : Char} {cs : List Char} :
    isName (String.ofList (c :: cs)) = true ↔
      c :: cs ≠ ['_'] ∧ isReserved (String.ofList (c :: cs)) = false ∧
        isIdentifierStart c = true ∧ ∀ d ∈ cs, isIdentifierPart d = true := by
  have hunderscore : String.ofList (c :: cs) = "_" ↔ c :: cs = ['_'] := by
    rw [← String.toList_inj, String.toList_ofList]
    rfl
  rw [isName, String.toList_ofList]
  simp only [Bool.and_eq_true, bne_iff_ne, ne_eq, hunderscore, Bool.not_eq_true', List.all_eq_true,
    and_assoc]

theorem underscore_append_ofList (cs : List Char) :
    "_" ++ String.ofList cs = String.ofList ('_' :: cs) := by
  rw [← String.toList_inj]
  simp

/-- No reserved word is one behind an underscore or makes two of it. -/
theorem of_isReserved_underscore {w : String} (h : isReserved w = true) :
    isReserved ("_" ++ w) = false ∧ w.toList.head? ≠ some '_' := by
  have hall : ∀ w ∈ reservedWords, isReserved ("_" ++ w) = false ∧ w.toList.head? ≠ some '_' := by
    decide
  exact hall w (by simpa [isReserved] using h)

section Repair

variable {raw : String}

/-- What can be repaired is repaired to a name without two underscores in a row. -/
theorem isName_repair (h : ¬ Unrepairable raw) :
    isName (repair raw) = true ∧ ¬ ['_', '_'] <:+: (repair raw).toList := by
  obtain ⟨c, hc, hpart, hne⟩ : ∃ c ∈ (Unicode.composed raw).toList,
      isIdentifierPart c = true ∧ c ≠ '_' := by
    simpa [Unrepairable] using h
  rw [repair]
  generalize (Unicode.composed raw).toList = cs at hc
  have hmem : c ∈ squeeze (masked (startable cs)) := by
    refine mem_squeeze hne (mem_masked hpart ?_)
    rw [startable]
    split_ifs
    · exact hc
    · exact List.mem_cons_of_mem _ hc
  have hparts : ∀ d ∈ squeeze (masked (startable cs)), isIdentifierPart d = true := fun d hd ↦
    isIdentifierPart_of_mem_masked (mem_of_mem_squeeze hd)
  have hchain : (squeeze (masked (startable cs))).IsChain Separate := List.isChain_destutter _ _
  obtain ⟨first, rest, hmasked, hstart⟩ := exists_masked_startable cs
  have hhead := head?_squeeze (masked (startable cs))
  generalize squeeze (masked (startable cs)) = name at hmem hparts hchain hhead ⊢
  rw [hmasked, List.head?_cons] at hhead
  obtain ⟨rest', rfl⟩ := List.head?_eq_some_iff.mp hhead
  split_ifs with hreserved
  · obtain ⟨hunreserved, hfirst⟩ := of_isReserved_underscore hreserved
    rw [String.toList_ofList, List.head?_cons, Ne, Option.some.injEq] at hfirst
    rw [underscore_append_ofList] at hunreserved ⊢
    rw [isName_ofList_cons_iff, String.toList_ofList]
    refine ⟨⟨by simp, hunreserved, isIdentifierStart_underscore, hparts⟩, ?_⟩
    exact not_infix_of_isChain (List.isChain_cons_cons.mpr ⟨fun h ↦ hfirst h.2, hchain⟩)
  · rw [isName_ofList_cons_iff, String.toList_ofList]
    refine ⟨⟨?_, by simpa using hreserved, hstart, fun d hd ↦ hparts d (List.mem_cons_of_mem _ hd)⟩,
      not_infix_of_isChain hchain⟩
    -- The character that is no underscore is still there.
    intro hunderscore
    rw [hunderscore] at hmem
    exact hne (List.mem_singleton.mp hmem)

/-- What cannot be repaired comes to nothing or to an underscore, which are no names. -/
theorem squeeze_masked_of_unrepairable (h : Unrepairable raw) :
    squeeze (masked (startable (Unicode.composed raw).toList)) = [] ∨
      squeeze (masked (startable (Unicode.composed raw).toList)) = ['_'] := by
  refine squeeze_underscores fun c hc ↦ ?_
  obtain ⟨d, hd, rfl⟩ := List.mem_map.mp hc
  split_ifs with hpart
  · rw [startable] at hd
    split_ifs at hd
    · exact h d hd hpart
    · rcases List.mem_cons.mp hd with rfl | hd
      · rfl
      · exact h d hd hpart
  · rfl

theorem identifier?_of_not_isName (hname : isName raw = false) :
    identifier? raw = if Unrepairable raw then none else some (repair raw) := by
  rw [identifier?, if_neg (by simp [hname]), collapseUnderscores_eq_squeeze]
  by_cases hnil : (Unicode.composed raw).toList = []
  · have hun : Unrepairable raw := by simp [Unrepairable, hnil]
    rw [if_pos hun, hnil]
    decide
  · rw [replaceForeign_eq hnil]
    change (if isName (repair raw) = true then some (repair raw) else none) = _
    split_ifs with hrepaired hun hun
    · rcases squeeze_masked_of_unrepairable hun with hempty | hempty <;>
        · rw [repair, hempty] at hrepaired
          exact absurd hrepaired (by decide)
    · rfl
    · rfl
    · exact absurd (isName_repair hun).1 hrepaired

end Repair

/-- **The repair of names.** A name stays as it is. Any other text has a repair unless its composed
characters are all underscores or foreign to identifiers; the repair is a name without two
underscores in a row. The passes that collapse underscores come to an end on every text. -/
theorem identifier?_eq (raw : String) :
    identifier? raw =
        (if isName raw then some raw else if Unrepairable raw then none else some (repair raw)) ∧
      (¬ Unrepairable raw → isName (repair raw) = true ∧ ¬ ['_', '_'] <:+: (repair raw).toList) ∧
      ∀ cs, ∃ n ≤ cs.length, collapseUnderscores cs = mergeUnderscores^[n] cs ∧
        hasDoubleUnderscore (mergeUnderscores^[n] cs) = false ∧
        ∀ m < n, hasDoubleUnderscore (mergeUnderscores^[m] cs) = true := by
  refine ⟨?_, isName_repair, exists_iterate_collapseUnderscores⟩
  split_ifs with hname hun
  · rw [identifier?, if_pos hname]
  · rw [identifier?_of_not_isName (by simpa using hname), if_pos hun]
  · rw [identifier?_of_not_isName (by simpa using hname), if_neg hun]

theorem composed_singleton {c : Char} (h : c.toNat < 0xC0) :
    Unicode.composed (String.ofList [c]) = String.ofList [c] := by
  have hdecompose : Unicode.decomposeChar c = [c] := by
    rw [Unicode.decomposeChar]
    exact if_pos h
  have hclass : Unicode.combiningClass c = 0 := if_pos (by omega)
  rw [Unicode.composed, String.toList_ofList, List.flatMap_singleton, hdecompose,
    Unicode.canonicalOrder, List.foldr_cons, List.foldr_nil, Unicode.insertMark, Unicode.compose,
    if_pos hclass, Unicode.composeAfter, List.reverse_nil]

theorem composed_one : Unicode.composed "1" = "1" := @composed_singleton '1' (by decide)

theorem not_unrepairable_one : ¬ Unrepairable "1" := by
  rw [Unrepairable, composed_one]
  exact fun h ↦ absurd (h '1' (by decide) (by decide)) (by decide)

theorem repair_one : repair "1" = "_1" := by
  rw [repair, composed_one]
  decide

/-- A digit cannot start a name. -/
theorem identifier?_eq_digit : ¬ Unrepairable "1" ∧ isName (repair "1") = true ∧
    identifier? "1" = some "_1" := by
  have hname : isName "1" = false := by decide
  refine ⟨not_unrepairable_one, ((identifier?_eq "1").2.1 not_unrepairable_one).1, ?_⟩
  rw [(identifier?_eq "1").1, hname, if_neg Bool.false_ne_true, if_neg not_unrepairable_one,
    repair_one]

end JavaConstants
