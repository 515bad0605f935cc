import Mathlib
import JavaConstants.Resource.Extract

/-!
# Spellings of names in selectors

A name is spelled with its characters as they are or behind a backslash, or with their numbers
(`Spells`). A class selector has the name as its key, whatever the spelling; an ID selector has the
spelling without the white space at its end (`selectorMembers_spelling`). So both have the same key
iff the spelling is plain (`IsPlain`), and an escaped letter tells them apart
(`escaped_id_differs`).

Read from the left, a spelling is cut into the same parts by the lexer as by the grammar, provided
that no part can go on behind it (`Ends`). From its end, the white space that is taken off is that
behind a hexadecimal escape, which is no part of the name, or it is at the end of the name
(`Spells.ebbs`).
-/

namespace JavaConstants

namespace Stylesheet

/-! ## Characters -/

theorem of_isSpace {c : Char} (h : isSpace c = true) :
    isHexDigit c = false ∧ isNameChar c = false ∧ c ≠ '\\' ∧ c ≠ '-' := by
  have hc : c = ' ' ∨ c = '\t' ∨ c = '\n' ∨ c = '\r' ∨ c = '\x0c' := by
    simpa [isSpace, isNewline, or_assoc] using h
  rcases hc with rfl | rfl | rfl | rfl | rfl <;> decide

theorem isBlank_of_isHexDigit {c : Char} (h : isHexDigit c = true) : Unicode.isBlank c = false := by
  have hle {a b : Char} : a ≤ b ↔ a.toNat ≤ b.toNat := by
    rw [Char.le_def, UInt32.le_iff_toNat_le]
    rfl
  have hrange : '0'.toNat ≤ c.toNat ∧ c.toNat ≤ 'f'.toNat := by
    rw [isHexDigit, hexDigit?] at h
    simp only [hle] at h
    split_ifs at h with h₀ h₁ h₂
    · exact ⟨h₀.1, Nat.le_trans h₀.2 (by decide)⟩
    · exact ⟨Nat.le_trans (by decide) h₁.1, h₁.2⟩
    · exact ⟨Nat.le_trans (by decide) h₂.1, Nat.le_trans h₂.2 (by decide)⟩
    · cases h
  simp [Unicode.isBlank] at hrange ⊢
  omega

/-! ## Spellings

An escape of digits goes on as long as digits follow, up to six, and takes one white space with
it. So whether a spelling is read to its end depends on what follows, in itself and behind it. -/

/-- The character that stands for one of a stylesheet: NUL is replaced. -/
def shown (c : Char) : Char := if c = '\x00' then '\ufffd' else c

/-- The character with the number that some digits spell, or the replacement character. -/
def charOf (ds : List Char) : Char :=
  if (ofHexDigits ds).isValidChar ∧ ofHexDigits ds ≠ 0 then Char.ofNat (ofHexDigits ds)
  else '\ufffd'

/-- Whether a list starts with a hexadecimal digit. -/
def startsHexDigit (cs : List Char) : Bool := cs.head?.any isHexDigit

/-- The white space that may end a hexadecimal escape. -/
def terminators : List (List Char) := [[' '], ['\t'], ['\n'], ['\r', '\n'], ['\r'], ['\x0c']]

/-- What may stand behind a backslash for a character, `next` being what follows. -/
inductive Escape (next : List Char) : Char → List Char → Prop where
  /-- The character itself. -/
  | char {c : Char} (hhex : isHexDigit c = false) (hnewline : isNewline c = false) :
    Escape next (shown c) [c]
  /-- The digits of its number, which go on to the sixth or to the last. -/
  | hex {ds : List Char} (hne : ds ≠ []) (hds : ∀ d ∈ ds, isHexDigit d = true)
    (hlength : ds.length ≤ 6) (hend : ds.length = 6 ∨ startsHexDigit next = false) :
    Escape next (charOf ds) ds
  /-- The digits of its number and white space that ends them. -/
  | terminated {ds space : List Char} (hne : ds ≠ []) (hds : ∀ d ∈ ds, isHexDigit d = true)
    (hlength : ds.length ≤ 6) (hspace : space ∈ terminators) :
    Escape next (charOf ds) (ds ++ space)

/-- The spellings of a name, whatever it starts with. -/
inductive Spells : List Char → List Char → Prop where
  | nil : Spells [] []
  /-- A character as it is. -/
  | literal {c : Char} {n e : List Char} (hc : isNameChar c = true) (h : Spells n e) :
    Spells (shown c :: n) (c :: e)
  /-- A character behind a backslash. -/
  | escape {c : Char} {us n e : List Char} (hus : Escape e c us) (h : Spells n e) :
    Spells (c :: n) ('\\' :: (us ++ e))

/-- Whether a name may start with some characters. -/
inductive StartsIdent : List Char → Prop where
  | literal {c : Char} {e : List Char} (hc : isNameStart c = true) : StartsIdent (c :: e)
  | escape {e : List Char} : StartsIdent ('\\' :: e)
  | hyphen {c : Char} {e : List Char} (hc : isNameStart c = true ∨ c = '-' ∨ c = '\\') :
    StartsIdent ('-' :: c :: e)

/-- Whether no part of a name can go on with some characters. -/
def Ends (rest : List Char) : Prop :=
  ∀ c, rest.head? = some c →
    isHexDigit c = false ∧ isNameChar c = false ∧ isSpace c = false ∧ c ≠ '\\'

section Reading

variable {ds e n rest : List Char}

theorem hexLength_append {most : Nat} (hds : ∀ d ∈ ds, isHexDigit d = true)
    (hlength : ds.length ≤ most) (hend : ds.length = most ∨ startsHexDigit rest = false) :
    hexLength most (ds ++ rest) = ds.length := by
  induction ds generalizing most with
  | nil =>
    rcases most with _ | most
    · rfl
    · rcases rest with _ | ⟨c, rest⟩
      · rfl
      · have hc : isHexDigit c = false := hend.resolve_left (Nat.succ_ne_zero _).symm
        rw [List.nil_append, hexLength, hc]
        rfl
  | cons d ds ih =>
    obtain ⟨most, rfl⟩ := Nat.exists_eq_add_one_of_ne_zero (Nat.ne_zero_of_lt hlength)
    rw [List.forall_mem_cons] at hds
    simp only [List.length_cons, Nat.add_le_add_iff_right, Nat.add_right_cancel_iff] at hlength hend
    rw [List.cons_append, hexLength, if_pos hds.1, ih hds.2 hlength hend, List.length_cons,
      Nat.add_comm]

theorem spaceLength_eq_zero (h : ∀ c, rest.head? = some c → isSpace c = false) :
    spaceLength rest = 0 := by
  rcases rest with _ | ⟨c, rest⟩
  · rfl
  · have hc := h c rfl
    rw [spaceLength]
    · rw [hc]
      rfl
    · rintro _ rfl _
      cases hc

theorem spaceLength_append {space : List Char} (hspace : space ∈ terminators)
    (h : ∀ c, rest.head? = some c → isSpace c = false) :
    spaceLength (space ++ rest) = space.length := by
  have hnewline : rest.head? ≠ some '\n' := fun hc ↦ by
    have hspace := h _ hc
    revert hspace
    decide
  simp only [terminators, List.mem_cons, List.not_mem_nil, or_false] at hspace
  rcases hspace with rfl | rfl | rfl | rfl | rfl | rfl
  case inr.inr.inr.inr.inl =>
    rcases rest with _ | ⟨c, rest⟩
    · rfl
    · rw [List.singleton_append, spaceLength]
      · rfl
      · rintro _ - heq
        cases heq
        exact hnewline rfl
  all_goals rfl

theorem escapeLength_hex (hne : ds ≠ []) (hlength : hexLength 6 (ds ++ rest) = ds.length) :
    escapeLength (ds ++ rest) = ds.length + spaceLength rest := by
  obtain ⟨d, ds, rfl⟩ := List.exists_cons_of_ne_nil hne
  rw [escapeLength, hlength]
  simp only [List.length_cons]
  rw [← List.length_cons, List.drop_left]

theorem decodeEscape_hex (hne : ds ≠ []) (hlength : hexLength 6 (ds ++ rest) = ds.length) :
    decodeEscape (ds ++ rest) = charOf ds := by
  obtain ⟨d, ds, rfl⟩ := List.exists_cons_of_ne_nil hne
  rw [decodeEscape.eq_def, hlength]
  simp only [List.length_cons]
  rw [← List.length_cons, List.take_left]
  rfl

theorem nameLength_append (ds rest : List Char) :
    nameLength ds.length (ds ++ rest) = ds.length + nameLength 0 rest := by
  induction ds with
  | nil => simp
  | cons d ds ih =>
    rw [List.length_cons, List.cons_append, nameLength, ih]
    omega

theorem decodeName_append (ds rest : List Char) :
    decodeName ds.length (ds ++ rest) = decodeName 0 rest := by
  induction ds with
  | nil => rfl
  | cons d ds ih => rw [List.length_cons, List.cons_append, decodeName, ih]

theorem startsHexDigit_append (he : startsHexDigit e = false) (hrest : Ends rest) :
    startsHexDigit (e ++ rest) = false := by
  rcases e with _ | ⟨c, e⟩
  · rcases rest with _ | ⟨c, rest⟩
    · rfl
    · exact (hrest c rfl).1
  · exact he

theorem startsNewline_hex (hne : ds ≠ []) (hds : ∀ d ∈ ds, isHexDigit d = true) :
    startsNewline (ds ++ rest) = false := by
  obtain ⟨d, ds, rfl⟩ := List.exists_cons_of_ne_nil hne
  have hd := hds d List.mem_cons_self
  refine eq_false_of_ne_true fun hnewline ↦ ?_
  have hspace : isSpace d = true := by
    rw [isSpace, show isNewline d = true from hnewline, Bool.or_true]
  rw [(of_isSpace hspace).1] at hd
  cases hd

theorem startsHexDigit_terminator {space : List Char} (rest : List Char)
    (hspace : space ∈ terminators) : startsHexDigit (space ++ rest) = false := by
  simp only [terminators, List.mem_cons, List.not_mem_nil, or_false] at hspace
  rcases hspace with rfl | rfl | rfl | rfl | rfl | rfl <;> rfl

theorem Escape.reads {c : Char} {us : List Char} (h : Escape e c us) (hrest : Ends rest)
    (hspace : ∀ c, (e ++ rest).head? = some c → isSpace c = false) :
    escapeLength (us ++ (e ++ rest)) = us.length ∧ decodeEscape (us ++ (e ++ rest)) = c ∧
      startsNewline (us ++ (e ++ rest)) = false := by
  cases h with
  | @char c hhex hnewline =>
    have hlength : hexLength 6 (c :: (e ++ rest)) = 0 := by rw [hexLength, hhex]; rfl
    refine ⟨?_, ?_, hnewline⟩
    · rw [List.singleton_append, escapeLength, hlength]
      exact Nat.min_eq_left (Nat.le_add_left 1 _)
    · rw [List.singleton_append, decodeEscape, hlength]
      rfl
  | hex hne hds hlength hend =>
    have hlength := hexLength_append hds hlength (hend.imp_right (startsHexDigit_append · hrest))
    refine ⟨?_, decodeEscape_hex hne hlength, startsNewline_hex hne hds⟩
    rw [escapeLength_hex hne hlength, spaceLength_eq_zero hspace, Nat.add_zero]
  | terminated hne hds hlength hmem =>
    rw [List.append_assoc]
    have hend := startsHexDigit_terminator (e ++ rest) hmem
    have hlength := hexLength_append hds hlength (.inr hend)
    refine ⟨?_, decodeEscape_hex hne hlength, startsNewline_hex hne hds⟩
    rw [escapeLength_hex hne hlength, spaceLength_append hmem hspace, List.length_append]

theorem Spells.head?_append {c : Char} (h : Spells n e) (hc : (e ++ rest).head? = some c) :
    isNameChar c = true ∨ c = '\\' ∨ rest.head? = some c := by
  cases h with
  | nil => exact .inr (.inr hc)
  | literal hd =>
    cases hc
    exact .inl hd
  | escape =>
    cases hc
    exact .inr (.inl rfl)

theorem Spells.isSpace_head (h : Spells n e) (hrest : Ends rest) :
    ∀ c, (e ++ rest).head? = some c → isSpace c = false := by
  intro c hc
  by_contra hspace
  obtain ⟨-, hname, hne, -⟩ := of_isSpace (eq_true_of_ne_false hspace)
  rcases h.head?_append hc with h | h | h
  · rw [hname] at h
    cases h
  · exact hne h
  · exact hspace (hrest c h).2.2.1

theorem Ends.nameLength (hrest : Ends rest) : Stylesheet.nameLength 0 rest = 0 := by
  rcases rest with _ | ⟨c, rest⟩
  · rfl
  · obtain ⟨-, hname, -, hne⟩ := hrest c rfl
    rw [Stylesheet.nameLength, hname, beq_false_of_ne hne]
    rfl

/-- The lexer reads a spelling to its end. -/
theorem Spells.nameLength (h : Spells n e) (hrest : Ends rest) :
    Stylesheet.nameLength 0 (e ++ rest) = e.length := by
  induction h with
  | nil => exact hrest.nameLength
  | literal hc h ih =>
    rw [List.cons_append, Stylesheet.nameLength, if_pos hc, ih, List.length_cons, Nat.add_comm]
  | escape hus h ih =>
    obtain ⟨hlength, -, hnewline⟩ := hus.reads hrest (h.isSpace_head hrest)
    rw [List.cons_append, List.append_assoc, Stylesheet.nameLength, if_neg (by decide),
      if_pos (by rw [hnewline]; rfl), hlength, nameLength_append, ih, List.length_cons,
      List.length_append, Nat.add_comm]

/-- The name in a token is the one that is spelled. -/
theorem Spells.decodeName (h : Spells n e) : Stylesheet.decodeName 0 e = n := by
  induction h with
  | nil => rfl
  | @literal c n e hc h ih =>
    have hne : c ≠ '\\' := by
      rintro rfl
      revert hc
      decide
    rw [Stylesheet.decodeName, if_neg hne, ih]
    rfl
  | @escape c us n e hus h ih =>
    -- The token ends with the spelling, and nothing is a possible end of it.
    have hrest : Ends [] := nofun
    have hreads := hus.reads hrest (h.isSpace_head hrest)
    rw [List.append_nil] at hreads
    obtain ⟨hlength, hdecode, -⟩ := hreads
    rw [Stylesheet.decodeName, if_pos rfl, hlength, decodeName_append, hdecode, ih]

end Reading

/-! ## Plain spellings

The member of an ID selector is cut from the stylesheet and not decoded, and then white space is
taken off its end. A spelling survives this as the name only if it has no escape and no NUL in it,
and if the name itself does not end in white space. -/

/-- Whether a name is spelled as it is, and not at its end with white space. -/
def IsPlain (e : List Char) : Prop :=
  '\\' ∉ e ∧ '\x00' ∉ e ∧ ∀ c, e.getLast? = some c → Unicode.isBlank c = false

section Plain

variable {n e : List Char}

theorem Spells.length_le (h : Spells n e) : n.length ≤ e.length := by
  induction h with
  | nil => exact Nat.le_refl _
  | literal hc h ih => exact Nat.succ_le_succ ih
  | escape hus h ih =>
    rw [List.length_cons, List.length_cons, List.length_append]
    omega

theorem Escape.ne_nil {c : Char} {us : List Char} (h : Escape e c us) : us ≠ [] := by
  cases h with
  | char => exact List.cons_ne_nil _ _
  | hex hne => exact hne
  | terminated hne => exact List.append_ne_nil_of_left_ne_nil hne _

theorem shown_eq_self {c : Char} (h : Unicode.isBlank c = true) : shown c = c := by
  refine if_neg ?_
  rintro rfl
  revert h
  decide

/-- Only a spelling without escapes and NUL is the name itself. -/
theorem Spells.eq_iff (h : Spells n e) : e = n ↔ '\\' ∉ e ∧ '\x00' ∉ e := by
  induction h with
  | nil => simp
  | @literal c n e hc h ih =>
    have hne : '\\' ≠ c := by
      rintro rfl
      revert hc
      decide
    by_cases hnul : c = '\x00'
    · subst hnul
      refine iff_of_false (fun heq ↦ ?_) fun hmem ↦ hmem.2 List.mem_cons_self
      exact absurd (List.cons_eq_cons.mp heq).1 (by decide)
    · rw [shown, if_neg hnul, List.cons_eq_cons, eq_self, true_and, ih, List.mem_cons,
        List.mem_cons, or_iff_right hne, or_iff_right (Ne.symm hnul)]
  | @escape c us n e hus h ih =>
    refine iff_of_false ?_ fun hmem ↦ hmem.1 List.mem_cons_self
    -- The name is too short: an escape takes two characters or more for one of the name.
    intro heq
    have hle := h.length_le
    have hpos := List.length_pos_iff.mpr hus.ne_nil
    have hlength := congrArg List.length heq
    simp only [List.length_cons, List.length_append] at hlength
    omega

theorem dropEndWhile_append {p : Char → Bool} {as bs : List Char}
    (h : Unicode.dropEndWhile p bs ≠ []) :
    Unicode.dropEndWhile p (as ++ bs) = as ++ Unicode.dropEndWhile p bs := by
  simp only [Unicode.dropEndWhile, ne_eq, List.reverse_eq_nil_iff] at *
  rw [List.reverse_append, List.dropWhile_append, if_neg (by simpa using h), List.reverse_append,
    List.reverse_reverse]

theorem dropEndWhile_append_of_forall {p : Char → Bool} {as bs : List Char}
    (h : ∀ b ∈ bs, p b = true) : Unicode.dropEndWhile p (as ++ bs) = Unicode.dropEndWhile p as := by
  have hnil : bs.reverse.dropWhile p = [] :=
    List.dropWhile_eq_nil_iff.mpr fun b hb ↦ h b (List.mem_reverse.mp hb)
  rw [Unicode.dropEndWhile, List.reverse_append, List.dropWhile_append, hnil]
  rfl

theorem dropEndWhile_eq_self_iff {p : Char → Bool} {cs : List Char} :
    Unicode.dropEndWhile p cs = cs ↔ ∀ c, cs.getLast? = some c → p c = false := by
  rw [show Unicode.dropEndWhile p cs = cs.rdropWhile p from rfl, List.rdropWhile_eq_self_iff]
  constructor
  · intro h c hc
    obtain ⟨init, rfl⟩ := List.getLast?_eq_some_iff.mp hc
    have hlast := h (List.append_ne_nil_of_right_ne_nil _ (List.cons_ne_nil _ _))
    rwa [List.getLast_concat, Bool.not_eq_true] at hlast
  · intro h hne
    exact ne_true_of_eq_false (h _ (List.getLast?_eq_some_getLast hne))

/-- Whether a name ends with the character its spelling ends with, or is shorter than the spelling
without the white space at its end. -/
def Ebbs (n e : List Char) : Prop :=
  n.getLast? = e.getLast? ∨ n.length < (Unicode.dropEndWhile Unicode.isBlank e).length

theorem Ebbs.append (h : Ebbs n e) (hne : e ≠ []) (m as : List Char)
    (hlength : m.length ≤ as.length) : Ebbs (m ++ n) (as ++ e) := by
  rcases h with h | h
  · refine .inl ?_
    obtain ⟨c, hc⟩ := Option.ne_none_iff_exists'.mp (mt List.getLast?_eq_none_iff.mp hne)
    rw [List.getLast?_append, List.getLast?_append, h, hc]
    rfl
  · refine .inr ?_
    have hdrop : Unicode.dropEndWhile Unicode.isBlank e ≠ [] :=
      List.length_pos_iff.mp (Nat.zero_lt_of_lt h)
    rw [dropEndWhile_append hdrop, List.length_append, List.length_append]
    omega

theorem isBlank_of_mem_terminators {space : List Char} (hspace : space ∈ terminators) :
    ∀ b ∈ space, Unicode.isBlank b = true := by
  have hall : terminators.all (·.all Unicode.isBlank) = true := rfl
  exact List.all_eq_true.mp (List.all_eq_true.mp hall space hspace)

theorem dropEndWhile_hex {ds : List Char} (hds : ∀ d ∈ ds, isHexDigit d = true) :
    Unicode.dropEndWhile Unicode.isBlank ('\\' :: ds) = '\\' :: ds := by
  refine dropEndWhile_eq_self_iff.mpr fun c hc ↦ ?_
  rcases List.mem_cons.mp (List.mem_of_getLast? hc) with rfl | hmem
  · rfl
  · exact isBlank_of_isHexDigit (hds c hmem)

theorem Escape.ebbs {c : Char} {us : List Char} (h : Escape [] c us)
    (hblank : ∀ b, us.getLast? = some b → Unicode.isBlank b = true) : Ebbs [c] ('\\' :: us) := by
  cases h with
  | char => exact .inl (congrArg some (shown_eq_self (hblank _ rfl)))
  | hex hne hds =>
    refine .inr ?_
    rw [dropEndWhile_hex hds]
    exact Nat.succ_lt_succ (List.length_pos_iff.mpr hne)
  | terminated hne hds _ hspace =>
    refine .inr ?_
    rw [← List.cons_append, dropEndWhile_append_of_forall (isBlank_of_mem_terminators hspace),
      dropEndWhile_hex hds]
    exact Nat.succ_lt_succ (List.length_pos_iff.mpr hne)

/-- White space at the end of a spelling is either in the name or taken off. -/
theorem Spells.ebbs (h : Spells n e)
    (hblank : ∀ b, e.getLast? = some b → Unicode.isBlank b = true) : Ebbs n e := by
  induction h with
  | nil => exact .inl rfl
  | @literal c n e hc h ih =>
    by_cases hne : e = []
    · subst hne
      cases h
      exact .inl (congrArg some (shown_eq_self (hblank _ rfl)))
    · have htail := ih fun b hb ↦ hblank b (by rw [List.getLast?_cons, hb]; rfl)
      exact htail.append hne [shown c] [c] (Nat.le_refl _)
  | @escape c us n e hus h ih =>
    by_cases hne : e = []
    · subst hne
      cases h
      rw [List.append_nil] at hblank ⊢
      exact hus.ebbs fun b hb ↦ hblank b (by rw [List.getLast?_cons, hb]; rfl)
    · have htail := ih fun b hb ↦ hblank b (by
        rw [List.getLast?_cons, List.getLast?_append, hb]; rfl)
      exact htail.append hne [c] ('\\' :: us) (by simp)

theorem Spells.dropEndWhile_eq_iff (h : Spells n e) :
    Unicode.dropEndWhile Unicode.isBlank e = n ↔ IsPlain e := by
  constructor
  · intro heq
    have hlast : ∀ c, e.getLast? = some c → Unicode.isBlank c = false := by
      intro c hc
      by_contra hblank
      rw [Bool.not_eq_false] at hblank
      have hebbs := h.ebbs fun b hb ↦ by rwa [Option.some.inj (hb.symm.trans hc)]
      rcases hebbs with hlast | hlt
      · -- The name ends with white space, so that would have been taken off.
        have hself : Unicode.dropEndWhile Unicode.isBlank n = n := by
          rw [← heq]
          exact List.rdropWhile_idempotent _ _
        rw [dropEndWhile_eq_self_iff.mp hself c (hlast.trans hc)] at hblank
        cases hblank
      · rw [heq] at hlt
        exact Nat.lt_irrefl _ hlt
    rw [dropEndWhile_eq_self_iff.mpr hlast] at heq
    obtain ⟨hescape, hnul⟩ := h.eq_iff.mp heq
    exact ⟨hescape, hnul, hlast⟩
  · rintro ⟨hescape, hnul, hlast⟩
    rw [dropEndWhile_eq_self_iff.mpr hlast]
    exact h.eq_iff.mpr ⟨hescape, hnul⟩

end Plain

/-! ## Tokens -/

section Tokens

variable {n e rest : List Char}

theorem isDigit_of_isNameStart {c : Char} (h : isNameStart c = true) : c.isDigit = false := by
  refine eq_false_of_ne_true fun hdigit ↦ ?_
  have hrange : 48 ≤ c.toNat ∧ c.toNat ≤ 57 := by
    simpa [Char.isDigit, UInt32.le_iff_toNat_le] using hdigit
  have hname : 58 ≤ c.toNat := by
    simp only [isNameStart, Bool.or_eq_true, beq_iff_eq, decide_eq_true_eq] at h
    rcases h with ((h | rfl) | rfl) | h
    · simp only [Char.isAlpha, Char.isUpper, Char.isLower, UInt32.le_iff_toNat_le, Bool.or_eq_true,
        Bool.and_eq_true, decide_eq_true_eq] at h
      exact h.elim (fun h ↦ Nat.le_trans (by decide) h.1) fun h ↦ Nat.le_trans (by decide) h.1
    · decide
    · exact absurd hrange.1 (by decide)
    · omega
  omega

theorem of_startsIdent {c : Char} {cs : List Char} (h : StartsIdent (c :: cs)) :
    isSpace c = false ∧ c.isDigit = false ∧ c ∉ ['"', '\'', '.', '+'] := by
  have hname : isNameStart c = true ∨ c = '\\' ∨ c = '-' := by
    cases h with
    | literal hc => exact .inl hc
    | escape => exact .inr (.inl rfl)
    | hyphen => exact .inr (.inr rfl)
  refine ⟨?_, ?_, ?_⟩
  · by_contra hspace
    obtain ⟨-, hchar, hescape, hhyphen⟩ := of_isSpace (eq_true_of_ne_false hspace)
    rw [isNameChar, Bool.or_eq_false_iff, Bool.or_eq_false_iff] at hchar
    rcases hname with h | h | h
    · rw [hchar.1.1] at h
      cases h
    · exact hescape h
    · exact hhyphen h
  · rcases hname with h | rfl | rfl
    · exact isDigit_of_isNameStart h
    · rfl
    · rfl
  · intro hmem
    simp only [List.mem_cons, List.not_mem_nil, or_false] at hmem
    rcases hmem with rfl | rfl | rfl | rfl <;> revert hname <;> decide

theorem StartsIdent.not_number {c : Char} {cs : List Char} (h : StartsIdent (c :: cs))
    (rest : List Char) : ¬(startsNumber c (cs ++ rest) = true ∨ ((c = '+' ∨ c = '-') ∧
      (startsDigit (cs ++ rest) = true ∨
        ((cs ++ rest).head? = some '.' ∧ startsDigit ((cs ++ rest).drop 1) = true)))) := by
  obtain ⟨-, hdigit, hmem⟩ := of_startsIdent h
  simp only [List.mem_cons, List.not_mem_nil, or_false, not_or] at hmem
  rintro (hnumber | ⟨rfl | rfl, hnumber⟩)
  · rw [startsNumber, hdigit, beq_false_of_ne hmem.2.2.1] at hnumber
    cases hnumber
  · exact hmem.2.2.2 rfl
  · cases h with
    | literal hc => exact absurd hc (by decide)
    | @hyphen d e hd =>
      have hdigit : d.isDigit = false ∧ d ≠ '.' := by
        rcases hd with hd | rfl | rfl
        · refine ⟨isDigit_of_isNameStart hd, ?_⟩
          rintro rfl
          exact absurd hd (by decide)
        · decide
        · decide
      rcases hnumber with hnumber | ⟨hdot, -⟩
      · rw [show startsDigit (d :: e ++ rest) = d.isDigit from rfl, hdigit.1] at hnumber
        cases hnumber
      · exact hdigit.2 (Option.some.inj hdot)

theorem Spells.startsName {c : Char} {cs : List Char} (h : Spells n (c :: cs))
    (hstart : StartsIdent (c :: cs)) (hrest : Ends rest) :
    Stylesheet.startsName c (cs ++ rest) = true := by
  cases hstart with
  | literal hc => rw [Stylesheet.startsName, hc]; rfl
  | escape =>
    cases h with
    | literal hc => exact absurd hc (by decide)
    | escape hus h =>
      obtain ⟨-, -, hnewline⟩ := hus.reads hrest (h.isSpace_head hrest)
      rw [Stylesheet.startsName, List.append_assoc, hnewline]
      rfl
  | hyphen hd =>
    rw [Stylesheet.startsName, List.cons_append]
    rcases hd with h | rfl | rfl
    · simp [h]
    · rfl
    · rfl

theorem Spells.take_two_ne {c : Char} {cs : List Char} (h : Spells n (c :: cs))
    (hrest : rest.head? = some '{') : ¬(c = '-' ∧ (cs ++ rest).take 2 = ['-', '>']) := by
  rintro ⟨rfl, htake⟩
  obtain ⟨m, hcs⟩ : ∃ m, Spells m cs := by
    cases h with
    | literal _ h => exact ⟨_, h⟩
  obtain ⟨ds, hds⟩ : ∃ ds, cs ++ rest = '-' :: '>' :: ds := by
    rcases hcs' : cs ++ rest with _ | ⟨a, _ | ⟨b, ds⟩⟩
    · rw [hcs'] at htake
      cases htake
    · rw [hcs'] at htake
      cases htake
    · rw [hcs'] at htake
      cases htake
      exact ⟨ds, rfl⟩
  -- The `>` is neither part of a spelling nor the brace behind it.
  cases hcs with
  | nil =>
    rw [List.nil_append] at hds
    rw [hds] at hrest
    cases hrest
  | literal _ htail =>
    obtain ⟨-, heq⟩ := List.cons_eq_cons.mp hds
    rcases htail.head?_append (congrArg List.head? heq) with h | h | h
    · exact absurd h (by decide)
    · exact absurd h (by decide)
    · rw [hrest] at h
      exact absurd h (by decide)
  | escape => exact absurd (List.cons_eq_cons.mp hds).1 (by decide)

theorem scanToken_ident {c : Char} {cs : List Char} (h : Spells n (c :: cs))
    (hstart : StartsIdent (c :: cs)) (hrest : rest.head? = some '{') :
    scanToken c (cs ++ rest) = (.ident, cs.length) := by
  have hends : Ends rest := by
    intro d hd
    rw [hrest] at hd
    cases hd
    decide
  obtain ⟨hspace, hdigit, hmem⟩ := of_startsIdent hstart
  simp only [List.mem_cons, List.not_mem_nil, or_false, not_or] at hmem
  have hlength := h.nameLength hends
  have hname : scanName c (cs ++ rest) = (.ident, cs.length) := by
    rw [List.cons_append, List.length_cons] at hlength
    obtain ⟨rest, rfl⟩ := List.head?_eq_some_iff.mp hrest
    rw [scanName]
    simp only [hlength, Nat.add_sub_cancel, List.drop_left]
    rfl
  rw [scanToken.eq_def, hspace, if_neg Bool.false_ne_true, if_neg (by tauto),
    if_neg (hstart.not_number rest), if_neg (h.take_two_ne hrest),
    if_pos (h.startsName hstart hends), hname]

theorem tokenize_cons {c : Char} {us rest : List Char} {kind : TokenKind}
    (h : scanToken c (us ++ rest) = (kind, us.length)) (p : Position) :
    tokenize p (c :: (us ++ rest)) =
      ⟨kind, c :: us, p.advance (c :: us)⟩ :: tokenize (p.advance (c :: us)) rest := by
  rw [tokenize, h]
  simp only [List.take_left, List.drop_left]

theorem StartsIdent.exists_cons {e : List Char} (h : StartsIdent e) : ∃ c cs, e = c :: cs := by
  cases h <;> exact ⟨_, _, rfl⟩

theorem scanToken_dot (hstart : StartsIdent e) (rest : List Char) :
    scanToken '.' (e ++ rest) = (.delim '.', 0) := by
  obtain ⟨c, e, rfl⟩ := hstart.exists_cons
  obtain ⟨-, hdigit, -⟩ := of_startsIdent hstart
  have hnumber : startsNumber '.' (c :: e ++ rest) = false := by
    rw [startsNumber, show startsDigit (c :: e ++ rest) = c.isDigit from rfl, hdigit]
    rfl
  rw [scanToken.eq_def, hnumber]
  rfl

theorem scanToken_hash (h : Spells n e) (hstart : StartsIdent e) (hrest : Ends rest) :
    scanToken '#' (e ++ rest) = (.hash, e.length) := by
  have hbegins : beginsName (e ++ rest) = true := by
    rcases e with _ | ⟨c, cs⟩
    · cases hstart
    · exact h.startsName hstart hrest
  rw [scanToken.eq_def, show startsNumber '#' (e ++ rest) = false from rfl,
    show startsName '#' (e ++ rest) = false from rfl]
  simp [hbegins, h.nameLength hrest]
  rfl

end Tokens

theorem dropEndWhile_cons {p : Char → Bool} {c : Char} (hc : p c = false) (cs : List Char) :
    Unicode.dropEndWhile p (c :: cs) = c :: Unicode.dropEndWhile p cs := by
  rw [Unicode.dropEndWhile, Unicode.dropEndWhile, List.reverse_cons, List.dropWhile_append]
  split_ifs with hnil
  · rw [List.isEmpty_iff.mp hnil, List.dropWhile_cons_of_neg (by rw [hc]; decide)]
    rfl
  · rw [List.reverse_append]
    rfl

theorem tokenize_block (p : Position) : ∃ q r, tokenize p ['{', '}'] =
    [⟨.opening .brace, ['{'], q⟩, ⟨.closing .brace, ['}'], r⟩] := by
  have hopening : scanToken '{' ([] ++ ['}']) = (.opening .brace, 0) := rfl
  have hclosing : scanToken '}' ([] ++ []) = (.closing .brace, 0) := rfl
  have hfirst := tokenize_cons hopening p
  have hsecond := tokenize_cons hclosing (p.advance ['{'])
  rw [List.nil_append] at hfirst hsecond
  exact ⟨_, _, by rw [hfirst, hsecond, tokenize]⟩

theorem tokenize_class {n e : List Char} (h : Spells n e) (hstart : StartsIdent e) (p : Position) :
    ∃ q r s t, tokenize p ('.' :: (e ++ ['{', '}'])) =
      [⟨.delim '.', ['.'], q⟩, ⟨.ident, e, r⟩, ⟨.opening .brace, ['{'], s⟩,
        ⟨.closing .brace, ['}'], t⟩] := by
  obtain ⟨c, e, rfl⟩ := hstart.exists_cons
  have hdot : scanToken '.' ([] ++ (c :: e ++ ['{', '}'])) = (.delim '.', 0) :=
    scanToken_dot hstart _
  have hident : scanToken c (e ++ ['{', '}']) = (.ident, e.length) := scanToken_ident h hstart rfl
  obtain ⟨s, t, hblock⟩ := tokenize_block ((p.advance ['.']).advance (c :: e))
  refine ⟨p.advance ['.'], (p.advance ['.']).advance (c :: e), s, t, ?_⟩
  rw [← List.nil_append (c :: e ++ _), tokenize_cons hdot, List.cons_append,
    tokenize_cons hident, hblock]

theorem tokenize_id {n e : List Char} (h : Spells n e) (hstart : StartsIdent e) (p : Position) :
    ∃ q s t, tokenize p ('#' :: (e ++ ['{', '}'])) =
      [⟨.hash, '#' :: e, q⟩, ⟨.opening .brace, ['{'], s⟩, ⟨.closing .brace, ['}'], t⟩] := by
  have hends : Ends ['{', '}'] := by
    intro c hc
    cases hc
    decide
  obtain ⟨s, t, hblock⟩ := tokenize_block (p.advance ('#' :: e))
  refine ⟨p.advance ('#' :: e), s, t, ?_⟩
  rw [tokenize_cons (scanToken_hash h hstart hends), hblock]

/-- The members of a class selector and of an ID selector, for each spelling of each name, and the
keys they come to: the same iff the spelling is plain. -/
theorem selectorMembers_spelling {n e : List Char} (h : Spells n e) (hstart : StartsIdent e) :
    selectorMembers (String.ofList ('.' :: (e ++ ['{', '}']))) = .ok [String.ofList ('.' :: n)] ∧
      selectorMembers (String.ofList ('#' :: (e ++ ['{', '}']))) =
        .ok [String.ofList ('#' :: Unicode.dropEndWhile Unicode.isBlank e)] ∧
      ∀ o : CssOptions, o.writeClassSelector = true → o.writeIdSelector = true →
        o.keys [String.ofList ('.' :: n)] = [String.ofList n] ∧
        (o.keys [String.ofList ('#' :: Unicode.dropEndWhile Unicode.isBlank e)] =
          [String.ofList n] ↔ IsPlain e) := by
  refine ⟨?_, ?_, fun o hclass hid ↦ ⟨?_, ?_⟩⟩
  · obtain ⟨q, r, s, t, htokens⟩ := tokenize_class h hstart .start
    have hname : (⟨.ident, e, r⟩ : Token).name = n := h.decodeName
    rw [selectorMembers, String.toList_ofList]
    simp only [htokens]
    rw [← hname]
    rfl
  · obtain ⟨q, s, t, htokens⟩ := tokenize_id h hstart .start
    rw [selectorMembers, String.toList_ofList]
    simp only [htokens]
    -- The number sign is no white space, so only the end of the spelling is cut.
    rw [← dropEndWhile_cons (by decide)]
    rfl
  · simp [CssOptions.keys, hclass]
  · rw [← h.dropEndWhile_eq_iff]
    simp [CssOptions.keys, hid, String.ofList_inj]

theorem spells_escapedA : Spells ['a', 'b'] ['\\', '6', '1', ' ', 'b'] := by
  have hb : Spells ['b'] ['b'] := .literal (c := 'b') rfl .nil
  have hdigits : ['6', '1'].all isHexDigit = true := rfl
  have ha : Escape ['b'] 'a' (['6', '1'] ++ [' ']) :=
    .terminated (List.cons_ne_nil _ _) (List.all_eq_true.mp hdigits) (by decide) (by decide)
  exact .escape ha hb

theorem selectorMembers_spelling_escapedA :
    selectorMembers (String.ofList ['.', '\\', '6', '1', ' ', 'b', '{', '}']) = .ok [".ab"] ∧
      selectorMembers (String.ofList ['#', '\\', '6', '1', ' ', 'b', '{', '}']) =
        .ok ["#\\61 b"] := by
  obtain ⟨hclass, hid, -⟩ := selectorMembers_spelling spells_escapedA .escape
  exact ⟨hclass, hid⟩

/-- An ID selector with an escaped letter does not have the name as its member. -/
theorem escaped_id_differs : ¬∀ n e, Spells n e → StartsIdent e →
    selectorMembers (String.ofList ('#' :: (e ++ ['{', '}']))) =
      .ok [String.ofList ('#' :: n)] := by
  intro h
  have hid := h _ _ spells_escapedA .escape
  have hmember : selectorMembers (String.ofList
      ('#' :: (['\\', '6', '1', ' ', 'b'] ++ ['{', '}']))) = .ok ["#\\61 b"] := by cbv
  rw [hmember] at hid
  exact absurd (List.cons.inj (Except.ok.inj hid)).1 (by decide)

end Stylesheet

end JavaConstants
