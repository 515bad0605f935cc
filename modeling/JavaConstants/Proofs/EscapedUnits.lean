import JavaConstants.Proofs.LoadedProperties

/-!
# Escapes as units

What a key or a value says is told in UTF-16 units: a character stands for its own, and an escape
`\uXXXX` for the one it spells, which may be half a pair (`StandsFor`). The decoder goes through the
characters with a first surrogate held back; what it comes to are the units read as characters,
where a surrogate without its partner is lost (`unescape?_eq_some_iff`).

Every text is read from its start up to its end, to a backslash with nothing behind it, or to a `\u`
without its digits (`exists_standsFor`).
-/

namespace JavaConstants

namespace Properties

/-- The units that a text stands for, piece by piece from its start. -/
inductive StandsFor : List Char → List Nat → Prop where
  | nil : StandsFor [] []
  /-- A character that is no backslash stands for itself. -/
  | plain {c : Char} {cs : List Char} {us : List Nat} (hc : c ≠ '\\') (h : StandsFor cs us) :
    StandsFor (c :: cs) (charUnits c ++ us)
  /-- Four digits behind `\u` stand for a unit. -/
  | unit {u : Nat} {escape cs : List Char} {us : List Nat} (hu : SpellsUnit u escape)
    (h : StandsFor cs us) : StandsFor (escape ++ cs) (u :: us)
  /-- Four letters behind a backslash stand for control characters. -/
  | control {letter c : Char} {cs : List Char} {us : List Nat}
    (hc : (letter, c) ∈ [('t', '\t'), ('n', '\n'), ('r', '\r'), ('f', '\x0c')])
    (h : StandsFor cs us) : StandsFor ('\\' :: letter :: cs) (charUnits c ++ us)
  /-- Any other character behind a backslash stands for itself. -/
  | escaped {c : Char} {cs : List Char} {us : List Nat} (hc : c ∉ ['u', 't', 'n', 'r', 'f'])
    (h : StandsFor cs us) : StandsFor ('\\' :: c :: cs) (charUnits c ++ us)

/-- Whether the pieces of a text lead up to a `\u` with fewer than four digits behind it. -/
def Malformed (cs : List Char) : Prop :=
  ∃ front us rest, cs = front ++ '\\' :: 'u' :: rest ∧ StandsFor front us ∧
    (rest.takeWhile isHexDigit).length < 4

/-! ## Digits -/

theorem length_takeWhile_lt_iff {p : Char → Bool} {n : Nat} {cs : List Char} :
    (cs.takeWhile p).length < n ↔ ¬ (n ≤ cs.length ∧ (cs.take n).all p) := by
  induction n generalizing cs with
  | zero => simp
  | succ n ih =>
    rcases cs with _ | ⟨c, cs⟩
    · simp
    · rw [List.take_succ_cons, List.all_cons, List.length_cons, Nat.succ_le_succ_iff]
      by_cases hc : p c = true
      · rw [List.takeWhile_cons_of_pos hc, List.length_cons, Nat.succ_lt_succ_iff, ih, hc,
          Bool.true_and]
      · rw [List.takeWhile_cons_of_neg hc]
        simp [hc]

theorem SpellsUnit.convert_append {u : Nat} {escape : List Char} (h : SpellsUnit u escape)
    (cs : List Char) :
    convert (textUnits (escape ++ cs)) = (convert (textUnits cs)).map (u :: ·) := by
  rcases h with ⟨hdigits⟩
  exact (convert_textUnits_unicode _).trans (if_pos ⟨by simp, by simpa using hdigits⟩)

theorem convert_malformed {rest : List Char} (h : (rest.takeWhile isHexDigit).length < 4) :
    convert (textUnits ('\\' :: 'u' :: rest)) = none :=
  (convert_textUnits_unicode rest).trans (if_neg (length_takeWhile_lt_iff.mp h))

/-! ## Pieces

A text is read piece by piece from its start, and what is read stays read. So a text that is not
read to its end has a first piece that cannot be, and there are two kinds of those. -/

theorem convert_backslash {c : Char} (hc : c ≠ 'u') (cs : List Char) :
    convert (textUnits ('\\' :: c :: cs)) =
      (convert (textUnits cs)).map (charUnits (controlFor c) ++ ·) :=
  convert_controlFor hc (textUnits cs)

theorem controlFor_of_notMem {c : Char} (h : c ∉ ['u', 't', 'n', 'r', 'f']) :
    controlFor c = c ∧ c ≠ 'u' := by
  simp only [List.mem_cons, List.not_mem_nil, or_false, not_or] at h
  obtain ⟨hu, ht, hn, hr, hf⟩ := h
  exact ⟨by rw [controlFor, if_neg ht, if_neg hn, if_neg hr, if_neg hf], hu⟩

namespace StandsFor

variable {cs : List Char} {us : List Nat}

theorem convert_append (h : StandsFor cs us) (rest : List Char) :
    convert (textUnits (cs ++ rest)) = (convert (textUnits rest)).map (us ++ ·) := by
  induction h with
  | nil => exact Option.map_id'.symm
  | plain hc h ih =>
    rw [List.cons_append, textUnits_cons, convert_charUnits hc, ih, Option.map_map]
    simp [Function.comp_def]
  | unit hu h ih =>
    rw [List.append_assoc, hu.convert_append, ih, Option.map_map]
    rfl
  | control hc h ih =>
    obtain ⟨hcontrol, hu, _⟩ := controlFor_of_letter hc
    rw [List.cons_append, List.cons_append, convert_backslash hu, hcontrol, ih, Option.map_map]
    simp [Function.comp_def]
  | escaped hc h ih =>
    obtain ⟨hcontrol, hu⟩ := controlFor_of_notMem hc
    rw [List.cons_append, List.cons_append, convert_backslash hu, hcontrol, ih, Option.map_map]
    simp [Function.comp_def]

theorem convert_eq (h : StandsFor cs us) : convert (textUnits cs) = some us := by
  have hread := h.convert_append []
  rw [List.append_nil] at hread
  rw [hread, textUnits_nil, convert, Option.map_some, List.append_nil]

theorem isContinued (h : StandsFor cs us) : isContinued cs = false := by
  have hpair (c : Char) : Properties.isContinued ['\\', c] = false := by
    by_cases hc : c = '\\'
    · rw [hc]
      rfl
    · exact @isContinued_of_getLast ['\\'] c hc
  induction h with
  | nil => rfl
  | @plain c cs us hc h ih =>
    have hone : Properties.isContinued [c] = false := @isContinued_of_getLast [] c hc
    exact isContinued_append hone ih
  | unit hu h ih => exact isContinued_append hu.inert.isContinued ih
  | @control letter c cs us hc h ih => exact isContinued_append (hpair letter) ih
  | @escaped c cs us hc h ih => exact isContinued_append (hpair c) ih

end StandsFor

/-- A text begins with a piece that is read, unless its first backslash is open or has a `u` without
digits behind it. -/
theorem exists_piece (c : Char) (cs : List Char) : c :: cs = ['\\'] ∨
    (∃ more, c :: cs = '\\' :: 'u' :: more ∧ (more.takeWhile isHexDigit).length < 4) ∨
    ∃ piece us rest, c :: cs = piece ++ rest ∧ rest.length < (c :: cs).length ∧
      ∀ {text vs}, StandsFor text vs → StandsFor (piece ++ text) (us ++ vs) := by
  by_cases hc : c = '\\'
  · subst hc
    rcases cs with _ | ⟨d, cs⟩
    · exact .inl rfl
    · by_cases hu : d = 'u'
      · subst hu
        by_cases hdigits : (cs.takeWhile isHexDigit).length < 4
        · exact .inr (.inl ⟨cs, rfl, hdigits⟩)
        · rw [length_takeWhile_lt_iff, not_not] at hdigits
          obtain ⟨hlength, hall⟩ := hdigits
          match cs with
          | a₁ :: a₂ :: a₃ :: a₄ :: rest =>
            refine .inr (.inr ⟨['\\', 'u', a₁, a₂, a₃, a₄], [_], rest, rfl, ?_,
              .unit (.digits hall)⟩)
            simp only [List.length_cons]
            omega
      · -- Whatever the character behind the backslash is, the two are one piece.
        refine .inr (.inr ⟨['\\', d], charUnits (controlFor d), cs, rfl, ?_, ?_⟩)
        · simp only [List.length_cons]
          omega
        · intro text vs h
          by_cases hd : d ∈ ['t', 'n', 'r', 'f']
          · refine .control ?_ h
            simp only [List.mem_cons, List.not_mem_nil, or_false] at hd
            rcases hd with rfl | rfl | rfl | rfl <;> decide
          · have hmem : d ∉ ['u', 't', 'n', 'r', 'f'] := List.not_mem_cons_of_ne_of_not_mem hu hd
            rw [(controlFor_of_notMem hmem).1]
            exact .escaped hmem h
  · exact .inr (.inr ⟨[c], charUnits c, cs, rfl, Nat.lt_succ_self _, .plain hc⟩)

theorem exists_standsFor (cs : List Char) : ∃ front us rest, cs = front ++ rest ∧
    StandsFor front us ∧ (rest = [] ∨ rest = ['\\'] ∨
      ∃ more, rest = '\\' :: 'u' :: more ∧ (more.takeWhile isHexDigit).length < 4) := by
  induction hn : cs.length using Nat.strong_induction_on generalizing cs with
  | h n ih =>
    rcases cs with _ | ⟨c, cs⟩
    · exact ⟨[], [], [], rfl, .nil, .inl rfl⟩
    · obtain hopen | hshort | ⟨piece, us, rest, hsplit, hlength, hpiece⟩ := exists_piece c cs
      · exact ⟨[], [], c :: cs, rfl, .nil, .inr (.inl hopen)⟩
      · exact ⟨[], [], c :: cs, rfl, .nil, .inr (.inr hshort)⟩
      · obtain ⟨front, vs, rest', rfl, hfront, hrest⟩ := ih _ (hn ▸ hlength) rest rfl
        refine ⟨piece ++ front, us ++ vs, rest', ?_, hpiece hfront, hrest⟩
        rw [hsplit, List.append_assoc]

/-! ## Decoded escapes -/

/-- A text without an open backslash is read to its end, or it is malformed. -/
theorem standsFor_or_malformed {cs : List Char} (hclosed : isContinued cs = false) :
    (∃ us, StandsFor cs us) ∨ Malformed cs := by
  obtain ⟨front, us, rest, rfl, hfront, rfl | rfl | ⟨more, rfl, hmore⟩⟩ := exists_standsFor cs
  · rw [List.append_nil]
    exact .inl ⟨us, hfront⟩
  · rw [isContinued_concat, hfront.isContinued] at hclosed
    cases hclosed
  · exact .inr ⟨front, us, more, rfl, hfront, hmore⟩

theorem StandsFor.unescape?_eq {cs : List Char} {us : List Nat} (h : StandsFor cs us) :
    unescape? cs = some (unitsLossy us) := by
  rw [unescape?, unescapeAfter_eq_convert (by simp), h.convert_eq]
  rfl

theorem Malformed.unescape?_eq {cs : List Char} (h : Malformed cs) : unescape? cs = none := by
  obtain ⟨front, us, rest, rfl, hfront, hrest⟩ := h
  rw [unescape?, unescapeAfter_eq_convert (by simp), hfront.convert_append, convert_malformed hrest]
  rfl

/-- **Escapes are decoded unit by unit.** A text without an open backslash is rejected just if a
`\u` in it lacks digits. Any other stands for units, and it is decoded into what these are as
characters, each pair of surrogates one character and each surrogate without its partner U+FFFD. -/
theorem unescape?_eq_some_iff {cs : List Char} (hclosed : isContinued cs = false) :
    (unescape? cs = none ↔ Malformed cs) ∧
      ∀ text, unescape? cs = some text ↔ ∃ us, StandsFor cs us ∧ unitsLossy us = text := by
  rcases standsFor_or_malformed hclosed with ⟨us, hus⟩ | hmalformed
  · refine ⟨⟨fun hnone ↦ ?_, Malformed.unescape?_eq⟩, fun text ↦ ⟨fun htext ↦ ?_, ?_⟩⟩
    · rw [hus.unescape?_eq] at hnone
      cases hnone
    · rw [hus.unescape?_eq] at htext
      exact ⟨us, hus, Option.some.inj htext⟩
    · rintro ⟨vs, hvs, rfl⟩
      exact hvs.unescape?_eq
  · refine ⟨⟨fun _ ↦ hmalformed, Malformed.unescape?_eq⟩, fun text ↦ ⟨fun htext ↦ ?_, ?_⟩⟩
    · rw [hmalformed.unescape?_eq] at htext
      cases htext
    · rintro ⟨vs, hvs, rfl⟩
      exact hvs.unescape?_eq

/-- A first surrogate before another one, a pair of which one half is written in lower case, and a
second surrogate behind an escaped backslash. -/
theorem unescape?_eq_some_iff_surrogates :
    isContinued "\\uD83D\\uD83D\\ude00\\\\\\uDE00\\t".toList = false ∧
      unescape? "\\uD83D\\uD83D\\ude00\\\\\\uDE00\\t".toList = some "\ufffd😀\\\ufffd\t".toList := by
  have hclosed : isContinued "\\uD83D\\uD83D\\ude00\\\\\\uDE00\\t".toList = false := by decide
  refine ⟨hclosed, ((unescape?_eq_some_iff hclosed).2 _).mpr
    ⟨[0xD83D, 0xD83D, 0xDE00, 0x5C, 0xDE00, 9], ?_, by decide⟩⟩
  have hunit (a b c d : Char) (hdigits : [a, b, c, d].all isHexDigit = true) {cs us}
      (h : StandsFor cs us) :
      StandsFor ('\\' :: 'u' :: a :: b :: c :: d :: cs) (ofHexDigits [a, b, c, d] :: us) :=
    .unit (.digits hdigits) h
  exact hunit 'D' '8' '3' 'D' rfl (hunit 'D' '8' '3' 'D' rfl (hunit 'd' 'e' '0' '0' rfl
    (.escaped (by decide) (hunit 'D' 'E' '0' '0' rfl (.control (c := '\t') (by decide) .nil)))))

end Properties

end JavaConstants
