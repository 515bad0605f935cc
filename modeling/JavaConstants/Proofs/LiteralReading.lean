import JavaConstants.Proofs.Rendering
import JavaConstants.Proofs.Units

/-!
# Literals are read back

A compiler reads a source in two phases. The first translates Unicode escapes, wherever they stand;
a backslash begins one only behind an even number of backslashes. The second reads tokens from what
is left. Both are defined here on units, and every literal is read back as what it was made of,
whatever follows it (`readString_stringLiteral`).

Each unit of a text is spelled so that it ends behind an even number of backslashes (`Spells`). This
is what the first phase needs to go on from unit to unit.
-/

namespace JavaConstants

namespace Literal

/-! ## The first phase -/

/-- Translates Unicode escapes; `odd` tells whether an odd number of backslashes stands right
before. An escape may have more than one `u`. None where one is malformed. -/
def translateAfter (odd : Bool) : List Nat → Option (List Nat)
  | [] => some []
  | u :: us =>
    if u = '\\'.toNat ∧ odd = false ∧ us.head? = some 'u'.toNat then
      let digits := us.dropWhile (· == 'u'.toNat)
      match hexNumber? 0 4 digits with
      | some (unit, _) => (translateAfter false (digits.drop 4)).map (unit :: ·)
      | none => none
    else (translateAfter (u == '\\'.toNat && !odd) us).map (u :: ·)
termination_by us => us.length
decreasing_by
  · have hdrop := List.length_dropWhile_le (· == 'u'.toNat) us
    simp only [List.length_drop, List.length_cons]
    omega
  · simp

/-- Translates the Unicode escapes of a source. -/
def translate (us : List Nat) : Option (List Nat) := translateAfter false us

/-! ## The second phase -/

/-- What the units behind a backslash stand for. -/
def escapeUnits : List (Nat × Nat) :=
  [('b', '\x08'), ('s', ' '), ('t', '\t'), ('n', '\n'), ('f', '\x0c'), ('r', '\r'), ('"', '"'),
    ('\'', '\''), ('\\', '\\')].map fun (letter, c) ↦ (letter.toNat, c.toNat)

/-- The digits of an octal escape: three at most, and two if the first is above three. -/
def octalDigits (us : List Nat) : List Nat :=
  (us.takeWhile fun u ↦ '0'.toNat ≤ u && u ≤ '7'.toNat).take
    (if us.head?.any (· ≤ '3'.toNat) then 3 else 2)

/-- Reads an escape behind its backslash. -/
def readEscape : List Nat → Option (Nat × List Nat)
  | [] => none
  | u :: us =>
    match escapeUnits.lookup u with
    | some v => some (v, us)
    | none =>
      let digits := octalDigits (u :: us)
      if digits = [] then none
      else some (digits.foldl (fun n d ↦ 8 * n + (d - '0'.toNat)) 0, (u :: us).drop digits.length)

/-- Reads one unit of a literal between quotes: as it stands, or by an escape. -/
def readUnit (quote : Nat) : List Nat → Option (Nat × List Nat)
  | [] => none
  | u :: us =>
    if u = quote ∨ isLineEnd u then none
    else if u = '\\'.toNat then readEscape us
    else some (u, us)

theorem length_of_readUnit {quote : Nat} {us : List Nat} {v : Nat} {rest : List Nat}
    (h : readUnit quote us = some (v, rest)) : rest.length < us.length := by
  rcases us with _ | ⟨u, us⟩
  · cases h
  · rw [readUnit] at h
    split_ifs at h
    · rcases us with _ | ⟨w, us⟩
      · cases h
      · rw [readEscape] at h
        split at h
        · cases h
          simp
        · dsimp only at h
          split_ifs at h
          cases h
          simp
    · cases h
      simp

/-- Reads the rest of a string literal behind its first quote: the units it denotes, and what
follows the last quote. -/
def readUnits (us : List Nat) : Option (List Nat × List Nat) :=
  if us.head? = some '"'.toNat then some ([], us.drop 1)
  else match _h : readUnit '"'.toNat us with
    | some (v, rest) => (readUnits rest).map fun r ↦ (v :: r.1, r.2)
    | none => none
termination_by us.length
decreasing_by exact length_of_readUnit ‹_›

/-- Reads a string literal: from its quote up to the next one that is not escaped. A text block,
with three quotes, is another kind of literal. -/
def readString : List Nat → Option (List Nat × List Nat)
  | [] => none
  | u :: us => if u = '"'.toNat then readUnits us else none

/-- Reads a character literal. -/
def readCharacter : List Nat → Option (Nat × List Nat)
  | [] => none
  | u :: us =>
    if u = '\''.toNat then
      (readUnit '\''.toNat us).bind fun r ↦
        if r.2.head? = some '\''.toNat then some (r.1, r.2.drop 1) else none
    else none

/-! ## Spellings -/

/-- Whether a unit stands for itself between quotes. -/
def IsPlain (quote u : Nat) : Prop := u ≠ quote ∧ isLineEnd u = false ∧ u ≠ '\\'.toNat

/-- The ways to spell a unit between quotes, as the first phase reads them and as it leaves them. -/
inductive Spells (quote : Nat) : Nat → List Nat → List Nat → Prop where
  /-- As it is. -/
  | plain {u : Nat} (h : IsPlain quote u) : Spells quote u [u] [u]
  /-- By a unit behind a backslash. -/
  | escape {letter u : Nat} (h : escapeUnits.lookup letter = some u) :
    Spells quote u ['\\'.toNat, letter] ['\\'.toNat, letter]
  /-- By its number. -/
  | number {u : Nat} {digits : List Nat} (hdigits : hexNumber? 0 4 digits = some (u, []))
    (h : IsPlain quote u) : Spells quote u ('\\'.toNat :: 'u'.toNat :: digits) [u]

/-- The spellings of units one after another. -/
inductive SpellsAll (quote : Nat) : List Nat → List Nat → List Nat → Prop where
  | nil : SpellsAll quote [] [] []
  | cons {u : Nat} {us raw left raws lefts : List Nat} (h : Spells quote u raw left)
    (hs : SpellsAll quote us raws lefts) : SpellsAll quote (u :: us) (raw ++ raws) (left ++ lefts)

theorem SpellsAll.append {quote : Nat} {us vs raw raw' left left' : List Nat}
    (h : SpellsAll quote us raw left) (h' : SpellsAll quote vs raw' left') :
    SpellsAll quote (us ++ vs) (raw ++ raw') (left ++ left') := by
  induction h with
  | nil => exact h'
  | cons h hs ih =>
    rw [List.append_assoc, List.append_assoc]
    exact .cons h ih

theorem of_lookup_escapeUnits {letter u : Nat} (h : escapeUnits.lookup letter = some u) :
    letter ≠ 'u'.toNat ∧ isLineEnd letter = false := by
  have hall : ∀ e ∈ escapeUnits, e.1 ≠ 'u'.toNat ∧ isLineEnd e.1 = false := by decide
  obtain ⟨front, back, hsplit, _⟩ := List.lookup_eq_some_iff.mp h
  exact hall (letter, u) (by rw [hsplit]; simp)

theorem of_isSome_hexUnit? {u : Nat} (h : (hexUnit? u).isSome = true) :
    u ≠ 'u'.toNat ∧ isLineEnd u = false := by
  have hnone : ∀ v ∈ ['u'.toNat, '\n'.toNat, '\r'.toNat], hexUnit? v = none := by decide
  have hne : ∀ v ∈ ['u'.toNat, '\n'.toNat, '\r'.toNat], u ≠ v := by
    rintro v hv rfl
    rw [hnone u hv] at h
    cases h
  exact ⟨hne _ (by simp), by simp [isLineEnd, hne]⟩

theorem Spells.isLineEnd {quote u : Nat} {raw left : List Nat} (h : Spells quote u raw left) :
    (∀ w ∈ raw, isLineEnd w = false) ∧ ∀ w ∈ left, isLineEnd w = false := by
  rcases h with h | h | ⟨hdigits, h⟩
  · simpa using h.2.1
  · have hletter := of_lookup_escapeUnits h
    simpa [hletter.2] using by decide
  · obtain ⟨digits, rfl, _, hall, _⟩ := exists_of_hexNumber? hdigits
    refine ⟨?_, by simpa using h.2.1⟩
    rw [List.append_nil, List.forall_mem_cons, List.forall_mem_cons]
    exact ⟨by decide, by decide, fun d hd ↦ (of_isSome_hexUnit? (hall d hd)).2⟩

theorem SpellsAll.isLineEnd {quote : Nat} {us raw left : List Nat}
    (h : SpellsAll quote us raw left) :
    (∀ w ∈ raw, JavaConstants.isLineEnd w = false) ∧
      ∀ w ∈ left, JavaConstants.isLineEnd w = false := by
  induction h with
  | nil => exact ⟨nofun, nofun⟩
  | cons h hs ih =>
    rw [List.forall_mem_append, List.forall_mem_append]
    exact ⟨⟨h.isLineEnd.1, ih.1⟩, h.isLineEnd.2, ih.2⟩

/-! ### What the first phase does

Whether a backslash begins an escape depends on the backslashes in front of it. A spelling leaves
an even number behind, so the first phase goes on as at a start. -/

theorem translate_nil : translate [] = some [] := by
  rw [translate, translateAfter.eq_def]

/-- A unit that is no backslash stays, and no backslash stands before what follows it. -/
theorem translateAfter_cons {u : Nat} (hu : u ≠ '\\'.toNat) (odd : Bool) (us : List Nat) :
    translateAfter odd (u :: us) = (translate us).map (u :: ·) := by
  rw [translateAfter, if_neg fun h ↦ hu h.1, beq_eq_false_iff_ne.mpr hu, Bool.false_and, translate]

theorem translate_append_of_notMem {us : List Nat} (h : '\\'.toNat ∉ us) (vs : List Nat) :
    translate (us ++ vs) = (translate vs).map (us ++ ·) := by
  induction us with
  | nil => simp
  | cons u us ih =>
    rw [List.mem_cons, not_or] at h
    rw [List.cons_append, translate, translateAfter_cons (Ne.symm h.1), ih h.2, Option.map_map]
    rfl

theorem translate_escape {letter : Nat} (hletter : letter ≠ 'u'.toNat) (us : List Nat) :
    translate ('\\'.toNat :: letter :: us) =
      (translate us).map ('\\'.toNat :: letter :: ·) := by
  have hfirst : translate ('\\'.toNat :: letter :: us) =
      (translateAfter true (letter :: us)).map ('\\'.toNat :: ·) := by
    rw [translate, translateAfter, if_neg fun h ↦ hletter (Option.some.inj h.2.2)]
    rfl
  have hsecond : translateAfter true (letter :: us) = (translate us).map (letter :: ·) := by
    rw [translateAfter, if_neg (by simp), Bool.not_true, Bool.and_false, translate]
  rw [hfirst, hsecond, Option.map_map]
  rfl

theorem translate_number {u : Nat} {digits : List Nat}
    (hdigits : hexNumber? 0 4 digits = some (u, [])) (us : List Nat) :
    translate ('\\'.toNat :: 'u'.toNat :: digits ++ us) = (translate us).map (u :: ·) := by
  obtain ⟨digits, rfl, hlength, hall, hread⟩ := exists_of_hexNumber? hdigits
  rw [List.append_nil]
  have hstart : (digits ++ us).dropWhile (· == 'u'.toNat) = digits ++ us := by
    rcases digits with _ | ⟨d, digits⟩
    · cases hlength
    · have hd := (of_isSome_hexUnit? (hall d List.mem_cons_self)).1
      rw [List.cons_append, List.dropWhile_cons_of_neg (by simpa using hd)]
  have hdrop : ('u'.toNat :: (digits ++ us)).dropWhile (· == 'u'.toNat) = digits ++ us := by
    rw [List.dropWhile_cons_of_pos (by simp), hstart]
  rw [List.cons_append, List.cons_append, translate, translateAfter, if_pos ⟨rfl, rfl, rfl⟩]
  simp only [hdrop, hread, List.drop_left' hlength]
  rfl

theorem Spells.translate_append {quote u : Nat} {raw left : List Nat} (h : Spells quote u raw left)
    (us : List Nat) : translate (raw ++ us) = (translate us).map (left ++ ·) := by
  rcases h with h | h | ⟨hdigits, _⟩
  · exact translateAfter_cons h.2.2 false us
  · exact translate_escape (of_lookup_escapeUnits h).1 us
  · exact translate_number hdigits us

theorem SpellsAll.translate_append {quote : Nat} {vs raw left : List Nat}
    (h : SpellsAll quote vs raw left) (us : List Nat) :
    translate (raw ++ us) = (translate us).map (left ++ ·) := by
  induction h with
  | nil => simp
  | cons h hs ih =>
    rw [List.append_assoc, h.translate_append, ih, Option.map_map]
    simp [Function.comp_def]

/-! ### What the second phase does

A literal ends at its first quote that is part of no spelling. That nothing shorter is one is told
by reading the fronts of a literal: none comes to an end. -/

theorem Spells.readUnit_append {quote u : Nat} (hquote : quote ≠ '\\'.toNat) {raw left : List Nat}
    (h : Spells quote u raw left) (us : List Nat) : readUnit quote (left ++ us) = some (u, us) := by
  have hplain {u : Nat} (h : IsPlain quote u) : readUnit quote ([u] ++ us) = some (u, us) := by
    rw [List.singleton_append, readUnit, if_neg (by simp [h.1, h.2.1]), if_neg h.2.2]
  rcases h with h | h | ⟨_, h⟩
  · exact hplain h
  · rw [List.cons_append, readUnit, if_neg, if_pos rfl, List.singleton_append, readEscape, h]
    rintro (hslash | hslash)
    · exact hquote hslash.symm
    · exact absurd hslash (by decide)
  · exact hplain h

theorem Spells.readUnit_front {quote u : Nat} {raw front back : List Nat}
    (h : Spells quote u raw (front ++ back)) (hback : back ≠ []) : readUnit quote front = none := by
  generalize hleft : front ++ back = left at h
  have hsingle {u : Nat} (hleft : front ++ back = [u]) : readUnit quote front = none := by
    rcases front with _ | ⟨w, front⟩
    · rfl
    · exact absurd (List.append_eq_nil_iff.mp (List.cons.inj hleft).2).2 hback
  rcases h with h | h | ⟨_, h⟩
  · exact hsingle hleft
  · rcases front with _ | ⟨w, front⟩
    · rfl
    · obtain ⟨rfl, hrest⟩ := List.cons.inj hleft
      rcases front with _ | ⟨w, front⟩
      · simp [readUnit, readEscape]
      · exact absurd (List.append_eq_nil_iff.mp (List.cons.inj hrest).2).2 hback
  · exact hsingle hleft

/-- What stands before a literal's last quote is read unit by unit. -/
theorem readUnits_of_readUnit {us rest : List Nat} {u : Nat}
    (h : readUnit '"'.toNat us = some (u, rest)) :
    readUnits us = (readUnits rest).map fun r ↦ (u :: r.1, r.2) := by
  have hhead : us.head? ≠ some '"'.toNat := by
    rintro hhead
    obtain ⟨us, rfl⟩ := List.head?_eq_some_iff.mp hhead
    rw [readUnit, if_pos (.inl rfl)] at h
    cases h
  rw [readUnits, if_neg hhead]
  split
  · rename_i v rest' hread
    cases hread.symm.trans h
    rfl
  · rename_i hread
    cases hread.symm.trans h

theorem readUnits_of_readUnit_eq_none {us : List Nat} (hhead : us.head? ≠ some '"'.toNat)
    (h : readUnit '"'.toNat us = none) : readUnits us = none := by
  rw [readUnits, if_neg hhead]
  split
  · rename_i v rest hread
    cases hread.symm.trans h
  · rfl

theorem readUnits_nil : readUnits [] = none :=
  readUnits_of_readUnit_eq_none (by simp) rfl

theorem SpellsAll.readUnits_append {vs raw left : List Nat}
    (h : SpellsAll '"'.toNat vs raw left) (us : List Nat) :
    readUnits (left ++ us) = (readUnits us).map fun r ↦ (vs ++ r.1, r.2) := by
  induction h with
  | nil => simp
  | @cons u vs raw left raws lefts h hs ih =>
    rw [List.append_assoc, readUnits_of_readUnit (h.readUnit_append (by decide) (lefts ++ us)), ih,
      Option.map_map]
    rfl

theorem Spells.head?_ne {quote u : Nat} (hquote : quote ≠ '\\'.toNat) {raw left : List Nat}
    (h : Spells quote u raw left) : left.head? ≠ some quote := by
  rcases h with h | h | ⟨_, h⟩
  · simpa using h.1
  · simpa using hquote.symm
  · simpa using h.1

theorem SpellsAll.readUnits_front {vs raw left front back : List Nat}
    (h : SpellsAll '"'.toNat vs raw left) (hsplit : left ++ ['"'.toNat] = front ++ back)
    (hback : back ≠ []) : readUnits front = none := by
  induction h generalizing front with
  | nil =>
    obtain ⟨rfl, _⟩ | ⟨_, hnil⟩ := List.singleton_eq_append_iff.mp hsplit
    · exact readUnits_nil
    · exact absurd hnil hback
  | @cons u vs raw left raws lefts h hs ih =>
    rw [List.append_assoc] at hsplit
    obtain ⟨rest, rfl, hrest⟩ | ⟨rest, rfl, hrest⟩ := List.append_eq_append_iff.mp hsplit
    · have hread := h.readUnit_append (by decide) rest
      rw [readUnits_of_readUnit hread, ih hrest]
      rfl
    · by_cases hnil : rest = []
      · -- The spelling is whole, and nothing follows it.
        rw [hnil, List.append_nil] at h
        have hread := h.readUnit_append (by decide) []
        rw [List.append_nil] at hread
        rw [readUnits_of_readUnit hread, readUnits_nil]
        rfl
      · refine readUnits_of_readUnit_eq_none ?_ (h.readUnit_front hnil)
        intro hhead
        have hne := h.head?_ne (by decide)
        obtain ⟨front, rfl⟩ := List.head?_eq_some_iff.mp hhead
        exact hne rfl

/-! ## Literals -/

theorem isPlain_toNat {quote c : Char} (hquote : c ≠ quote) (hfeed : c ≠ '\n') (hreturn : c ≠ '\r')
    (hslash : c ≠ '\\') : IsPlain quote.toNat c.toNat := by
  have hne {d : Char} (h : c ≠ d) : c.toNat ≠ d.toNat := fun heq ↦ h (Char.toNat_inj.mp heq)
  exact ⟨hne hquote, isLineEnd_eq_false (hne hfeed) (hne hreturn), hne hslash⟩

theorem length_lowerHex4 (n : Nat) : (lowerHex4 n).length = 4 := length_fixedHex _ _ _

theorem all_isHexDigit_lowerHex4 (n : Nat) : (lowerHex4 n).all isHexDigit = true := by
  rw [lowerHex4, fixedHex, List.all_map, List.all_eq_true]
  intro i _
  rw [Function.comp_apply, isHexDigit, hexDigit?_lowerHexDigit _ (Nat.mod_lt _ (by decide))]
  rfl

theorem exists_spells {quote : Char} (hquote : quote ∈ quotes) {c : Char} (hc : c.toNat < 0x10000) :
    ∃ left, Spells quote.toNat c.toNat (textUnits (escapeChar quote c)) left := by
  have hletter {letter : Char} (h : escapeUnits.lookup letter.toNat = some c.toNat)
      (hlt : letter.toNat < 0x10000) :
      ∃ left, Spells quote.toNat c.toNat (textUnits ['\\', letter]) left := by
    refine ⟨['\\'.toNat, letter.toNat], ?_⟩
    rw [textUnits_cons, textUnits_cons, charUnits_of_lt (by decide), charUnits_of_lt hlt]
    exact .escape h
  rw [escapeChar]
  -- The escapes by a letter, the quote, control characters by number, and what stands as it is.
  split_ifs with hb ht hn hf hr hs hq hctrl
  · exact hletter (by rw [hb]; rfl) (by decide)
  · exact hletter (by rw [ht]; rfl) (by decide)
  · exact hletter (by rw [hn]; rfl) (by decide)
  · exact hletter (by rw [hf]; rfl) (by decide)
  · exact hletter (by rw [hr]; rfl) (by decide)
  · exact hletter (by rw [hs]; rfl) (by decide)
  · refine hletter ?_ hc
    simp only [quotes, List.mem_cons, List.not_mem_nil, or_false] at hquote
    rcases hquote with rfl | rfl <;> (rw [hq]; rfl)
  · have hread := hexNumber?_textUnits 0 4 (lowerHex4 c.toNat) [] fun _ ↦ rfl
    rw [length_lowerHex4, List.take_of_length_le (length_lowerHex4 _).le,
      if_pos ⟨le_rfl, all_isHexDigit_lowerHex4 _⟩, List.append_nil,
      List.drop_of_length_le (length_lowerHex4 _).le] at hread
    refine ⟨[c.toNat], ?_⟩
    rw [textUnits_cons, textUnits_cons, charUnits_of_lt (by decide), charUnits_of_lt (by decide),
      List.singleton_append, List.singleton_append]
    refine .number (hread.trans ?_) (isPlain_toNat hq hn hr hs)
    rw [← ofHexDigits, ofHexDigits_lowerHex4, Nat.mod_eq_of_lt hc, textUnits_nil, List.append_nil]
  · refine ⟨[c.toNat], ?_⟩
    rw [textUnits_cons, charUnits_of_lt hc]
    exact .plain (isPlain_toNat hq hn hr hs)

theorem escapeChar_of_large {quote : Char} (hquote : quote ∈ quotes) {c : Char}
    (hc : 0x10000 ≤ c.toNat) : escapeChar quote c = [c] := by
  have hne {d : Char} (hd : d.toNat < 0x10000) : c ≠ d := by
    rintro rfl
    omega
  have hq : c ≠ quote := by
    simp only [quotes, List.mem_cons, List.not_mem_nil, or_false] at hquote
    rcases hquote with rfl | rfl
    · exact hne (by decide)
    · exact hne (by decide)
  have hctrl : isControl c ≠ true := fun h ↦ absurd (isControl_toNat_lt h) (by omega)
  rw [escapeChar, if_neg (hne (by decide)), if_neg (hne (by decide)), if_neg (hne (by decide)),
    if_neg (hne (by decide)), if_neg (hne (by decide)), if_neg (hne (by decide)), if_neg hq,
    if_neg hctrl]

theorem isPlain_of_le {quote u : Nat} (hquote : quote < 0xD800) (hu : 0xD800 ≤ u) :
    IsPlain quote u := by
  have hne {c : Char} (hc : c.toNat < 0xD800) : u ≠ c.toNat := by omega
  exact ⟨by omega, isLineEnd_eq_false (hne (by decide)) (hne (by decide)), hne (by decide)⟩

theorem exists_spellsAll (cs : List Char) : ∃ left,
    SpellsAll '"'.toNat (textUnits cs) (textUnits (cs.flatMap (escapeChar '"'))) left := by
  have hquote : '"' ∈ quotes := by decide
  induction cs with
  | nil => exact ⟨[], .nil⟩
  | cons c cs ih =>
    obtain ⟨lefts, hlefts⟩ := ih
    rw [textUnits_cons, List.flatMap_cons, textUnits_append]
    rcases charUnits_cases c with ⟨hbmp, hunits⟩ | ⟨hlarge, high, low, hunits, hhigh, hlow, _⟩
    · obtain ⟨left, hleft⟩ := exists_spells hquote hbmp
      rw [hunits]
      exact ⟨_, .cons hleft hlefts⟩
    · rw [isHighSurrogate_iff] at hhigh
      rw [isLowSurrogate_iff] at hlow
      have hpair : SpellsAll '"'.toNat [high, low] [high, low] [high, low] :=
        .cons (.plain (isPlain_of_le (by decide) hhigh.1))
          (.cons (.plain (isPlain_of_le (by decide) (by omega))) .nil)
      rw [escapeChar_of_large hquote hlarge, hunits, textUnits_cons, hunits, textUnits_nil,
        List.append_nil]
      exact ⟨_, hpair.append hlefts⟩

theorem notMem_of_isLineEnd {cs : List Char} (h : ∀ u ∈ textUnits cs, isLineEnd u = false) :
    '\n' ∉ cs ∧ '\r' ∉ cs := by
  constructor
  · intro hc
    exact absurd (h _ ((toNat_mem_textUnits (by decide)).mpr hc)) (by decide)
  · intro hc
    exact absurd (h _ ((toNat_mem_textUnits (by decide)).mpr hc)) (by decide)

theorem textUnits_quoted {quote : Char} (hquote : quote.toNat < 0x10000) (cs : List Char) :
    textUnits (quote :: cs ++ [quote]) = quote.toNat :: (textUnits cs ++ [quote.toNat]) := by
  rw [List.cons_append, textUnits_cons, textUnits_append, textUnits_cons, charUnits_of_lt hquote,
    textUnits_nil, List.append_nil, List.singleton_append]

theorem textUnits_stringLiteral (v : String) : textUnits (stringLiteral v).toList =
    '"'.toNat :: (textUnits (v.toList.flatMap (escapeChar '"')) ++ ['"'.toNat]) := by
  rw [stringLiteral, String.toList_ofList, stringLiteralChars, textUnits_quoted (by decide)]

theorem textUnits_charLiteral (c : Char) : textUnits (charLiteral c).toList =
    '\''.toNat :: (textUnits (escapeChar '\'' c) ++ ['\''.toNat]) := by
  rw [charLiteral, String.toList_ofList, charLiteralChars, textUnits_quoted (by decide)]

/-- The first phase leaves the quotes and reads what stands between them and behind them. -/
theorem translate_quoted {quote : Nat} (hquote : quote ≠ '\\'.toNat) {raw left : List Nat}
    (h : ∀ us, translate (raw ++ us) = (translate us).map (left ++ ·)) (us : List Nat) :
    translate (quote :: (raw ++ [quote]) ++ us) =
      (translate us).map fun rest ↦ quote :: (left ++ quote :: rest) := by
  rw [List.cons_append, List.append_assoc, List.singleton_append, translate,
    translateAfter_cons hquote, h, translate, translateAfter_cons hquote, Option.map_map,
    Option.map_map]
  rfl

theorem readString_spelled {us left : List Nat} {raw : List Nat}
    (h : SpellsAll '"'.toNat us raw left) (rest : List Nat) :
    readString ('"'.toNat :: (left ++ '"'.toNat :: rest)) = some (us, rest) := by
  have hlast : readUnits ('"'.toNat :: rest) = some ([], rest) := by
    rw [readUnits]
    exact if_pos rfl
  rw [readString, if_pos rfl, h.readUnits_append, hlast, Option.map_some, List.append_nil]

theorem readCharacter_spelled {u : Nat} {raw left : List Nat} (h : Spells '\''.toNat u raw left)
    (rest : List Nat) :
    readCharacter ('\''.toNat :: (left ++ '\''.toNat :: rest)) = some (u, rest) := by
  rw [readCharacter, if_pos rfl, h.readUnit_append (by decide), Option.bind_some]
  exact if_pos rfl

theorem Spells.readCharacter_front {u : Nat} {raw left front back : List Nat}
    (h : Spells '\''.toNat u raw left) (hsplit : left ++ ['\''.toNat] = front ++ back)
    (hback : back ≠ []) : readCharacter ('\''.toNat :: front) = none := by
  rw [readCharacter, if_pos rfl]
  have hwhole : (readUnit '\''.toNat left).bind (fun r ↦
      if r.2.head? = some '\''.toNat then some (r.1, r.2.drop 1) else none) = none := by
    have hread := h.readUnit_append (by decide) []
    rw [List.append_nil] at hread
    rw [hread]
    rfl
  obtain ⟨rest, rfl, hrest⟩ | ⟨rest, rfl, hrest⟩ := List.append_eq_append_iff.mp hsplit
  · obtain ⟨rfl, _⟩ | ⟨_, hnil⟩ := List.singleton_eq_append_iff.mp hrest
    · rwa [List.append_nil]
    · exact absurd hnil hback
  · by_cases hnil : rest = []
    · rwa [hnil, List.append_nil] at hwhole
    · rw [h.readUnit_front hnil]
      rfl

/-- Whether a literal is read back as a value by one who reads such literals. -/
structure IsReadBack {α : Type} (read : List Nat → Option (α × List Nat)) (literal : String)
    (value : α) : Prop where
  /-- Whatever follows the literal, it has that value and leaves what the first phase makes of what
  follows. -/
  value_eq : ∀ t : String, (translate (textUnits (literal ++ t).toList)).bind read =
    (translate (textUnits t.toList)).map fun rest ↦ (value, rest)
  /-- There is no line end in it. -/
  notMem : '\n' ∉ literal.toList ∧ '\r' ∉ literal.toList
  /-- Nor is there one behind the first phase, and no quote before the last one ends the literal. -/
  closes : ∃ left, translate (textUnits literal.toList) = some left ∧
    (∀ u ∈ left, isLineEnd u = false) ∧
    ∀ front back, left = front ++ back → back ≠ [] → read front = none

/-- A literal between quotes that is translated piece by piece is read back. -/
theorem isReadBack_of_quoted {α : Type} {read : List Nat → Option (α × List Nat)}
    {literal : String} {value : α} {quote : Nat} {raw left : List Nat}
    (hquote : quote ≠ '\\'.toNat ∧ isLineEnd quote = false)
    (hliteral : textUnits literal.toList = quote :: (raw ++ [quote]))
    (htranslate : ∀ us, translate (raw ++ us) = (translate us).map (left ++ ·))
    (hend : (∀ w ∈ raw, isLineEnd w = false) ∧ ∀ w ∈ left, isLineEnd w = false)
    (hread : ∀ rest, read (quote :: (left ++ quote :: rest)) = some (value, rest))
    (hnil : read [] = none)
    (hfront : ∀ front back, left ++ [quote] = front ++ back → back ≠ [] →
      read (quote :: front) = none) : IsReadBack read literal value where
  value_eq t := by
    rw [String.toList_append, textUnits_append, hliteral, translate_quoted hquote.1 htranslate,
      Option.bind_map, Option.map_eq_bind]
    exact Option.bind_congr fun rest _ ↦ hread rest
  notMem := by
    refine notMem_of_isLineEnd ?_
    rw [hliteral, List.forall_mem_cons, List.forall_mem_append]
    exact ⟨hquote.2, hend.1, by simpa using hquote.2⟩
  closes := by
    have hleft := translate_quoted hquote.1 htranslate []
    rw [List.append_nil, translate_nil, ← hliteral] at hleft
    refine ⟨quote :: (left ++ [quote]), hleft, ?_, fun front back hsplit hback ↦ ?_⟩
    · rw [List.forall_mem_cons, List.forall_mem_append]
      exact ⟨hquote.2, hend.2, by simpa using hquote.2⟩
    · rcases front with _ | ⟨u, front⟩
      · exact hnil
      · obtain ⟨rfl, hrest⟩ := List.cons.inj hsplit
        exact hfront front back hrest hback

/-- **Literals are read back**, every string literal as the text it was made of, and every character
literal of one unit as that unit. -/
theorem readString_stringLiteral :
    (∀ v : String, IsReadBack readString (stringLiteral v) (textUnits v.toList)) ∧
      ∀ c : Char, c.toNat ≤ 0xFFFF → IsReadBack readCharacter (charLiteral c) c.toNat := by
  refine ⟨fun v ↦ ?_, fun c hc ↦ ?_⟩
  · obtain ⟨left, hleft⟩ := exists_spellsAll v.toList
    refine isReadBack_of_quoted (by decide) (textUnits_stringLiteral v) hleft.translate_append
      hleft.isLineEnd (readString_spelled hleft) rfl fun front back hsplit hback ↦ ?_
    rw [readString, if_pos rfl]
    exact hleft.readUnits_front hsplit hback
  · have hquote : '\'' ∈ quotes := by decide
    obtain ⟨left, hleft⟩ := exists_spells hquote (Nat.lt_succ_of_le hc)
    exact isReadBack_of_quoted (by decide) (textUnits_charLiteral c) hleft.translate_append
      hleft.isLineEnd (readCharacter_spelled hleft) rfl fun front back ↦ hleft.readCharacter_front

/-- A backslash is spelled by two, and a character literal for it may stand before a `u`. -/
theorem readString_stringLiteral_backslash : '\\'.toNat ≤ 0xFFFF ∧
    IsReadBack readCharacter (charLiteral '\\') '\\'.toNat ∧
    (translate (textUnits (charLiteral '\\' ++ "u0041").toList)).bind readCharacter =
      (translate (textUnits "u0041".toList)).map fun rest ↦ ('\\'.toNat, rest) :=
  have hread := readString_stringLiteral.2 '\\' (by decide)
  ⟨by decide, hread, hread.value_eq "u0041"⟩

end Literal

end JavaConstants
