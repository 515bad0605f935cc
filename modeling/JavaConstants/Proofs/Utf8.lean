import Mathlib.Tactic.SplitIfs
import JavaConstants.Text.Utf8

/-!
# Well-formed UTF-8

A text is read back from its bytes, and only the bytes of a text are read strictly
(`utf8Strict?_eq_some_iff`). Both come from one character: a sequence is read as a character if and
only if it is the character's own, whatever follows it (`utf8Next_eq_some_iff`).
-/

namespace JavaConstants

/-! ## Leading bytes -/

theorem utf8Lead?_eq (b : UInt8) : utf8Lead? b =
    if b.toNat < 0x80 then some (0, 0x80, 0xBF)
    else if b.toNat < 0xC2 then none
    else if b.toNat < 0xE0 then some (1, 0x80, 0xBF)
    else if b.toNat = 0xE0 then some (2, 0xA0, 0xBF)
    else if b.toNat = 0xED then some (2, 0x80, 0x9F)
    else if b.toNat < 0xF0 then some (2, 0x80, 0xBF)
    else if b.toNat = 0xF0 then some (3, 0x90, 0xBF)
    else if b.toNat < 0xF4 then some (3, 0x80, 0xBF)
    else if b.toNat = 0xF4 then some (3, 0x80, 0x8F)
    else none := by
  simp only [utf8Lead?, UInt8.lt_iff_toNat_lt, ← UInt8.toNat_inj, UInt8.reduceToNat]

/-- Bytes that go on with a sequence. -/
def IsTail (b : UInt8) : Prop := 0x80 ≤ b.toNat ∧ b.toNat ≤ 0xBF

/-- Bytes in a range of the table. -/
def InRange (lo hi b : UInt8) : Prop := lo.toNat ≤ b.toNat ∧ b.toNat ≤ hi.toNat

theorem IsTail.inRange {b : UInt8} (h : IsTail b) : InRange 0x80 0xBF b := h

/-- What may stand behind a leading byte of three: no sequence is longer than it must be, and none
is a surrogate. -/
def IsSecondOfThree (b b₁ : UInt8) : Prop :=
  IsTail b₁ ∧ (b.toNat = 0xE0 → 0xA0 ≤ b₁.toNat) ∧ (b.toNat = 0xED → b₁.toNat ≤ 0x9F)

/-- What may stand behind a leading byte of four: no sequence is longer than it must be, and none
is above the characters. -/
def IsSecondOfFour (b b₁ : UInt8) : Prop :=
  IsTail b₁ ∧ (b.toNat = 0xF0 → 0x90 ≤ b₁.toNat) ∧ (b.toNat = 0xF4 → b₁.toNat ≤ 0x8F)

/-- What a byte leads: the number of bytes behind it and the range of the first of them, or none. -/
inductive Leads (b : UInt8) : Option (Nat × UInt8 × UInt8) → Prop where
  /-- ASCII. -/
  | one (hb : b.toNat < 0x80) : Leads b (some (0, 0x80, 0xBF))
  /-- Two bytes. -/
  | two (hb : 0xC2 ≤ b.toNat ∧ b.toNat < 0xE0) : Leads b (some (1, 0x80, 0xBF))
  /-- Three bytes. -/
  | three {lo hi : UInt8} (hb : 0xE0 ≤ b.toNat ∧ b.toNat < 0xF0)
    (hrange : ∀ b₁, InRange lo hi b₁ ↔ IsSecondOfThree b b₁) : Leads b (some (2, lo, hi))
  /-- Four bytes. -/
  | four {lo hi : UInt8} (hb : 0xF0 ≤ b.toNat ∧ b.toNat < 0xF5)
    (hrange : ∀ b₁, InRange lo hi b₁ ↔ IsSecondOfFour b b₁) : Leads b (some (3, lo, hi))
  /-- No other byte leads. -/
  | none (hascii : ¬ b.toNat < 0x80) (hb : ¬ (0xC2 ≤ b.toNat ∧ b.toNat < 0xF5)) : Leads b none

theorem leads_utf8Lead? (b : UInt8) : Leads b (utf8Lead? b) := by
  have hthree {lo hi : UInt8} (hb : 0xE0 ≤ b.toNat ∧ b.toNat < 0xF0)
      (hrange : ∀ b₁, InRange lo hi b₁ ↔ IsSecondOfThree b b₁) : Leads b (some (2, lo, hi)) :=
    .three hb hrange
  have hfour {lo hi : UInt8} (hb : 0xF0 ≤ b.toNat ∧ b.toNat < 0xF5)
      (hrange : ∀ b₁, InRange lo hi b₁ ↔ IsSecondOfFour b b₁) : Leads b (some (3, lo, hi)) :=
    .four hb hrange
  -- from here on only the numbers of the bytes matter
  simp only [InRange, IsSecondOfThree, IsSecondOfFour, IsTail] at hthree hfour
  rw [utf8Lead?_eq]
  split_ifs with h₁ h₂ h₃ h₄ h₅ h₆ h₇ h₈ h₉
  · exact .one h₁
  · exact .none h₁ (by omega)
  · exact .two (by omega)
  · refine hthree (by omega) fun b₁ ↦ ?_
    simp only [UInt8.reduceToNat]
    omega
  · refine hthree (by omega) fun b₁ ↦ ?_
    simp only [UInt8.reduceToNat]
    omega
  · refine hthree (by omega) fun b₁ ↦ ?_
    simp only [UInt8.reduceToNat]
    omega
  · refine hfour (by omega) fun b₁ ↦ ?_
    simp only [UInt8.reduceToNat]
    omega
  · refine hfour (by omega) fun b₁ ↦ ?_
    simp only [UInt8.reduceToNat]
    omega
  · refine hfour (by omega) fun b₁ ↦ ?_
    simp only [UInt8.reduceToNat]
    omega
  · exact .none h₁ (by omega)

theorem utf8Tail_cons {value following : Nat} {lo hi b : UInt8} (hb : InRange lo hi b)
    (bs : List UInt8) : utf8Tail value lo hi (following + 1) (b :: bs) =
      ((utf8Tail (value * 64 + b.toNat % 64) 0x80 0xBF following bs).1,
        (utf8Tail (value * 64 + b.toNat % 64) 0x80 0xBF following bs).2 + 1) := by
  rw [utf8Tail, if_pos ⟨UInt8.le_iff_toNat_le.mpr hb.1, UInt8.le_iff_toNat_le.mpr hb.2⟩]

theorem exists_of_utf8Tail {value following n : Nat} {lo hi : UInt8} {bs : List UInt8} {c : Char}
    (h : utf8Tail value lo hi (following + 1) bs = (some c, n)) :
    ∃ b rest m, bs = b :: rest ∧ InRange lo hi b ∧ n = m + 1 ∧
      utf8Tail (value * 64 + b.toNat % 64) 0x80 0xBF following rest = (some c, m) := by
  cases bs with
  | nil => cases h
  | cons b bs =>
    rw [utf8Tail] at h
    split_ifs at h with hrange
    · obtain ⟨hc, rfl⟩ := Prod.mk.inj h
      refine ⟨b, bs, _, rfl, ⟨?_, ?_⟩, rfl, Prod.ext hc rfl⟩
      · exact UInt8.le_iff_toNat_le.mp hrange.1
      · exact UInt8.le_iff_toNat_le.mp hrange.2
    · cases h

/-! ## The sequence of a character -/

/-- The bytes that stand for a number. -/
inductive IsSequence : List UInt8 → Nat → Prop where
  /-- ASCII. -/
  | one {v : Nat} {b : UInt8} (hv : v = b.toNat) (hb : b.toNat < 0x80) : IsSequence [b] v
  /-- Two bytes. -/
  | two {v : Nat} {b b₁ : UInt8} (hv : v = b.toNat % 0x20 * 64 + b₁.toNat % 64)
    (hb : 0xC2 ≤ b.toNat ∧ b.toNat < 0xE0) (hb₁ : IsTail b₁) : IsSequence [b, b₁] v
  /-- Three bytes. -/
  | three {v : Nat} {b b₁ b₂ : UInt8}
    (hv : v = (b.toNat % 0x10 * 64 + b₁.toNat % 64) * 64 + b₂.toNat % 64)
    (hb : 0xE0 ≤ b.toNat ∧ b.toNat < 0xF0) (hb₁ : IsSecondOfThree b b₁) (hb₂ : IsTail b₂) :
    IsSequence [b, b₁, b₂] v
  /-- Four bytes. -/
  | four {v : Nat} {b b₁ b₂ b₃ : UInt8}
    (hv : v = ((b.toNat % 0x08 * 64 + b₁.toNat % 64) * 64 + b₂.toNat % 64) * 64 + b₃.toNat % 64)
    (hb : 0xF0 ≤ b.toNat ∧ b.toNat < 0xF5) (hb₁ : IsSecondOfFour b b₁) (hb₂ : IsTail b₂)
    (hb₃ : IsTail b₃) : IsSequence [b, b₁, b₂, b₃] v

/-- A character is written as the sequence of its number. -/
theorem isSequence_encodeChar (c : Char) : IsSequence (String.utf8EncodeChar c) c.toNat := by
  have hvalid : c.val.toNat.isValidChar := c.valid
  unfold Nat.isValidChar at hvalid
  rw [Char.toNat, String.utf8EncodeChar]
  generalize c.val.toNat = v at hvalid
  split_ifs with hone htwo hthree
  · refine .one ?_ ?_
    all_goals
      rw [UInt8.toNat_ofNat']
      omega
  · refine .two ?_ ?_ ?_
    all_goals
      simp only [IsTail, UInt8.toNat_ofNat']
      omega
  · refine .three ?_ ?_ ?_ ?_
    all_goals
      simp only [IsSecondOfThree, IsTail, UInt8.toNat_ofNat']
      omega
  · refine .four ?_ ?_ ?_ ?_ ?_
    all_goals
      simp only [IsSecondOfFour, IsTail, UInt8.toNat_ofNat']
      omega

theorem ofNat_eq_of_eq {v : Nat} {b : UInt8} (h : v = b.toNat) : UInt8.ofNat v = b := by
  rw [h, UInt8.ofNat_toNat]

theorem IsSequence.encodeChar {bs : List UInt8} {v : Nat} (h : IsSequence bs v) :
    String.utf8EncodeChar (Char.ofNat v) = bs := by
  have hval (hvalid : v.isValidChar) : (Char.ofNat v).val.toNat = v := by
    rw [Char.ofNat, dif_pos hvalid]
    rfl
  unfold Nat.isValidChar at hval
  rw [String.utf8EncodeChar]
  cases h with
  | one hv hb => rw [hval (by omega), if_pos (by omega), ofNat_eq_of_eq hv]
  | @two _ b b₁ hv hb hb₁ =>
    rw [IsTail] at hb₁
    rw [hval (by omega), if_neg (by omega), if_pos (by omega), ofNat_eq_of_eq (b := b) (by omega),
      ofNat_eq_of_eq (b := b₁) (by omega)]
  | @three _ b b₁ b₂ hv hb hb₁ hb₂ =>
    rw [IsSecondOfThree, IsTail] at hb₁
    rw [IsTail] at hb₂
    rw [hval (by omega), if_neg (by omega), if_neg (by omega), if_pos (by omega),
      ofNat_eq_of_eq (b := b) (by omega), ofNat_eq_of_eq (b := b₁) (by omega),
      ofNat_eq_of_eq (b := b₂) (by omega)]
  | @four _ b b₁ b₂ b₃ hv hb hb₁ hb₂ hb₃ =>
    rw [IsSecondOfFour, IsTail] at hb₁
    rw [IsTail] at hb₂ hb₃
    rw [hval (by omega), if_neg (by omega), if_neg (by omega), if_neg (by omega),
      ofNat_eq_of_eq (b := b) (by omega), ofNat_eq_of_eq (b := b₁) (by omega),
      ofNat_eq_of_eq (b := b₂) (by omega), ofNat_eq_of_eq (b := b₃) (by omega)]

/-! ## One character

The range of the second byte depends on the first one, which is what keeps out longer spellings of
a number and the numbers of surrogates. So a sequence that is read is the one that is written. -/

theorem IsSequence.utf8Next_eq {b : UInt8} {tail : List UInt8} {v : Nat}
    (h : IsSequence (b :: tail) v) (rest : List UInt8) :
    utf8Next b (tail ++ rest) = (some (Char.ofNat v), tail.length) := by
  have hlead := leads_utf8Lead? b
  rw [utf8Next]
  generalize utf8Lead? b = lead at hlead
  cases h with
  | one hv hb =>
    cases hlead with
    | one => rw [hv]; rfl
    | _ => omega
  | @two _ _ b₁ hv hb hb₁ =>
    cases hlead with
    | two =>
      change utf8Tail (utf8LeadBits b 1) 0x80 0xBF 1 (b₁ :: rest) = _
      rw [utf8Tail_cons hb₁.inRange, utf8Tail, hv]
      rfl
    | _ => omega
  | @three _ _ b₁ b₂ hv hb hb₁ hb₂ =>
    cases hlead with
    | @three lo hi _ hrange =>
      change utf8Tail (utf8LeadBits b 2) lo hi 2 (b₁ :: b₂ :: rest) = _
      rw [utf8Tail_cons ((hrange b₁).mpr hb₁), utf8Tail_cons hb₂.inRange, utf8Tail, hv]
      rfl
    | _ => omega
  | @four _ _ b₁ b₂ b₃ hv hb hb₁ hb₂ hb₃ =>
    cases hlead with
    | @four lo hi _ hrange =>
      change utf8Tail (utf8LeadBits b 3) lo hi 3 (b₁ :: b₂ :: b₃ :: rest) = _
      rw [utf8Tail_cons ((hrange b₁).mpr hb₁), utf8Tail_cons hb₂.inRange,
        utf8Tail_cons hb₃.inRange, utf8Tail, hv]
      rfl
    | _ => omega

theorem exists_isSequence_of_utf8Next {b : UInt8} {bs : List UInt8} {c : Char} {n : Nat}
    (h : utf8Next b bs = (some c, n)) : ∃ tail rest v, bs = tail ++ rest ∧ n = tail.length ∧
      c = Char.ofNat v ∧ IsSequence (b :: tail) v := by
  rw [utf8Next] at h
  have hlead := leads_utf8Lead? b
  generalize utf8Lead? b = lead at h hlead
  cases hlead with
  | one hb =>
    cases h
    exact ⟨[], bs, _, rfl, rfl, rfl, .one rfl hb⟩
  | two hb =>
    obtain ⟨b₁, rest, _, rfl, hb₁, rfl, hdone⟩ := exists_of_utf8Tail h
    cases hdone
    exact ⟨[b₁], rest, _, rfl, rfl, rfl, .two rfl hb hb₁⟩
  | three hb hrange =>
    obtain ⟨b₁, _, _, rfl, hb₁, rfl, htwo⟩ := exists_of_utf8Tail h
    obtain ⟨b₂, rest, _, rfl, hb₂, rfl, hdone⟩ := exists_of_utf8Tail htwo
    cases hdone
    exact ⟨[b₁, b₂], rest, _, rfl, rfl, rfl, .three rfl hb ((hrange b₁).mp hb₁) hb₂⟩
  | four hb hrange =>
    obtain ⟨b₁, _, _, rfl, hb₁, rfl, hthree⟩ := exists_of_utf8Tail h
    obtain ⟨b₂, _, _, rfl, hb₂, rfl, htwo⟩ := exists_of_utf8Tail hthree
    obtain ⟨b₃, rest, _, rfl, hb₃, rfl, hdone⟩ := exists_of_utf8Tail htwo
    cases hdone
    exact ⟨[b₁, b₂, b₃], rest, _, rfl, rfl, rfl, .four rfl hb ((hrange b₁).mp hb₁) hb₂ hb₃⟩
  | none => cases h

/-- A sequence is read as a character if and only if it is the character's, whatever follows it. -/
theorem utf8Next_eq_some_iff {b : UInt8} {bs : List UInt8} {c : Char} {n : Nat} :
    utf8Next b bs = (some c, n) ↔
      ∃ tail rest, bs = tail ++ rest ∧ n = tail.length ∧ String.utf8EncodeChar c = b :: tail := by
  constructor
  · intro h
    obtain ⟨tail, rest, v, hbs, hn, rfl, hsequence⟩ := exists_isSequence_of_utf8Next h
    exact ⟨tail, rest, hbs, hn, hsequence.encodeChar⟩
  · rintro ⟨tail, rest, rfl, rfl, hencode⟩
    have hsequence := isSequence_encodeChar c
    rw [hencode] at hsequence
    rw [hsequence.utf8Next_eq, Char.ofNat_toNat]

/-! ## Texts -/

theorem utf8Strict?_skip (n : Nat) (bs : List UInt8) :
    utf8Strict? n bs = utf8Strict? 0 (bs.drop n) := by
  induction n generalizing bs with
  | zero => rw [List.drop_zero]
  | succ n ih =>
    cases bs with
    | nil => rw [List.drop_nil, utf8Strict?, utf8Strict?]
    | cons b bs => rw [utf8Strict?, ih, List.drop_succ_cons]

theorem utf8Strict?_encodeChar_append (c : Char) (bs : List UInt8) :
    utf8Strict? 0 (String.utf8EncodeChar c ++ bs) = (utf8Strict? 0 bs).map (c :: ·) := by
  cases hencode : String.utf8EncodeChar c with
  | nil => exact absurd hencode (String.utf8EncodeChar_ne_nil)
  | cons b tail =>
    have hnext : utf8Next b (tail ++ bs) = (some c, tail.length) :=
      utf8Next_eq_some_iff.mpr ⟨tail, bs, rfl, rfl, hencode⟩
    rw [List.cons_append, utf8Strict?, hnext]
    simp only
    rw [utf8Strict?_skip, List.drop_left]

/-- Only the bytes of a text are read strictly, and as the text. -/
theorem utf8Strict?_eq_some_iff {bs : List UInt8} {cs : List Char} :
    utf8Strict? 0 bs = some cs ↔ bs = cs.flatMap String.utf8EncodeChar := by
  constructor
  · intro h
    -- on the characters, not on the bytes, of which one character takes several at once
    induction cs generalizing bs with
    | nil =>
      cases bs with
      | nil => rfl
      | cons b bs =>
        rw [utf8Strict?] at h
        split at h
        · cases h
        · obtain ⟨_, _, hcons⟩ := Option.map_eq_some_iff.mp h
          cases hcons
    | cons c cs ih =>
      cases bs with
      | nil => cases h
      | cons b bs =>
        rw [utf8Strict?] at h
        split at h
        · cases h
        · next d n hnext =>
          obtain ⟨ds, hrest, hcons⟩ := Option.map_eq_some_iff.mp h
          cases hcons
          obtain ⟨tail, rest, rfl, rfl, hencode⟩ := utf8Next_eq_some_iff.mp hnext
          rw [utf8Strict?_skip, List.drop_left] at hrest
          rw [List.flatMap_cons, hencode, List.cons_append, ← ih hrest]
  · rintro rfl
    induction cs with
    | nil => rw [List.flatMap_nil, utf8Strict?]
    | cons c cs ih => rw [List.flatMap_cons, utf8Strict?_encodeChar_append, ih, Option.map_some]

theorem toList_loop_eq (bytes : ByteArray) (i : Nat) (r : List UInt8) :
    ByteArray.toList.loop bytes i r = r.reverse ++ bytes.data.toList.drop i := by
  fun_induction ByteArray.toList.loop bytes i r with
  | case1 i r h ih =>
    have hi : i < bytes.data.toList.length := by simpa using h
    have hget : bytes.get! i = bytes.data.toList[i] := by simp [ByteArray.get!, h]
    rw [ih, List.drop_eq_getElem_cons hi, List.reverse_cons, List.append_assoc,
      List.singleton_append, hget]
  | case2 i r h =>
    rw [List.drop_eq_nil_of_le (by simpa using Nat.le_of_not_lt h), List.append_nil]

theorem utf8Bytes_eq (text : String) :
    utf8Bytes text = text.toList.flatMap String.utf8EncodeChar := by
  have hbytes : (String.ofList text.toList).toByteArray =
      (text.toList.flatMap String.utf8EncodeChar).toByteArray := String.toByteArray_ofList
  rw [String.ofList_toList] at hbytes
  rw [utf8Bytes, String.toUTF8_eq_toByteArray, hbytes, ByteArray.toList, toList_loop_eq,
    List.toList_data_toByteArray, List.reverse_nil, List.nil_append, List.drop_zero]

theorem utf8Strict?_utf8Bytes (text : String) :
    utf8Strict? 0 (utf8Bytes text) = some text.toList :=
  utf8Strict?_eq_some_iff.mpr (utf8Bytes_eq text)

theorem utf8Strict?_eq_none_iff {bs : List UInt8} :
    utf8Strict? 0 bs = none ↔ ∀ text, bs ≠ utf8Bytes text := by
  constructor
  · rintro h text rfl
    rw [utf8Strict?_utf8Bytes] at h
    cases h
  · intro h
    rw [Option.eq_none_iff_forall_ne_some]
    intro cs hcs
    refine h (String.ofList cs) ?_
    rw [utf8Bytes_eq, String.toList_ofList]
    exact utf8Strict?_eq_some_iff.mp hcs

/-- Reading with replacement makes no text longer than its bytes. -/
theorem length_utf8Lossy_le (n : Nat) (bs : List UInt8) : (utf8Lossy n bs).length ≤ bs.length := by
  induction bs generalizing n with
  | nil =>
    rw [utf8Lossy]
    exact Nat.le_refl 0
  | cons b bs ih =>
    cases n with
    | zero =>
      rw [utf8Lossy]
      exact Nat.succ_le_succ (ih _)
    | succ n =>
      rw [utf8Lossy]
      exact Nat.le_trans (ih n) (Nat.le_succ _)

end JavaConstants
