import Mathlib.Tactic.SplitIfs
import JavaConstants.Text.Hex
import JavaConstants.Text.Units

/-!
# Texts in units

A text as the UTF-16 units that a reader of sources or of properties goes through. A character is
one unit that is no surrogate, or a pair of surrogates (`charUnits_cases`); so units are read back
as the text (`unitsLossy_charUnits_append`), and whatever a reader looks for is found at a
character's start only. Hexadecimal digits are read from units as from characters
(`hexNumber?_textUnits`).
-/

namespace JavaConstants

/-- The units of a text. -/
def textUnits (cs : List Char) : List Nat := cs.flatMap charUnits

@[simp] theorem textUnits_nil : textUnits [] = [] := rfl

@[simp] theorem textUnits_cons (c : Char) (cs : List Char) :
    textUnits (c :: cs) = charUnits c ++ textUnits cs := rfl

@[simp] theorem textUnits_append (cs ds : List Char) :
    textUnits (cs ++ ds) = textUnits cs ++ textUnits ds := List.flatMap_append

/-! ## Characters -/

/-- A unit that stands for a character of its own. -/
def IsScalar (u : Nat) : Prop := isHighSurrogate u = false ∧ isLowSurrogate u = false

theorem charUnits_of_lt {c : Char} (h : c.toNat < 0x10000) : charUnits c = [c.toNat] := if_pos h

theorem toNat_of_valid (c : Char) :
    c.toNat < 0xD800 ∨ 0xDFFF < c.toNat ∧ c.toNat < 0x110000 := c.valid

theorem isScalar_toNat {c : Char} (h : c.toNat < 0x10000) : IsScalar c.toNat := by
  have hvalid := toNat_of_valid c
  constructor <;> simp [isHighSurrogate, isLowSurrogate] <;> omega

theorem charUnits_cases (c : Char) :
    c.toNat < 0x10000 ∧ charUnits c = [c.toNat] ∨
      0x10000 ≤ c.toNat ∧ ∃ high low, charUnits c = [high, low] ∧
        isHighSurrogate high = true ∧ isLowSurrogate low = true ∧ pairChar high low = c := by
  rcases Nat.lt_or_ge c.toNat 0x10000 with hbmp | hbmp
  · exact .inl ⟨hbmp, charUnits_of_lt hbmp⟩
  · have hvalid := toNat_of_valid c
    refine .inr ⟨hbmp, _, _, if_neg (by omega), ?_, ?_, ?_⟩
    · simp [isHighSurrogate]
      omega
    · simp [isLowSurrogate]
      omega
    · have hnumber : 0x10000 + (0xD800 + (c.toNat - 0x10000) / 0x400 - 0xD800) * 0x400 +
          (0xDC00 + (c.toNat - 0x10000) % 0x400 - 0xDC00) = c.toNat := by omega
      rw [pairChar, hnumber, Char.ofNat_toNat]

theorem isHighSurrogate_iff {u : Nat} :
    isHighSurrogate u = true ↔ 0xD800 ≤ u ∧ u ≤ 0xDBFF := by simp [isHighSurrogate]

theorem isLowSurrogate_iff {u : Nat} :
    isLowSurrogate u = true ↔ 0xDC00 ≤ u ∧ u ≤ 0xDFFF := by simp [isLowSurrogate]

theorem isHighSurrogate_of_isLowSurrogate {u : Nat} (h : isLowSurrogate u = true) :
    isHighSurrogate u = false := by
  rw [isLowSurrogate_iff] at h
  rw [← Bool.not_eq_true, isHighSurrogate_iff]
  omega

/-- A character is one unit, or two that no reader looks for. -/
theorem charUnits_eq_or (c : Char) : charUnits c = [c.toNat] ∨
    0x10000 ≤ c.toNat ∧ ∃ high low, charUnits c = [high, low] ∧ 0xD800 ≤ high ∧ 0xD800 ≤ low := by
  rcases charUnits_cases c with ⟨_, hunits⟩ | ⟨hlarge, high, low, hunits, hhigh, hlow, _⟩
  · exact .inl hunits
  · rw [isHighSurrogate_iff] at hhigh
    rw [isLowSurrogate_iff] at hlow
    exact .inr ⟨hlarge, high, low, hunits, hhigh.1, by omega⟩

theorem toNat_mem_textUnits {c : Char} {cs : List Char} (hc : c.toNat < 0xD800) :
    c.toNat ∈ textUnits cs ↔ c ∈ cs := by
  rw [textUnits, List.mem_flatMap]
  constructor
  · rintro ⟨d, hd, hmem⟩
    rcases charUnits_eq_or d with hunits | ⟨_, high, low, hunits, hhigh, hlow⟩
    · rw [hunits, List.mem_singleton, Char.toNat_inj] at hmem
      rwa [hmem]
    · rw [hunits, List.mem_cons, List.mem_singleton] at hmem
      omega
  · intro hmem
    refine ⟨c, hmem, ?_⟩
    rw [charUnits_of_lt (by omega)]
    exact List.mem_singleton_self _

/-! ## Units of a reader -/

/-- Whether a unit ends a line. -/
def isLineEnd (u : Nat) : Bool := u == '\n'.toNat || u == '\r'.toNat

theorem isLineEnd_eq_false {u : Nat} (hfeed : u ≠ '\n'.toNat) (hreturn : u ≠ '\r'.toNat) :
    isLineEnd u = false := by
  rw [isLineEnd, beq_eq_false_iff_ne.mpr hfeed, beq_eq_false_iff_ne.mpr hreturn, Bool.or_false]

theorem beq_toNat (c d : Char) : (c.toNat == d.toNat) = (c == d) := by
  rw [Bool.eq_iff_iff, beq_iff_eq, beq_iff_eq, Char.toNat_inj]

theorem beq_toNat_of_lt {u : Nat} {c : Char} (h : c.toNat < u) : (u == c.toNat) = false :=
  beq_eq_false_iff_ne.mpr (Nat.ne_of_gt h)

/-! ## Units as text -/

theorem unitsLossy_of_isScalar {u : Nat} (h : IsScalar u) (us : List Nat) :
    unitsLossy (u :: us) = Char.ofNat u :: unitsLossy us := by
  rw [unitsLossy.eq_def]
  simp only [h.1, h.2, Bool.false_eq_true, if_false]

theorem unitsLossy_low {u : Nat} (h : isLowSurrogate u = true) (us : List Nat) :
    unitsLossy (u :: us) = '\ufffd' :: unitsLossy us := by
  rw [unitsLossy.eq_def]
  simp only [isHighSurrogate_of_isLowSurrogate h, h, Bool.false_eq_true, if_false, if_true]

theorem unitsLossy_pair {high low : Nat} (hhigh : isHighSurrogate high = true)
    (hlow : isLowSurrogate low = true) (us : List Nat) :
    unitsLossy (high :: low :: us) = pairChar high low :: unitsLossy us := by
  rw [unitsLossy.eq_def]
  simp only [hhigh, hlow, if_true]

/-- A first surrogate is lost unless a second one follows. -/
theorem unitsLossy_high {high : Nat} (hhigh : isHighSurrogate high = true) {us : List Nat}
    (hus : ∀ u ∈ us.head?, isLowSurrogate u = false) :
    unitsLossy (high :: us) = '\ufffd' :: unitsLossy us := by
  rw [unitsLossy.eq_def]
  rcases us with _ | ⟨u, us⟩
  · simp only [hhigh, if_true, unitsLossy]
  · simp only [hhigh, hus u rfl, Bool.false_eq_true, if_true, if_false]

theorem unitsLossy_charUnits_append (c : Char) (us : List Nat) :
    unitsLossy (charUnits c ++ us) = c :: unitsLossy us := by
  rcases charUnits_cases c with ⟨hbmp, hunits⟩ | ⟨_, high, low, hunits, hhigh, hlow, hpair⟩
  · rw [hunits, List.singleton_append, unitsLossy_of_isScalar (isScalar_toNat hbmp),
      Char.ofNat_toNat]
  · rw [hunits, List.cons_append, List.singleton_append, unitsLossy_pair hhigh hlow, hpair]

theorem head?_charUnits_append (c : Char) (us : List Nat) :
    ∀ u ∈ (charUnits c ++ us).head?, isLowSurrogate u = false := by
  rcases charUnits_cases c with ⟨hbmp, hunits⟩ | ⟨_, high, low, hunits, hhigh, _⟩
  · rw [hunits]
    rintro u ⟨rfl⟩
    exact (isScalar_toNat hbmp).2
  · rw [hunits]
    rintro u ⟨rfl⟩
    rw [isHighSurrogate_iff] at hhigh
    rw [← Bool.not_eq_true, isLowSurrogate_iff]
    omega

/-! ## Hexadecimal digits -/

/-- The value of a unit that is an ASCII hexadecimal digit, in either case. -/
def hexUnit? (u : Nat) : Option Nat :=
  if 0x30 ≤ u ∧ u ≤ 0x39 then some (u - 0x30)
  else if 0x61 ≤ u ∧ u ≤ 0x66 then some (u - 0x61 + 10)
  else if 0x41 ≤ u ∧ u ≤ 0x46 then some (u - 0x41 + 10)
  else none

/-- Reads some hexadecimal digits behind those that came to a number; gives the number that all come
to and the rest. -/
def hexNumber? (number : Nat) : Nat → List Nat → Option (Nat × List Nat)
  | 0, us => some (number, us)
  | _ + 1, [] => none
  | width + 1, u :: us => (hexUnit? u).bind fun digit ↦ hexNumber? (16 * number + digit) width us

/-- What is read are as many digits as asked for, and they are read so whatever follows them. -/
theorem exists_of_hexNumber? {number width m : Nat} {us rest : List Nat}
    (h : hexNumber? number width us = some (m, rest)) :
    ∃ digits, us = digits ++ rest ∧ digits.length = width ∧
      (∀ d ∈ digits, (hexUnit? d).isSome = true) ∧
      ∀ vs, hexNumber? number width (digits ++ vs) = some (m, vs) := by
  induction width generalizing number us with
  | zero =>
    cases h
    exact ⟨[], rfl, rfl, nofun, fun vs ↦ rfl⟩
  | succ width ih =>
    rcases us with _ | ⟨u, us⟩
    · cases h
    · obtain ⟨digit, hdigit, h⟩ := Option.bind_eq_some_iff.mp h
      obtain ⟨digits, rfl, hlength, hall, hread⟩ := ih h
      refine ⟨u :: digits, rfl, congrArg (· + 1) hlength, ?_, fun vs ↦ ?_⟩
      · rw [List.forall_mem_cons]
        exact ⟨by rw [hdigit]; rfl, hall⟩
      · rw [List.cons_append, hexNumber?, hdigit, Option.bind_some, hread]

theorem hexUnit?_toNat (c : Char) : hexUnit? c.toNat = hexDigit? c := by
  have hle (a b : Char) : a ≤ b ↔ a.toNat ≤ b.toNat := Iff.rfl
  have h0 : '0'.toNat = 0x30 := rfl
  have h9 : '9'.toNat = 0x39 := rfl
  have ha : 'a'.toNat = 0x61 := rfl
  have hf : 'f'.toNat = 0x66 := rfl
  have hA : 'A'.toNat = 0x41 := rfl
  have hF : 'F'.toNat = 0x46 := rfl
  rw [hexUnit?, hexDigit?]
  simp only [hle, h0, h9, ha, hf, hA, hF]
  split_ifs with hdigit hlower hupper
  · rfl
  · congr 1
    omega
  · congr 1
    omega
  · rfl

theorem hexNumber?_charUnits (number width : Nat) (c : Char) (us : List Nat) :
    hexNumber? number (width + 1) (charUnits c ++ us) =
      (hexDigit? c).bind fun digit ↦ hexNumber? (16 * number + digit) width us := by
  rcases charUnits_cases c with ⟨_, hunits⟩ | ⟨hlarge, high, low, hunits, hhigh, _⟩
  · rw [hunits, List.singleton_append, hexNumber?, hexUnit?_toNat]
  · have hnone {u : Nat} (hu : 0x66 < u) : hexUnit? u = none := by
      rw [hexUnit?, if_neg (by omega), if_neg (by omega), if_neg (by omega)]
    rw [isHighSurrogate_iff] at hhigh
    rw [hunits, List.cons_append, hexNumber?, hnone (by omega), ← hexUnit?_toNat,
      hnone (by omega)]
    rfl

theorem hexNumber?_textUnits (number width : Nat) (cs : List Char) (us : List Nat)
    (hus : cs.length < width → us = []) :
    hexNumber? number width (textUnits cs ++ us) =
      if width ≤ cs.length ∧ (cs.take width).all isHexDigit then
        some ((cs.take width).foldl (fun n c ↦ 16 * n + (hexDigit? c).getD 0) number,
          textUnits (cs.drop width) ++ us)
      else none := by
  induction width generalizing number cs with
  | zero => simp [hexNumber?]
  | succ width ih =>
    rcases cs with _ | ⟨c, cs⟩
    · rw [hus (Nat.succ_pos _)]
      rfl
    · rw [textUnits_cons, List.append_assoc, hexNumber?_charUnits]
      rcases hdigit : hexDigit? c with _ | digit
      · simp [isHexDigit, hdigit]
      · rw [Option.bind_some, ih _ _ fun h ↦ hus (Nat.succ_lt_succ h)]
        simp [isHexDigit, hdigit]

end JavaConstants
