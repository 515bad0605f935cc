import JavaConstants.Proofs.Utf8
import JavaConstants.Resource.Extract

/-!
# Decoded properties files

A properties file that is well-formed UTF-8 is read as its text, without a byte order mark. Any
other file is read byte by byte as windows-1252, unless it starts with the mark of another charset
(`Properties.decode_bytes`). It is read as ISO-8859-1 if and only if no such mark stands at its
start and none of its bytes is among the 27 that windows-1252 writes otherwise.
-/

namespace JavaConstants

/-! ## Marks -/

namespace Charset

/-- Bytes that start with a byte order mark, of UTF-8 or of UTF-16 in either order. -/
def IsMarked (bytes : List UInt8) : Prop :=
  [0xEF, 0xBB, 0xBF] <+: bytes ∨ [0xFF, 0xFE] <+: bytes ∨ [0xFE, 0xFF] <+: bytes

/-- Whether a mark stands at the start can be computed. -/
instance (bytes : List UInt8) : Decidable (IsMarked bytes) :=
  inferInstanceAs (Decidable (_ ∨ _ ∨ _))

theorem decode_of_not_isMarked (c : Charset) {bytes : List UInt8} (h : ¬ IsMarked bytes) :
    c.decode bytes = c.decodeUnmarked bytes := by
  rw [decode]
  · rintro rest rfl
    exact h (.inl ⟨rest, rfl⟩)
  · rintro rest rfl
    exact h (.inr (.inl ⟨rest, rfl⟩))
  · rintro rest rfl
    exact h (.inr (.inr ⟨rest, rfl⟩))

/-- UTF-16 has no more characters than units. -/
theorem length_unitsLossy_le (us : List Nat) : (unitsLossy us).length ≤ us.length := by
  fun_induction unitsLossy us with
  | case1 => exact Nat.le_refl 0
  | case2 u hhigh v vs hlow ih =>
    simp only [List.length_cons]
    omega
  | case3 u hhigh v vs hlow ih =>
    simp only [List.length_cons] at ih ⊢
    omega
  | case4 u hhigh => exact Nat.le_refl 1
  | case5 u us hhigh ih =>
    simp only [List.length_cons]
    omega

theorem length_utf16Units (bigEndian : Bool) (bytes : List UInt8) :
    2 * (utf16Units bigEndian bytes).1.length +
      (if (utf16Units bigEndian bytes).2 then 1 else 0) = bytes.length := by
  fun_induction utf16Units bigEndian bytes with
  | case1 a b bytes us odd hunits ih =>
    rw [hunits] at ih
    simp only [List.length_cons] at ih ⊢
    omega
  | case2 => rfl
  | case3 => rfl

theorem length_decodeUtf16_le (bigEndian : Bool) (bytes : List UInt8) :
    (decodeUtf16 bigEndian bytes).length ≤ bytes.length := by
  have hunits := length_utf16Units bigEndian bytes
  have hlossy := length_unitsLossy_le (utf16Units bigEndian bytes).1
  rw [decodeUtf16, List.length_append]
  cases hodd : (utf16Units bigEndian bytes).2 with
  | false =>
    rw [hodd] at hunits
    simp only [Bool.false_and, Bool.false_eq_true, if_false, List.length_nil] at hunits ⊢
    omega
  | true =>
    rw [hodd] at hunits
    have hlast : (if (true && !(utf16Units bigEndian bytes).1.getLast?.any isHighSurrogate) = true
        then [replacementChar] else []).length ≤ 1 := by
      split_ifs
      · exact Nat.le_refl 1
      · exact Nat.zero_le 1
    simp only [if_true] at hunits
    omega

/-- Bytes with a mark are read as fewer characters. -/
theorem length_decode_lt_of_isMarked (c : Charset) {bytes : List UInt8} (h : IsMarked bytes) :
    (c.decode bytes).length < bytes.length := by
  rcases h with ⟨rest, rfl⟩ | ⟨rest, rfl⟩ | ⟨rest, rfl⟩
  · have hlossy := length_utf8Lossy_le 0 rest
    change (utf8Lossy 0 rest).length < rest.length + 3
    omega
  · have hunits := length_decodeUtf16_le false rest
    change (decodeUtf16 false rest).length < rest.length + 2
    omega
  · have hunits := length_decodeUtf16_le true rest
    change (decodeUtf16 true rest).length < rest.length + 2
    omega

/-! ## Single bytes -/

/-- Bytes that windows-1252 reads as another character than the one of their number. -/
def IsRemapped (b : UInt8) : Prop :=
  between 0x80 0x9F b = true ∧ b ∉ ([0x81, 0x8D, 0x8F, 0x90, 0x9D] : List UInt8)

theorem forall_byte {P : UInt8 → Prop} (h : ∀ n < 256, P (UInt8.ofNat n)) (b : UInt8) : P b := by
  have hb := h b.toNat b.toNat_lt
  rwa [UInt8.ofNat_toNat] at hb

instance (b : UInt8) : Decidable (IsRemapped b) := inferInstanceAs (Decidable (_ ∧ _))

theorem windows1252Char_eq_byteChar_iff (b : UInt8) :
    windows1252Char b = byteChar b ↔ ¬ IsRemapped b := by
  revert b
  exact forall_byte (by decide +kernel)

theorem toNat_byteChar (b : UInt8) : (byteChar b).toNat = b.toNat := by
  revert b
  exact forall_byte (by decide +kernel)

theorem lt_toNat_windows1252Char (b : UInt8) : IsRemapped b → 0xFF < (windows1252Char b).toNat := by
  revert b
  exact forall_byte (by decide +kernel)

theorem windows1252Char_injective : Function.Injective windows1252Char := by
  have hcontrols : ∀ m < 32, ∀ n < 32, windows1252Controls.getD m replacementChar =
      windows1252Controls.getD n replacementChar → m = n := by decide +kernel
  intro a b hab
  -- a byte that is read otherwise goes above all bytes, so it meets none that is not
  have hsmall {a b : UInt8} (ha : IsRemapped a) (hb : ¬ IsRemapped b)
      (hab : windows1252Char a = windows1252Char b) : False := by
    have hlarge := lt_toNat_windows1252Char a ha
    have hbyte := b.toNat_lt
    rw [hab, (windows1252Char_eq_byteChar_iff b).mpr hb, toNat_byteChar] at hlarge
    omega
  by_cases ha : IsRemapped a
  · by_cases hb : IsRemapped b
    · rw [windows1252Char, windows1252Char, if_pos ha.1, if_pos hb.1] at hab
      have ha' := ha.1
      have hb' := hb.1
      simp only [between, Bool.and_eq_true, decide_eq_true_eq] at ha' hb'
      have hindex := hcontrols _ (by omega) _ (by omega) hab
      exact UInt8.toNat_inj.mp (by omega)
    · exact (hsmall ha hb hab).elim
  · by_cases hb : IsRemapped b
    · exact (hsmall hb ha hab.symm).elim
    · rw [(windows1252Char_eq_byteChar_iff a).mpr ha,
        (windows1252Char_eq_byteChar_iff b).mpr hb] at hab
      have hnumber := congrArg Char.toNat hab
      rw [toNat_byteChar, toNat_byteChar] at hnumber
      exact UInt8.toNat_inj.mp hnumber

end Charset

/-! ## Files -/

namespace Properties

open Charset

/-- **What a properties file is read as.** The bytes of a text are read as the text, without a byte
order mark. Other bytes are read one by one as windows-1252, if they start with no mark; so no two
are read alike. With a mark some are lost. They are read as the characters of their numbers if and
only if there is neither a mark nor a byte that windows-1252 reads otherwise. -/
theorem decode_bytes (bytes : List UInt8) :
    (∀ text, bytes = utf8Bytes text → decode bytes = dropByteOrderMark text.toList) ∧
      ((∀ text, bytes ≠ utf8Bytes text) →
        (¬ IsMarked bytes → decode bytes = bytes.map windows1252Char) ∧
        (IsMarked bytes → (decode bytes).length < bytes.length) ∧
        (decode bytes = bytes.map byteChar ↔
          ¬ IsMarked bytes ∧ ∀ b ∈ bytes, ¬ IsRemapped b)) ∧
      Function.Injective windows1252Char := by
  refine ⟨?_, fun hbytes ↦ ?_, windows1252Char_injective⟩
  · rintro text rfl
    rw [decode, utf8Strict?_utf8Bytes]
  · have hdecode : decode bytes = windows1252.decode bytes := by
      rw [decode, utf8Strict?_eq_none_iff.mpr hbytes]
    have hunmarked (h : ¬ IsMarked bytes) : decode bytes = bytes.map windows1252Char := by
      rw [hdecode, decode_of_not_isMarked _ h]
      rfl
    have hmarked (h : IsMarked bytes) : (decode bytes).length < bytes.length := by
      rw [hdecode]
      exact length_decode_lt_of_isMarked _ h
    refine ⟨hunmarked, hmarked, ?_⟩
    by_cases h : IsMarked bytes
    · refine iff_of_false (fun hsame ↦ ?_) fun hright ↦ hright.1 h
      have hlength := hmarked h
      rw [hsame, List.length_map] at hlength
      exact Nat.lt_irrefl _ hlength
    · rw [hunmarked h, and_iff_right h, List.map_inj_left]
      simp only [windows1252Char_eq_byteChar_iff]

/-- A text with a mark, and a byte above ASCII on its own, which is read as ISO-8859-1. -/
theorem decode_bytes_latin :
    decode (utf8Bytes "\ufeffk") = ['k'] ∧
      (∀ text, ([0x63, 0xE9] : List UInt8) ≠ utf8Bytes text) ∧
      ¬ IsMarked [0x63, 0xE9] ∧ (∀ b ∈ ([0x63, 0xE9] : List UInt8), ¬ IsRemapped b) ∧
      decode [0x63, 0xE9] = ['c', 'é'] := by
  have hbytes : ∀ text, ([0x63, 0xE9] : List UInt8) ≠ utf8Bytes text :=
    utf8Strict?_eq_none_iff.mp (by decide)
  have hmarked : ¬ IsMarked [0x63, 0xE9] := by decide
  have hremapped : ∀ b ∈ ([0x63, 0xE9] : List UInt8), ¬ IsRemapped b := by
    rw [List.forall_mem_cons, List.forall_mem_singleton]
    decide
  have htext : decode (utf8Bytes "\ufeffk") = ['k'] :=
    (decode_bytes (utf8Bytes "\ufeffk")).1 "\ufeffk" rfl
  have hlatin : decode [0x63, 0xE9] = [0x63, 0xE9].map byteChar :=
    ((decode_bytes [0x63, 0xE9]).2.1 hbytes).2.2.mpr ⟨hmarked, hremapped⟩
  exact ⟨htext, hbytes, hmarked, hremapped, hlatin⟩

/-- The byte 0x80 is read as the euro sign. Two bytes that are a mark of UTF-16 turn all others into
pairs, and those of UTF-8 turn a byte into U+FFFD. -/
theorem decode_not_latin :
    ((∀ text, ([0x80] : List UInt8) ≠ utf8Bytes text) ∧ decode [0x80] = ['€'] ∧
        decode [0x80] ≠ [0x80].map byteChar) ∧
      ((∀ text, ([0xFF, 0xFE, 0x61, 0x3D] : List UInt8) ≠ utf8Bytes text) ∧
        decode [0xFF, 0xFE, 0x61, 0x3D] = ['\u3d61'] ∧
        decode [0xFF, 0xFE, 0x61, 0x3D] ≠ [0xFF, 0xFE, 0x61, 0x3D].map byteChar) ∧
      (∀ text, ([0xEF, 0xBB, 0xBF, 0xE9] : List UInt8) ≠ utf8Bytes text) ∧
        decode [0xEF, 0xBB, 0xBF, 0xE9] = ['\ufffd'] ∧
        decode [0xEF, 0xBB, 0xBF, 0xE9] ≠ [0xEF, 0xBB, 0xBF, 0xE9].map byteChar := by
  have heuro : ∀ text, ([0x80] : List UInt8) ≠ utf8Bytes text :=
    utf8Strict?_eq_none_iff.mp (by decide)
  have hunits : ∀ text, ([0xFF, 0xFE, 0x61, 0x3D] : List UInt8) ≠ utf8Bytes text :=
    utf8Strict?_eq_none_iff.mp (by decide)
  have hlossy : ∀ text, ([0xEF, 0xBB, 0xBF, 0xE9] : List UInt8) ≠ utf8Bytes text :=
    utf8Strict?_eq_none_iff.mp (by decide)
  refine ⟨⟨heuro, ?_, ?_⟩, ⟨hunits, ?_, ?_⟩, hlossy, ?_, ?_⟩
  all_goals decide

end Properties

end JavaConstants
