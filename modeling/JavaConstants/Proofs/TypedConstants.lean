import JavaConstants.Generate.BuildConstants
import JavaConstants.Proofs.LiteralReading

/-!
# Typed constants

What the value of a custom constant says under its type (`Says`), and what a compiler reads in the
initializer that the constant gets (`Field.Denotes`). Values that say nothing are refused, and all
others are read back as what they say (`field_denotes`).

An initializer is read behind the translation of Unicode escapes, by the rules for the type that is
declared. Integers are decimal: digits behind a zero would be octal, and are not written. The least
integer of a type is read together with the minus in front of it, since its magnitude alone is out
of range.
-/

namespace JavaConstants

/-- What a constant stands for. -/
inductive Constant where
  | integer (i : Int)
  | boolean (b : Bool)
  /-- A character, by its unit. -/
  | character (unit : Nat)
  /-- A text, by its units. -/
  | text (units : List Nat)
  deriving DecidableEq, Repr

namespace Literal

/-! ## Readers -/

/-- Whether a unit goes on with a word or a number: an ASCII letter or digit, one of `_`, `$` and
`.`, or anything beyond ASCII. -/
def isWordUnit (u : Nat) : Bool :=
  ('0'.toNat ≤ u && u ≤ '9'.toNat) || ('A'.toNat ≤ u && u ≤ 'Z'.toNat) ||
    ('a'.toNat ≤ u && u ≤ 'z'.toNat) || ['_'.toNat, '$'.toNat, '.'.toNat].contains u || 0x80 ≤ u

/-- The number of a decimal numeral: a zero alone, or digits of which the first is no zero. -/
def numeral? (digits : List Nat) : Option Nat :=
  if digits = ['0'.toNat] ∨ digits ≠ [] ∧ digits.head? ≠ some '0'.toNat ∧
      ∀ u ∈ digits, '0'.toNat ≤ u ∧ u ≤ '9'.toNat then
    some (digits.foldl (fun n u ↦ 10 * n + (u - '0'.toNat)) 0)
  else none

/-- Reads a word that is a decimal numeral with a suffix. -/
def readDecimal (suffix us : List Nat) : Option (Nat × List Nat) :=
  let word := us.takeWhile isWordUnit
  let digits := word.take (word.length - suffix.length)
  if digits ++ suffix = word then
    (numeral? digits).map fun n ↦ (n, us.dropWhile isWordUnit)
  else none

/-- Whether an integer is one of a type with some bits, in two's complement. -/
def InRange (bits : Nat) (i : Int) : Prop := -2 ^ (bits - 1) ≤ i ∧ i < 2 ^ (bits - 1)

instance (bits : Nat) (i : Int) : Decidable (InRange bits i) := inferInstanceAs (Decidable (_ ∧ _))

/-- Reads a decimal literal in the range of a type, maybe behind a minus. -/
def readInteger (bits : Nat) (suffix us : List Nat) : Option (Int × List Nat) :=
  (if us.head? = some '-'.toNat then
    (readDecimal suffix (us.drop 1)).map fun r ↦ (-(r.1 : Int), r.2)
  else (readDecimal suffix us).map fun r ↦ ((r.1 : Int), r.2)).filter (InRange bits ·.1)

/-- Reads one of the words `true` and `false`. -/
def readBoolean (us : List Nat) : Option (Bool × List Nat) :=
  let word := us.takeWhile isWordUnit
  if word = textUnits "true".toList then some (true, us.dropWhile isWordUnit)
  else if word = textUnits "false".toList then some (false, us.dropWhile isWordUnit)
  else none

end Literal

namespace JavaType

/-- The bits of an integer type. -/
def bits? : JavaType → Option Nat
  | byte => some 8
  | short => some 16
  | int => some 32
  | long => some 64
  | _ => none

/-- What stands behind the numeral of an integer. -/
def suffix : JavaType → String
  | long => "L"
  | _ => ""

/-- Reads the initializer of a constant of a type. Numbers with a fraction are not read here. -/
def readConstant (ty : JavaType) (us : List Nat) : Option (Constant × List Nat) :=
  match ty with
  | string => (Literal.readString us).map fun r ↦ (.text r.1, r.2)
  | char => (Literal.readCharacter us).map fun r ↦ (.character r.1, r.2)
  | boolean => (Literal.readBoolean us).map fun r ↦ (.boolean r.1, r.2)
  | float => none
  | double => none
  | ty => ty.bits?.bind fun bits ↦
      (Literal.readInteger bits (textUnits ty.suffix.toList) us).map fun r ↦ (.integer r.1, r.2)

end JavaType

/-- Whether a compiler reads the initializer of a constant, up to the semicolon behind it, as
something. -/
def Field.Denotes (f : Field) (k : Constant) : Prop :=
  ∀ t : String, (Literal.translate (textUnits (f.initializer ++ ";" ++ t).toList)).bind
      f.type.readConstant =
    (Literal.translate (textUnits t.toList)).map fun rest ↦ (k, ';'.toNat :: rest)

/-! ## What a value says -/

/-- The number of one or more decimal digits. -/
inductive SpellsNumber : List Char → Nat → Prop where
  | digits {ds : List Char} (hne : ds ≠ []) (hds : ∀ d ∈ ds, d.isDigit = true) :
    SpellsNumber ds (Nat.ofDigitChars 10 ds 0)

/-- The integer of digits behind an optional sign. -/
inductive SpellsInteger : List Char → Int → Prop where
  | unsigned {ds : List Char} {n : Nat} (h : SpellsNumber ds n) : SpellsInteger ds n
  | plus {ds : List Char} {n : Nat} (h : SpellsNumber ds n) : SpellsInteger ('+' :: ds) n
  | minus {ds : List Char} {n : Nat} (h : SpellsNumber ds n) : SpellsInteger ('-' :: ds) (-n)

/-- What a value says as that of a constant of a type. White space around it counts in a text and in
a character only. -/
inductive Says : JavaType → String → Constant → Prop where
  | integer {ty : JavaType} {bits : Nat} {value : String} {i : Int} (hty : ty.bits? = some bits)
    (hvalue : SpellsInteger (Unicode.trimBlanks value).toList i)
    (hrange : Literal.InRange bits i) : Says ty value (.integer i)
  | true {value : String} (hvalue : Unicode.trimBlanks value = "true") :
    Says .boolean value (.boolean true)
  | false {value : String} (hvalue : Unicode.trimBlanks value = "false") :
    Says .boolean value (.boolean false)
  | character {c : Char} (hc : c.toNat ≤ 0xFFFF) :
    Says .char (String.ofList [c]) (.character c.toNat)
  | text (value : String) : Says .string value (.text (textUnits value.toList))

/-! ## Integers that are given -/

theorem digitsValue?_eq_some_iff {ds : List Char} {n : Nat} :
    digitsValue? ds = some n ↔ SpellsNumber ds n := by
  have hdigits : (ds.isEmpty || !ds.all (·.isDigit)) = false ↔
      ds ≠ [] ∧ ∀ d ∈ ds, d.isDigit = true := by simp
  have hvalue : ds.foldl (fun n c ↦ 10 * n + (c.toNat - 48)) 0 = Nat.ofDigitChars 10 ds 0 := rfl
  rw [digitsValue?, hvalue, Option.ite_none_left_eq_some, Option.some.injEq, Bool.not_eq_true,
    hdigits]
  constructor
  · rintro ⟨⟨hne, hds⟩, rfl⟩
    exact .digits hne hds
  · rintro ⟨hne, hds⟩
    exact ⟨⟨hne, hds⟩, rfl⟩

theorem parseInteger?_eq (s : String) :
    parseInteger? s = (digitsValue? (splitSign s.toList).2).map fun n : Nat ↦
      if (splitSign s.toList).1 then -(n : Int) else n := by
  rw [parseInteger?]
  generalize splitSign s.toList = split
  obtain ⟨negative, ds⟩ := split
  dsimp only
  cases digitsValue? ds <;> rfl

theorem splitSign_of_digits {ds : List Char} (h : ∀ d ∈ ds, d.isDigit = true) :
    splitSign ds = (false, ds) := by
  rw [splitSign.eq_def]
  split
  · exact absurd (h '+' List.mem_cons_self) (by decide)
  · exact absurd (h '-' List.mem_cons_self) (by decide)
  · rfl

/-- Integers are parsed as they are spelled. -/
theorem parseInteger?_eq_some_iff {s : String} {i : Int} :
    parseInteger? s = some i ↔ SpellsInteger s.toList i := by
  rw [parseInteger?_eq, Option.map_eq_some_iff]
  simp only [digitsValue?_eq_some_iff]
  generalize s.toList = cs
  constructor
  · rintro ⟨n, hn, rfl⟩
    rw [splitSign.eq_def] at hn ⊢
    split at hn
    · exact .plus hn
    · exact .minus hn
    · exact .unsigned hn
  · rintro (⟨⟨hne, hds⟩⟩ | h | h)
    · rw [splitSign_of_digits hds]
      exact ⟨_, .digits hne hds, rfl⟩
    · exact ⟨_, h, rfl⟩
    · exact ⟨_, h, rfl⟩

theorem fitsWord_iff {bits : Nat} {i : Int} :
    fitsWord bits i = true ↔ Literal.InRange bits i := by
  simp [fitsWord, Literal.InRange]

theorem boundedInteger?_eq_some_iff {bits : Nat} {s : String} {i : Int} :
    boundedInteger? bits s = some i ↔ SpellsInteger s.toList i ∧ Literal.InRange bits i := by
  rw [boundedInteger?, Option.filter_eq_some_iff, parseInteger?_eq_some_iff, fitsWord_iff]

namespace CustomField

theorem literal?_of_bits? {c : CustomField} {bits : Nat} (h : c.type.bits? = some bits) :
    c.literal? = (boundedInteger? bits (Unicode.trimBlanks c.value)).map
      fun i ↦ (integerText i ++ c.type.suffix, .verbatim) := by
  obtain ⟨name, type, value⟩ := c
  have hempty (s : String) : s ++ "" = s := String.append_empty
  cases type <;> cases h <;> simp only [literal?, JavaType.suffix, hempty]

end CustomField

/-! ## Integers that are written -/

theorem isDigit_of_mem_digitChars {n : Nat} {c : Char} (h : c ∈ digitChars n) :
    c.isDigit = true :=
  Nat.isDigit_of_mem_toDigits (by decide) le_rfl h

theorem head?_digitChars_ne {n : Nat} (hn : n ≠ 0) : (digitChars n).head? ≠ some '0' := by
  induction n using Nat.strongRecOn with
  | ind n ih =>
    rw [digitChars]
    rcases Nat.lt_or_ge n 10 with hlt | hle
    · rw [Nat.toDigits_of_lt_base hlt, List.head?_singleton, ne_eq, Option.some.injEq,
        Nat.digitChar_eq_zero]
      exact hn
    · rw [Nat.toDigits_of_base_le (by decide) hle,
        List.head?_append_of_ne_nil _ Nat.toDigits_ne_nil]
      exact ih (n / 10) (by omega) (by omega)

theorem toList_integerText_of_neg {i : Int} (h : i < 0) :
    (integerText i).toList = '-' :: digitChars i.natAbs := by
  rw [integerText, if_pos h, String.toList_append, String.toList_ofList, String.toList_ofList,
    List.singleton_append]

theorem toList_integerText_of_nonneg {i : Int} (h : 0 ≤ i) :
    (integerText i).toList = digitChars i.natAbs := by
  rw [integerText, if_neg (by omega), String.toList_append, String.toList_ofList,
    String.toList_ofList, List.nil_append]

theorem of_mem_integerText {i : Int} {c : Char} (h : c ∈ (integerText i).toList) :
    c = '-' ∨ c.isDigit = true := by
  rcases lt_or_ge i 0 with hi | hi
  · rw [toList_integerText_of_neg hi, List.mem_cons] at h
    exact h.imp_right isDigit_of_mem_digitChars
  · rw [toList_integerText_of_nonneg hi] at h
    exact .inr (isDigit_of_mem_digitChars h)

theorem textUnits_of_lt {cs : List Char} (h : ∀ c ∈ cs, c.toNat < 0x80) :
    textUnits cs = cs.map Char.toNat := by
  induction cs with
  | nil => rfl
  | cons c cs ih =>
    rw [List.forall_mem_cons] at h
    rw [textUnits_cons, charUnits_of_lt (by omega), ih h.2, List.map_cons, List.singleton_append]

namespace Literal

theorem numeral?_digitChars (n : Nat) : numeral? ((digitChars n).map Char.toNat) = some n := by
  have hdigits : ∀ u ∈ (digitChars n).map Char.toNat, '0'.toNat ≤ u ∧ u ≤ '9'.toNat := by
    rw [List.forall_mem_map]
    exact fun c hc ↦ Char.isDigit_iff_toNat.mp (isDigit_of_mem_digitChars hc)
  have hvalue : ((digitChars n).map Char.toNat).foldl (fun n u ↦ 10 * n + (u - '0'.toNat)) 0 =
      n := by
    rw [List.foldl_map]
    exact Nat.ofDigitChars_toDigits (by decide) le_rfl
  rw [numeral?, hvalue, if_pos]
  by_cases hn : n = 0
  · exact .inl (by rw [hn]; rfl)
  · refine .inr ⟨by simp [digitChars], fun hhead ↦ ?_, hdigits⟩
    rw [List.head?_map, Option.map_eq_some_iff] at hhead
    obtain ⟨c, hc, hzero⟩ := hhead
    rw [Char.toNat_inj.mp hzero] at hc
    exact head?_digitChars_ne hn hc

theorem isWordUnit_of_isDigit {c : Char} (h : c.isDigit = true) : isWordUnit c.toNat = true := by
  have hrange := Char.isDigit_iff_toNat.mp h
  simp only [isWordUnit, Bool.or_eq_true, Bool.and_eq_true, decide_eq_true_eq]
  exact .inl (.inl (.inl (.inl hrange)))

theorem span_isWordUnit {word : List Nat} (h : ∀ u ∈ word, isWordUnit u = true)
    (rest : List Nat) :
    (word ++ ';'.toNat :: rest).takeWhile isWordUnit = word ∧
      (word ++ ';'.toNat :: rest).dropWhile isWordUnit = ';'.toNat :: rest := by
  have hend : isWordUnit ';'.toNat ≠ true := by decide
  constructor
  · rw [List.takeWhile_append_of_pos h, List.takeWhile_cons_of_neg hend, List.append_nil]
  · rw [List.dropWhile_append_of_pos h, List.dropWhile_cons_of_neg hend]

theorem readDecimal_digitChars {suffix : List Nat} (h : ∀ u ∈ suffix, isWordUnit u = true)
    (n : Nat) (rest : List Nat) :
    readDecimal suffix ((digitChars n).map Char.toNat ++ suffix ++ ';'.toNat :: rest) =
      some (n, ';'.toNat :: rest) := by
  have hword : ∀ u ∈ (digitChars n).map Char.toNat ++ suffix, isWordUnit u = true := by
    rw [List.forall_mem_append, List.forall_mem_map]
    exact ⟨fun c hc ↦ isWordUnit_of_isDigit (isDigit_of_mem_digitChars hc), h⟩
  have hdigits : ((digitChars n).map Char.toNat ++ suffix).take
      (((digitChars n).map Char.toNat ++ suffix).length - suffix.length) =
      (digitChars n).map Char.toNat := by
    rw [List.length_append, Nat.add_sub_cancel, List.take_left]
  obtain ⟨htake, hdrop⟩ := span_isWordUnit hword rest
  simp only [readDecimal, htake, hdrop, hdigits, if_true, numeral?_digitChars, Option.map_some]

theorem head?_digitChars_append_ne (n : Nat) (us : List Nat) :
    ((digitChars n).map Char.toNat ++ us).head? ≠ some '-'.toNat := by
  have hne : (digitChars n).map Char.toNat ≠ [] := by simp [digitChars]
  rw [List.head?_append_of_ne_nil _ hne, List.head?_map]
  intro hhead
  obtain ⟨c, hc, hsign⟩ := Option.map_eq_some_iff.mp hhead
  rw [Char.toNat_inj.mp hsign] at hc
  exact absurd (isDigit_of_mem_digitChars (List.mem_of_head? hc)) (by decide)

/-- An integer and the suffix of its type are read up to a semicolon. -/
theorem readInteger_integerText {bits : Nat} {i : Int} (hrange : InRange bits i)
    {suffix : List Nat} (h : ∀ u ∈ suffix, isWordUnit u = true) (rest : List Nat) :
    readInteger bits suffix ((integerText i).toList.map Char.toNat ++ suffix ++ ';'.toNat :: rest) =
      some (i, ';'.toNat :: rest) := by
  have hread := readDecimal_digitChars h i.natAbs rest
  have hfilter : (some (i, ';'.toNat :: rest)).filter (InRange bits ·.1) =
      some (i, ';'.toNat :: rest) := by
    rw [Option.filter_some, if_pos (decide_eq_true hrange)]
  rcases lt_or_ge i 0 with hi | hi
  · have hvalue : -(i.natAbs : Int) = i := by omega
    rw [toList_integerText_of_neg hi, List.map_cons, List.cons_append, List.cons_append,
      readInteger, List.head?_cons, if_pos rfl, List.drop_one, List.tail_cons, hread,
      Option.map_some, hvalue, hfilter]
  · have hvalue : (i.natAbs : Int) = i := by omega
    have hhead := head?_digitChars_append_ne i.natAbs (suffix ++ ';'.toNat :: rest)
    rw [← List.append_assoc] at hhead
    rw [toList_integerText_of_nonneg hi, readInteger, if_neg hhead, hread, Option.map_some, hvalue,
      hfilter]

theorem readBoolean_word (b : Bool) (rest : List Nat) :
    readBoolean (textUnits (if b then "true" else "false").toList ++ ';'.toNat :: rest) =
      some (b, ';'.toNat :: rest) := by
  have hword : ∀ u ∈ textUnits (if b then "true" else "false").toList, isWordUnit u = true := by
    cases b <;> decide
  obtain ⟨htake, hdrop⟩ := span_isWordUnit hword rest
  rw [readBoolean, htake, hdrop]
  cases b
  · exact (if_neg (by decide)).trans (if_pos rfl)
  · exact if_pos rfl

end Literal

/-! ## Constants are read back

Every initializer is followed by a semicolon, which ends a word. What the first phase leaves of an
initializer depends on its kind: a word stays as it is, and a literal is translated piece by
piece. -/

/-- An initializer denotes what is read in the units that the first phase leaves of it. -/
theorem Field.denotes_of_read {f : Field} {k : Constant} (left : List Nat)
    (htranslate : ∀ us, Literal.translate (textUnits f.initializer.toList ++ us) =
      (Literal.translate us).map (left ++ ·))
    (hread : ∀ rest, f.type.readConstant (left ++ ';'.toNat :: rest) =
      some (k, ';'.toNat :: rest)) : f.Denotes k := by
  intro t
  have hsemicolon : Literal.translate (textUnits (";" ++ t).toList) =
      (Literal.translate (textUnits t.toList)).map (';'.toNat :: ·) := by
    rw [String.toList_append, textUnits_append]
    have hslash : '\\'.toNat ∉ textUnits ";".toList := by decide
    exact Literal.translate_append_of_notMem hslash _
  rw [String.append_assoc, String.toList_append, textUnits_append, htranslate, hsemicolon,
    Option.map_map, Option.bind_map, Option.map_eq_bind]
  exact Option.bind_congr fun rest _ ↦ hread rest

theorem Field.denotes_of_verbatim {f : Field} {k : Constant} {word : List Nat}
    (hkind : f.kind = .verbatim) (hword : textUnits f.value.toList = word)
    (hslash : '\\'.toNat ∉ word)
    (hread : ∀ rest, f.type.readConstant (word ++ ';'.toNat :: rest) =
      some (k, ';'.toNat :: rest)) : f.Denotes k := by
  refine denotes_of_read word (fun us ↦ ?_) hread
  rw [initializer, hkind, hword]
  exact Literal.translate_append_of_notMem hslash us

theorem Field.denotes_of_quoted {f : Field} {k : Constant} {quote : Nat} {raw left : List Nat}
    (hquote : quote ≠ '\\'.toNat)
    (hliteral : textUnits f.initializer.toList = quote :: (raw ++ [quote]))
    (htranslate : ∀ us, Literal.translate (raw ++ us) = (Literal.translate us).map (left ++ ·))
    (hread : ∀ rest, f.type.readConstant (quote :: (left ++ quote :: ';'.toNat :: rest)) =
      some (k, ';'.toNat :: rest)) : f.Denotes k := by
  refine denotes_of_read (quote :: (left ++ [quote])) (fun us ↦ ?_) fun rest ↦ ?_
  · rw [hliteral, Literal.translate_quoted hquote htranslate]
    simp only [List.cons_append, List.append_assoc, List.nil_append]
  · rw [List.cons_append, List.append_assoc, List.singleton_append]
    exact hread rest

theorem Field.denotes_text (name value : String) :
    (Field.ofText name value).Denotes (.text (textUnits value.toList)) := by
  obtain ⟨left, hleft⟩ := Literal.exists_spellsAll value.toList
  refine denotes_of_quoted (by decide) (Literal.textUnits_stringLiteral value)
    hleft.translate_append fun rest ↦ ?_
  rw [ofText, JavaType.readConstant, Literal.readString_spelled hleft, Option.map_some]

theorem Field.denotes_character (name : String) {c : Char} (hc : c.toNat ≤ 0xFFFF) :
    Field.Denotes ⟨name, .char, String.ofList [c], .character⟩ (.character c.toNat) := by
  have hquote : '\'' ∈ quotes := by decide
  have hinitializer : Field.initializer ⟨name, .char, String.ofList [c], .character⟩ =
      charLiteral c := by simp only [initializer, String.toList_ofList]
  have hliteral := Literal.textUnits_charLiteral c
  obtain ⟨left, hleft⟩ := Literal.exists_spells hquote (Nat.lt_succ_of_le hc)
  rw [← hinitializer] at hliteral
  refine denotes_of_quoted (by decide) hliteral hleft.translate_append fun rest ↦ ?_
  rw [JavaType.readConstant, Literal.readCharacter_spelled hleft, Option.map_some]

theorem JavaType.isWordUnit_of_mem_suffix (ty : JavaType) :
    ∀ u ∈ textUnits ty.suffix.toList, Literal.isWordUnit u = true := by
  cases ty <;> decide

theorem JavaType.readConstant_of_bits? {ty : JavaType} {bits : Nat} (h : ty.bits? = some bits)
    (us : List Nat) :
    ty.readConstant us = (Literal.readInteger bits (textUnits ty.suffix.toList) us).map
      fun r ↦ (.integer r.1, r.2) := by
  cases ty <;> cases h <;> rfl

theorem Field.denotes_integer (name : String) {ty : JavaType} {bits : Nat}
    (hty : ty.bits? = some bits) {i : Int} (hrange : Literal.InRange bits i) :
    Field.Denotes ⟨name, ty, integerText i ++ ty.suffix, .verbatim⟩ (.integer i) := by
  have hslash {c : Char} (hc : c ∈ (integerText i).toList) : c.toNat < 0x80 ∧ c ≠ '\\' := by
    rcases of_mem_integerText hc with rfl | hdigit
    · decide
    · have hdigit := Char.isDigit_iff_toNat.mp hdigit
      refine ⟨hdigit.2.trans_lt (by decide), ?_⟩
      rintro rfl
      exact absurd hdigit.2 (by decide)
  have hword : textUnits (integerText i ++ ty.suffix).toList =
      (integerText i).toList.map Char.toNat ++ textUnits ty.suffix.toList := by
    rw [String.toList_append, textUnits_append, textUnits_of_lt fun c hc ↦ (hslash hc).1]
  refine denotes_of_verbatim rfl hword ?_ fun rest ↦ ?_
  · rw [List.mem_append, not_or]
    constructor
    · rw [List.mem_map]
      rintro ⟨c, hc, heq⟩
      exact (hslash hc).2 (Char.toNat_inj.mp heq)
    · exact fun hmem ↦ absurd (ty.isWordUnit_of_mem_suffix _ hmem) (by decide)
  · rw [JavaType.readConstant_of_bits? hty,
      Literal.readInteger_integerText hrange ty.isWordUnit_of_mem_suffix, Option.map_some]

theorem Field.denotes_boolean (name : String) (b : Bool) :
    Field.Denotes ⟨name, .boolean, if b then "true" else "false", .verbatim⟩ (.boolean b) := by
  have hslash : '\\'.toNat ∉ textUnits (if b then "true" else "false").toList := by
    cases b <;> decide
  refine denotes_of_verbatim rfl rfl hslash fun rest ↦ ?_
  rw [JavaType.readConstant, Literal.readBoolean_word, Option.map_some]

/-! ## Custom constants -/

namespace CustomField

/-- What a value says is denoted by the literal for it. -/
theorem exists_literal_of_says {c : CustomField} {k : Constant} (h : Says c.type c.value k) :
    ∃ value kind, c.literal? = some (value, kind) ∧
      Field.Denotes ⟨c.name, c.type, value, kind⟩ k := by
  obtain ⟨name, type, value⟩ := c
  dsimp only at h ⊢
  cases h with
  | integer hty hvalue hrange =>
    refine ⟨_, _, ?_, Field.denotes_integer name hty hrange⟩
    rw [literal?_of_bits? hty, boundedInteger?_eq_some_iff.mpr ⟨hvalue, hrange⟩, Option.map_some]
  | true hvalue =>
    refine ⟨_, _, ?_, Field.denotes_boolean name true⟩
    simp only [literal?, hvalue, true_or, if_true]
  | false hvalue =>
    refine ⟨_, _, ?_, Field.denotes_boolean name false⟩
    simp [literal?, hvalue]
  | @character c hc =>
    refine ⟨_, _, ?_, Field.denotes_character name hc⟩
    simp only [literal?, String.toList_ofList, if_pos hc]
  | text => exact ⟨_, _, rfl, Field.denotes_text name value⟩

/-- A value with a literal says something, if it is not that of a number with a fraction. -/
theorem exists_says_of_literal {c : CustomField} (hfloat : c.type ≠ .float)
    (hdouble : c.type ≠ .double) {l : String × ValueKind} (h : c.literal? = some l) :
    ∃ k, Says c.type c.value k := by
  rcases hbits : c.type.bits? with _ | bits
  · obtain ⟨name, type, value⟩ := c
    cases type with
    | string => exact ⟨_, .text value⟩
    | char =>
      simp only [literal?] at h
      split at h
      · rename_i ch hvalue
        split_ifs at h with hch
        rw [← String.ofList_toList (s := value), hvalue]
        exact ⟨_, .character hch⟩
      · cases h
    | boolean =>
      simp only [literal?] at h
      split_ifs at h with hvalue
      exact hvalue.elim (fun htrue ↦ ⟨_, .true htrue⟩) fun hfalse ↦ ⟨_, .false hfalse⟩
    | float => exact absurd rfl hfloat
    | double => exact absurd rfl hdouble
    | byte | short | int | long => cases hbits
  · rw [literal?_of_bits? hbits, Option.map_eq_some_iff] at h
    obtain ⟨i, hi, _⟩ := h
    obtain ⟨hvalue, hrange⟩ := boundedInteger?_eq_some_iff.mp hi
    exact ⟨_, .integer hbits hvalue hrange⟩

/-- **Custom constants denote their values**: a constant that is no number with a fraction is
declared if and only if its value says something under its type, and that is what a compiler reads
in its initializer. -/
theorem field_denotes (c : CustomField) (hfloat : c.type ≠ .float) (hdouble : c.type ≠ .double) :
    ((∃ f, c.field = .ok f) ↔ ∃ k, Says c.type c.value k) ∧
      ∀ f k, c.field = .ok f → Says c.type c.value k →
        f.name = c.name ∧ f.type = c.type ∧ f.Denotes k := by
  have hfield {l : String × ValueKind} (h : c.literal? = some l) :
      c.field = .ok ⟨c.name, c.type, l.1, l.2⟩ := by rw [field, h]
  refine ⟨⟨fun ⟨f, hf⟩ ↦ ?_, fun ⟨k, hk⟩ ↦ ?_⟩, fun f k hf hk ↦ ?_⟩
  · rcases hliteral : c.literal? with _ | l
    · rw [field, hliteral] at hf
      cases hf
    · exact exists_says_of_literal hfloat hdouble hliteral
  · obtain ⟨value, kind, hliteral, _⟩ := exists_literal_of_says hk
    exact ⟨_, hfield hliteral⟩
  · obtain ⟨value, kind, hliteral, hdenotes⟩ := exists_literal_of_says hk
    cases (hfield hliteral).symm.trans hf
    exact ⟨rfl, rfl, hdenotes⟩

/-- The least integer of a type is denoted too, and zeros in front of it make it no octal. -/
theorem field_denotes_least : JavaType.long ≠ .float ∧ JavaType.long ≠ .double ∧
    Says .long " -0009223372036854775808\n" (.integer (-9223372036854775808)) ∧
    CustomField.field ⟨"LEAST", .long, " -0009223372036854775808\n"⟩ =
      .ok ⟨"LEAST", .long, "-9223372036854775808L", .verbatim⟩ ∧
    Field.Denotes ⟨"LEAST", .long, "-9223372036854775808L", .verbatim⟩
      (.integer (-9223372036854775808)) := by
  have hsays : Says .long " -0009223372036854775808\n" (.integer (-9223372036854775808)) :=
    .integer rfl (parseInteger?_eq_some_iff.mp (by decide +kernel)) (by decide)
  have hfield : CustomField.field ⟨"LEAST", .long, " -0009223372036854775808\n"⟩ =
      .ok ⟨"LEAST", .long, "-9223372036854775808L", .verbatim⟩ := by
    decide +kernel
  have hdenotes := (field_denotes ⟨"LEAST", .long, " -0009223372036854775808\n"⟩ (by decide)
    (by decide)).2 _ _ hfield hsays
  exact ⟨by decide, by decide, hsays, hfield, hdenotes.2.2⟩

end CustomField

end JavaConstants
