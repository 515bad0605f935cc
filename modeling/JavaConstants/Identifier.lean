import JavaConstants.Unicode.Identifier
import JavaConstants.Unicode.Composed

/-!
# Java identifiers

Which texts may stand as a class or field name, and the repair of those that may not. A repaired
name is composed, has `_` for every character an identifier cannot hold and no two underscores in
a row; a name that is nothing but underscores has no repair.
-/

namespace JavaConstants

/-- The keywords and the literals `true`, `false` and `null`. -/
def reservedWords : List String := [
  "abstract", "assert", "boolean", "break", "byte", "case", "catch", "char", "class", "const",
  "continue", "default", "do", "double", "else", "enum", "extends", "false", "final", "finally",
  "float", "for", "goto", "if", "implements", "import", "instanceof", "int", "interface", "long",
  "native", "new", "null", "package", "private", "protected", "public", "return", "short",
  "static", "strictfp", "super", "switch", "synchronized", "this", "throw", "throws",
  "transient", "true", "try", "void", "volatile", "while"]

/-- Whether a text is a reserved word. -/
def isReserved (s : String) : Bool := reservedWords.contains s

/-! ## Characters -/

/-- Characters that default identifiers admit for stability only: they are no letters, digits or
marks, and a compiler rejects them. -/
def stabilityCharacters : List Nat := [
  0x00B7, 0x0387, 0x1369, 0x136A, 0x136B, 0x136C, 0x136D, 0x136E, 0x136F, 0x1370, 0x1371,
  0x19DA, 0x2118, 0x212E, 0x309B, 0x309C, 0x30FB, 0xFF65]

/-- Whether a character is admitted for stability only. -/
def isStabilityCharacter (c : Char) : Bool := stabilityCharacters.contains c.toNat

/-- Whether a character may start a name. U+1885 and U+1886 are marks and may not. -/
def isIdentifierStart (c : Char) : Bool :=
  c == '_' || (Unicode.isIdStart c && !isStabilityCharacter c &&
    !(c.toNat == 0x1885 || c.toNat == 0x1886))

/-- Whether a character may stand in a name behind its start. -/
def isIdentifierPart (c : Char) : Bool :=
  c == '_' || (Unicode.isIdContinue c && !isStabilityCharacter c)

theorem isIdentifierPart_of_isIdentifierStart {c : Char} (h : isIdentifierStart c = true) :
    isIdentifierPart c = true := by
  simp only [isIdentifierStart, isIdentifierPart, Bool.or_eq_true, Bool.and_eq_true] at h ⊢
  rcases h with h | ⟨⟨h, hs⟩, _⟩
  · exact .inl h
  · exact .inr ⟨Unicode.isIdContinue_of_isIdStart h, hs⟩

/-! ## Names -/

/-- Whether a text can be used as it is for a class or a field. A lone `_` is a keyword. -/
def isName (s : String) : Bool :=
  match s.toList with
  | [] => false
  | c :: cs => s != "_" && !isReserved s && isIdentifierStart c && cs.all isIdentifierPart

/-- Whether a text is a package name: names with dots between them. -/
def isPackageName (s : String) : Bool :=
  s != "" && (s.toList.splitOn '.').all fun part ↦ isName (String.ofList part)

/-! ## Repair -/

/-- Whether a list has two underscores in a row. -/
def hasDoubleUnderscore : List Char → Bool
  | '_' :: '_' :: _ => true
  | _ :: cs => hasDoubleUnderscore cs
  | [] => false

/-- One pass from left to right that writes each pair of underscores it meets as one. -/
def mergeUnderscores : List Char → List Char
  | '_' :: '_' :: cs => '_' :: mergeUnderscores cs
  | c :: cs => c :: mergeUnderscores cs
  | [] => []

theorem length_mergeUnderscores_le (cs : List Char) :
    (mergeUnderscores cs).length ≤ cs.length := by
  fun_induction mergeUnderscores cs <;> grind

theorem length_mergeUnderscores_lt {cs : List Char} (h : hasDoubleUnderscore cs = true) :
    (mergeUnderscores cs).length < cs.length := by
  fun_induction mergeUnderscores cs with
  | case1 cs ih => have := length_mergeUnderscores_le cs; grind
  | case2 c cs hne ih => grind [hasDoubleUnderscore]
  | case3 => simp [hasDoubleUnderscore] at h

/-- Passes until no two underscores stand in a row. -/
def collapseUnderscores (cs : List Char) : List Char :=
  if hasDoubleUnderscore cs then collapseUnderscores (mergeUnderscores cs) else cs
termination_by cs.length
decreasing_by exact length_mergeUnderscores_lt ‹_›

/-- The composed characters of a name with `_` for each one that an identifier cannot hold, and
`_` in front where the first cannot start one. -/
def replaceForeign : List Char → List Char
  | [] => []
  | c :: cs =>
    (if isIdentifierStart c then [] else ['_']) ++
      (c :: cs).map fun d ↦ if isIdentifierPart d then d else '_'

/-- The identifier for a name: the name itself where it is one, else its repair, if any. -/
def identifier? (raw : String) : Option String :=
  if isName raw then some raw
  else
    let repaired := String.ofList
      (collapseUnderscores (replaceForeign (Unicode.composed raw).toList))
    let result := if isReserved repaired then "_" ++ repaired else repaired
    if isName result then some result else none

/-- Every identifier returned is one. -/
theorem isName_of_identifier? {raw name : String} (h : identifier? raw = some name) :
    isName name = true := by
  simp only [identifier?] at h
  grind

end JavaConstants
