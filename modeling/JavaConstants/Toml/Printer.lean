import JavaConstants.Decimal.Basic
import JavaConstants.Toml.Text
import JavaConstants.Toml.Value

/-!
# Writing TOML

Documents with a block for each table. A string is written in the first form that shows it without
an escape, and an array of two items or more has each of them on a line of its own.
-/

namespace JavaConstants.Toml

/-! ## Strings -/

/-- The greatest number of times that `c` stands in a row; `run` of them stand in front. -/
def longestRun (c : Char) : (run : Nat) → List Char → Nat
  | run, [] => run
  | run, d :: cs => if d = c then longestRun c (run + 1) cs else max run (longestRun c 0 cs)

/-- Whether a character cannot be shown without an escape. -/
def isHiddenChar (c : Char) : Bool := !isPlainChar c

/-- The spelling of a character between double quotes. -/
def escapeChar (c : Char) : List Char :=
  if c = '\x08' then ['\\', 'b']
  else if c = '\t' then ['\\', 't']
  else if c = '\n' then ['\\', 'n']
  else if c = '\x0c' then ['\\', 'f']
  else if c = '\r' then ['\\', 'r']
  else if c = '\\' then ['\\', '\\']
  else if isPlainChar c then [c]
  else '\\' :: 'u' :: upperHex4 c.toNat

/-- The inside of a string between double quotes, of which `limit` may stand in a row; `run` of them
stand in front. A limit above zero means that the string may have several lines. -/
def basicInside (limit : Nat) : (run : Nat) → List Char → List Char
  | _, [] => []
  | run, c :: cs =>
    if c = '"' then
      if limit ≤ run then '\\' :: '"' :: basicInside limit 0 cs
      else '"' :: basicInside limit (run + 1) cs
    else (if c = '\n' ∧ 0 < limit then ['\n'] else escapeChar c) ++ basicInside limit 0 cs

/-- A text between double quotes. -/
def basicString (cs : List Char) : String := "\"" ++ String.ofList (basicInside 0 0 cs) ++ "\""

/-- A text between two marks for long strings. Text of several lines begins on a line of its own. -/
def markedText (mark : String) (cs inside : List Char) : String :=
  mark ++ (if cs.contains '\n' then "\n" else "") ++ String.ofList inside ++ mark

/-- A text between triple double quotes. -/
def basicLines (cs : List Char) : String := markedText "\"\"\"" cs (basicInside 2 0 cs)

/-- A string as it is written. -/
def stringText (s : String) : String :=
  let cs := s.toList
  let hidden := cs.any fun c ↦ c ≠ '\n' && isHiddenChar c
  let newline := cs.contains '\n'
  let double := longestRun '"' 0 cs
  let single := longestRun '\'' 0 cs
  if hidden then if newline then basicLines cs else basicString cs
  else if !cs.contains '\\' && double = 0 && !newline then basicString cs
  else if single = 0 && !newline then "'" ++ s ++ "'"
  else if !cs.contains '\\' && double ≤ 2 then basicLines cs
  else if single ≤ 2 then markedText "'''" cs cs
  else if newline then basicLines cs
  else basicString cs

/-- A part of a key as it is written. -/
def keyText (s : String) : String :=
  let cs := s.toList
  if !cs.isEmpty && cs.all isBareChar then s
  else if cs.any isHiddenChar then basicString cs
  else if !cs.contains '\\' && !cs.contains '"' then basicString cs
  else if !cs.contains '\'' then "'" ++ s ++ "'"
  else basicString cs

/-! ## Values -/

mutual

/-- A value behind its key. -/
def valueText : Value → String
  | .string s => stringText s
  | .integer i => integerText i
  | .float x => if x = .notANumber then "nan" else x.pointedText
  | .boolean b => if b then "true" else "false"
  | .moment m => m.text
  | .array [] => "[]"
  | .array [item] => "[" ++ valueText item ++ "]"
  | .array (item :: items) => "[\n    " ++ valueText item ++ ",\n" ++ itemTexts items ++ "]"
  | .table [] => "\x7b\x7d"
  | .table ((key, value) :: members) =>
    "\x7b " ++ keyText key ++ " = " ++ valueText value ++ memberTexts members ++ " \x7d"

/-- Further items of an array, each on a line. -/
def itemTexts : List Value → String
  | [] => ""
  | item :: items => "    " ++ valueText item ++ ",\n" ++ itemTexts items

/-- Further members of a table on one line. -/
def memberTexts : List (String × Value) → String
  | [] => ""
  | (key, value) :: members =>
    ", " ++ keyText key ++ " = " ++ valueText value ++ memberTexts members

end

/-! ## Documents -/

/-- Whether a member has a block of its own, or several. -/
def isBlock (v : Value) : Bool := v.isTable || v.isTableArray

/-- The lines of the members without blocks of their own. -/
def ownLines (members : List (String × Value)) : String :=
  String.join ((members.filter fun m ↦ !isBlock m.2).map fun (key, value) ↦
    keyText key ++ " = " ++ valueText value ++ "\n")

/-- A path as a header shows it. -/
def pathText (path : List String) : String := ".".intercalate (path.map keyText)

/-- The block of a table; a table that consists of tables alone needs none. -/
def tableBlock (path : List String) (members : List (String × Value)) : List String :=
  if members.isEmpty || members.any fun m ↦ !isBlock m.2 then
    ["[" ++ pathText path ++ "]\n" ++ ownLines members]
  else []

mutual

/-- The blocks of the members of a table. -/
def memberBlocks (path : List String) : List (String × Value) → List String
  | [] => []
  | (key, .table inner) :: members =>
    tableBlock (path ++ [key]) inner ++ memberBlocks (path ++ [key]) inner ++
      memberBlocks path members
  | (key, .array items) :: members =>
    (if items.all (·.isTable) then rowBlocks (path ++ [key]) items else []) ++
      memberBlocks path members
  | _ :: members => memberBlocks path members

/-- The blocks of an array of tables. -/
def rowBlocks (path : List String) : List Value → List String
  | [] => []
  | .table inner :: rows =>
    ("[[" ++ pathText path ++ "]]\n" ++ ownLines inner) :: memberBlocks path inner ++
      rowBlocks path rows
  | _ :: rows => rowBlocks path rows

end

/-- A document as it is written, with an empty line between its blocks. -/
def print (members : List (String × Value)) : String :=
  let top := ownLines members
  "\n".intercalate ((if top = "" then [] else [top]) ++ memberBlocks [] members)

end JavaConstants.Toml
