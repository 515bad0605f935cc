import JavaConstants.Toml.Number
import JavaConstants.Toml.Table
import JavaConstants.Toml.Text

/-!
# Reading TOML

Reads the members of a document. A value is read with the containers around it that are still open,
innermost first, and every step reads one character at least.
-/

namespace JavaConstants.Toml

/-- Characters without the blanks, line ends and comments in front; none where a comment holds a
control character or a carriage return stands alone. -/
def skipSpace? : (comment : Bool) → List Char → Option (List Char)
  | _, [] => some []
  | comment, c :: cs =>
    if c = '\n' then skipSpace? false cs
    else if c = '\r' then if cs.head? = some '\n' then skipSpace? comment cs else none
    else if comment then if isPlainChar c then skipSpace? true cs else none
    else if isBlankChar c then skipSpace? false cs
    else if c = '#' then skipSpace? true cs
    else some (c :: cs)

/-! ## Values -/

/-- A value that holds no others, at the start of some characters. -/
def scalar? (cs : List Char) : Option (Value × List Char) :=
  match cs with
  | '"' :: rest => (readString? '"' rest).map fun (s, rest) ↦ (.string s, rest)
  | '\'' :: rest => (readString? '\'' rest).map fun (s, rest) ↦ (.string s, rest)
  | _ =>
    match Moment.read? cs with
    | some (m, rest) => some (.moment m, rest)
    | none => (Value.ofWord? (cs.takeWhile isWordChar)).map (·, cs.dropWhile isWordChar)

/-- An open container with what it holds so far: items, last first, or the members of a table and
the key whose value is being read. -/
inductive Frame where
  | array (items : List Value)
  | table (members : Members) (path : List String) (key : String)

/-- What may come next. -/
inductive Expect where
  /-- A value. -/
  | value
  /-- A value or the end of an array. -/
  | item
  /-- A comma or the end of an array. -/
  | nextItem
  /-- A key or the end of a table that has just been opened. -/
  | firstPair
  /-- A key behind a comma. -/
  | pair
  /-- A comma or the end of a table. -/
  | nextPair
  /-- Nothing: the value is complete. -/
  | nothing (v : Value)

/-- Puts a value that is complete into the innermost open container. -/
def complete (v : Value) : List Frame → Option (List Frame × Expect)
  | [] => some ([], .nothing v)
  | .array items :: frames => some (.array (v :: items) :: frames, .nextItem)
  | .table members path key :: frames =>
    (members.define path key v).map fun members ↦ (.table members path key :: frames, .nextPair)

/-- Ends the innermost open container. -/
def close : List Frame → Option (List Frame × Expect)
  | [] => none
  | .array items :: frames => complete (.array items.reverse) frames
  | .table members _ _ :: frames => complete (.table (finishedMembers members)) frames

/-- A state of reading a value: the open containers, what may come next, and the characters left. -/
abbrev Reading := List Frame × Expect × List Char

/-- Opens a container, unless too many are open. -/
def openFrame (frame : Frame) (frames : List Frame) (expect : Expect) (cs : List Char) :
    Option Reading :=
  if maxDepth ≤ frames.length + 1 then none else some (frame :: frames, expect, cs)

/-- Starts a value. -/
def startValue (frames : List Frame) (cs : List Char) : Option Reading :=
  match cs with
  | '[' :: rest => openFrame (.array []) frames .item rest
  | '{' :: rest => openFrame (.table [] [] "") frames .firstPair rest
  | _ => do
    let (v, rest) ← scalar? cs
    let (frames, expect) ← complete v frames
    some (frames, expect, rest)

/-- Ends a container in front of some characters. -/
def closeBefore (frames : List Frame) (cs : List Char) : Option Reading :=
  (close frames).map fun (frames, expect) ↦ (frames, expect, cs)

/-- Reads a key and the equals sign behind it. -/
def startPair (frames : List Frame) (cs : List Char) : Option Reading := do
  let (path, key, rest) ← readKey? cs
  let rest ← behind? '=' rest
  match frames with
  | .table members _ _ :: frames => some (.table members path key :: frames, .value, rest)
  | _ => none

/-- Reads on from a state. -/
def step (frames : List Frame) (expect : Expect) (cs : List Char) : Option Reading :=
  match expect with
  | .nothing _ => none
  | .value => startValue frames (skipBlanks cs)
  | .item => do
    match ← skipSpace? false cs with
    | ']' :: rest => closeBefore frames rest
    | rest => startValue frames rest
  | .nextItem => do
    match ← skipSpace? false cs with
    | ']' :: rest => closeBefore frames rest
    | ',' :: rest => some (frames, .item, rest)
    | _ => none
  | .firstPair =>
    match skipBlanks cs with
    | '}' :: rest => closeBefore frames rest
    | rest => startPair frames rest
  | .pair => startPair frames cs
  | .nextPair =>
    match skipBlanks cs with
    | '}' :: rest => closeBefore frames rest
    | ',' :: rest => some (frames, .pair, rest)
    | _ => none

/-- Reads from a state to the end of the value. -/
def readFrom (frames : List Frame) (expect : Expect) (cs : List Char) :
    Option (Value × List Char) :=
  match expect with
  | .nothing v => some (v, cs)
  | expect =>
    match step frames expect cs with
    | none => none
    | some (frames, expect, rest) =>
      if rest.length < cs.length then readFrom frames expect rest else none
termination_by cs.length

/-- A value at the start of some characters. -/
def readValue? (cs : List Char) : Option (Value × List Char) := readFrom [] .value cs

/-! ## Documents -/

/-- A document that is being read. -/
structure Draft where
  /-- The members so far. -/
  members : Members := []
  /-- The path of the last header. -/
  header : List String := []

/-- Characters behind a statement, if its line ends there but for blanks and a comment. -/
def lineEnd? (cs : List Char) : Option (List Char) :=
  match skipBlanks cs with
  | [] => some []
  | c :: rest => if c = '\n' ∨ c = '\r' ∨ c = '#' then some (c :: rest) else none

/-- Reads one statement: a header or a member. -/
def statement (d : Draft) (cs : List Char) : Option (Draft × List Char) :=
  match cs with
  | '[' :: '[' :: rest => do
    let (path, key, rest) ← readKey? rest
    let rest ← lineEnd? (← behind? ']' (← behind? ']' rest))
    let members ← d.members.openRow path key
    some (⟨members, path ++ [key]⟩, rest)
  | '[' :: rest => do
    let (path, key, rest) ← readKey? rest
    let rest ← lineEnd? (← behind? ']' rest)
    let members ← d.members.openTable path key
    some (⟨members, path ++ [key]⟩, rest)
  | _ => do
    let (path, key, rest) ← readKey? cs
    let (v, rest) ← readValue? (← behind? '=' rest)
    let rest ← lineEnd? rest
    let members ← d.members.defineBelow d.header path key v
    some (⟨members, d.header⟩, rest)

/-- Reads statements up to the end of the text. -/
def statements (d : Draft) (cs : List Char) : Option Draft :=
  match skipSpace? false cs with
  | none => none
  | some [] => some d
  | some rest =>
    match statement d rest with
    | none => none
    | some (d, rest) => if rest.length < cs.length then statements d rest else none
termination_by cs.length

/-- The members of the document that a text spells; none where it is malformed. -/
def parse? (cs : List Char) : Option (List (String × Value)) :=
  (statements {} cs).map fun d ↦ finishedMembers d.members

end JavaConstants.Toml
