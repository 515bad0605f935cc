import JavaConstants.Json.Lexer
import JavaConstants.Json.Value

/-!
# Reading JSON

Builds a value from tokens. The parser keeps the containers that are open, innermost first, and what
may come next; every token moves it one step. A hundred and twenty-eight open containers are too
many.
-/

namespace JavaConstants.Json

/-- An open container with what it holds so far, last first; an object also has the key whose value
is being read. -/
inductive Frame where
  | array (items : List Value)
  | object (members : List (String × Value)) (key : String)

/-- What may come next. -/
inductive Expect where
  /-- A value. -/
  | value
  /-- A value or the end of an array that has just been opened. -/
  | firstItem
  /-- A comma or the end of an array. -/
  | nextItem
  /-- A key or the end of an object that has just been opened. -/
  | firstKey
  /-- A key behind a comma. -/
  | key
  /-- The colon behind a key. -/
  | colon
  /-- A comma or the end of an object. -/
  | nextMember
  /-- Nothing: the document is complete. -/
  | nothing (document : Value)

/-- The number of open containers that is too many. -/
def maxDepth : Nat := 128

/-- The end of the text where something else was to come. -/
def Expect.atEnd : Expect → Except ErrorCause Value
  | value | key => .error .endInValue
  | firstItem | nextItem => .error .endInList
  | firstKey | colon | nextMember => .error .endInObject
  | nothing document => .ok document

/-- Puts a value that is complete into the innermost open container. -/
def complete (v : Value) : List Frame → List Frame × Expect
  | [] => ([], .nothing v)
  | .array items :: frames => (.array (v :: items) :: frames, .nextItem)
  | .object members key :: frames => (.object ((key, v) :: members) key :: frames, .nextMember)

/-- The value of a container that ends. -/
def Frame.value : Frame → Value
  | array items => .array items.reverse
  | object members _ => .object (members.reverse.foldl (fun ms (k, v) ↦ insertMember k v ms) [])

/-- Ends the innermost open container. -/
def close : List Frame → List Frame × Expect
  | [] => ([], .nothing .null)
  | frame :: frames => complete frame.value frames

/-- Starts a value. -/
def startValue (t : Token) (frames : List Frame) : Except Fault (List Frame × Expect) :=
  if t.first = byteOf '[' then
    if maxDepth ≤ frames.length + 1 then .error (t.fault .tooDeep)
    else .ok (.array [] :: frames, .firstItem)
  else if t.first = byteOf '{' then
    if maxDepth ≤ frames.length + 1 then .error (t.fault .tooDeep)
    else .ok (.object [] "" :: frames, .firstKey)
  else match t.content with
    | .error e => .error e
    | .ok .mark => .error (t.fault .expectedValue)
    | .ok .null => .ok (complete .null frames)
    | .ok (.bool b) => .ok (complete (.bool b) frames)
    | .ok .number => .ok (complete (.number 0) frames)
    | .ok (.string s) => .ok (complete (.string s) frames)

/-- Reads a key. -/
def startKey (t : Token) (frames : List Frame) : Except Fault (List Frame × Expect) :=
  if t.first = byteOf '"' then
    match t.content, frames with
    | .error e, _ => .error e
    | .ok (.string s), .object members _ :: frames => .ok (.object members s :: frames, .colon)
    | .ok _, _ => .error (t.fault .keyNotString)
  else .error (t.fault .keyNotString)

/-- Reads one token. -/
def step (t : Token) (frames : List Frame) : Expect → Except Fault (List Frame × Expect)
  | .value => startValue t frames
  | .firstItem => if t.first = byteOf ']' then .ok (close frames) else startValue t frames
  | .nextItem =>
    if t.first = byteOf ']' then .ok (close frames)
    else if t.first = byteOf ',' then .ok (frames, .value)
    else .error (t.fault .expectedListCommaOrEnd)
  | .firstKey => if t.first = byteOf '}' then .ok (close frames) else startKey t frames
  | .key => startKey t frames
  | .colon =>
    if t.first = byteOf ':' then .ok (frames, .value) else .error (t.fault .expectedColon)
  | .nextMember =>
    if t.first = byteOf '}' then .ok (close frames)
    else if t.first = byteOf ',' then .ok (frames, .key)
    else .error (t.fault .expectedObjectCommaOrEnd)
  | .nothing _ => .error (t.fault .trailingCharacters)

/-- Whether a token is a bracket that ends a container right behind a comma. -/
def isTrailingComma (expect : Expect) (frames : List Frame) (t next : Token) : Bool :=
  t.first == byteOf ',' && match expect, frames with
    | .nextItem, _ => next.first == byteOf ']'
    | .nextMember, _ => next.first == byteOf '}'
    | _, _ => false

/-- Reads tokens from a state on. -/
def run (frames : List Frame) (expect : Expect) : List Token → Except Fault Value
  | [] => expect.atEnd.mapError (⟨·, 0⟩)
  | [t] => do
    let (_, expect) ← step t frames expect
    expect.atEnd.mapError (⟨·, 0⟩)
  | t :: next :: rest => do
    let (frames', expect') ← step t frames expect
    if isTrailingComma expect frames t next then .error (next.fault .trailingComma)
    else run frames' expect' (next :: rest)

/-- The value that the bytes of a JSON text stand for. -/
def parse (bytes : List UInt8) : Except ParseError Value :=
  (run [] .value (tokenize bytes)).mapError (·.locate bytes)

end JavaConstants.Json
