import JavaConstants.Decimal.Basic
import JavaConstants.Log.Event
import JavaConstants.Text.Utf8
import JavaConstants.Unicode.Alphanumeric
import JavaConstants.Unicode.Blank

/-!
# Log filters

Which events a log shows. A filter is a list of directives such as `warn` or `part=debug`; of those
that an event falls under, the most specific one decides. A directive may also ask for spans and
for named values; no event of this program lies in a span, so such a directive shows nothing.
-/

namespace JavaConstants

/-- The least important level that is shown; none where nothing is. -/
abbrev LogThreshold := Option LogLevel

namespace LogThreshold

/-- Whether a threshold admits a level. -/
def admits (t : LogThreshold) (level : LogLevel) : Bool := t.any (·.rank ≤ level.rank)

/-- The thresholds with their names. -/
def names : List (String × LogThreshold) := [
  ("", some .error), ("error", some .error), ("warn", some .warn), ("info", some .info),
  ("debug", some .debug), ("trace", some .trace), ("off", none)]

/-- The thresholds by number, from 0 on. -/
def numbered : List LogThreshold :=
  [none, some .error, some .warn, some .info, some .debug, some .trace]

/-- The threshold that a number names. -/
def ofNumber? (cs : List Char) : Option LogThreshold :=
  match cs with
  | '+' :: ds => (digitsValue? ds).bind (numbered[·]?)
  | ds => (digitsValue? ds).bind (numbered[·]?)

/-- The threshold that a text names. -/
def parse? (s : String) : Option LogThreshold :=
  let word := String.ofList (s.toList.map Char.toLower)
  ofNumber? s.toList <|> (names.find? (·.1 = word)).map (·.2)

end LogThreshold

/-- What is wrong with a directive. -/
inductive DirectiveError where
  | malformed
  | levelUnknown
  deriving DecidableEq, Repr

/-- The report of an error in a directive. -/
def DirectiveError.message : DirectiveError → String
  | malformed => "invalid filter directive"
  | levelUnknown =>
    "error parsing level filter: expected one of \"off\", \"error\", \"warn\", \"info\", " ++
      "\"debug\", \"trace\", or a number 0-5"

/-- A directive of a filter. -/
structure LogDirective where
  /-- What the part of the program begins with. -/
  target : Option String := none
  /-- The span an event must lie in. -/
  span : Option String := none
  /-- The values an event must have, by name, each with whether it must match a pattern. -/
  fields : List (String × Bool) := []
  /-- The threshold. -/
  threshold : LogThreshold := some .trace
  deriving DecidableEq, Repr

namespace LogDirective

/-! ## Reading directives -/

/-- What is being read; numbers are the offsets at which it starts. -/
inductive Reading where
  | start
  | levelOrTarget (offset : Nat)
  | span (offset : Nat)
  | field (offset : Nat)
  | endOfFields
  | endOfSpan
  | level (offset : Nat)
  | complete
  deriving DecidableEq, Repr

/-- The text between two offsets, in bytes. -/
def slice (bytes : List UInt8) (start stop : Nat) : String :=
  String.ofList (utf8Lossy 0 ((bytes.take stop).drop start))

/-- A directive with a threshold read; an empty text stands for the lowest one. -/
def withThreshold (d : LogDirective) (s : String) : Except DirectiveError LogDirective :=
  if s = "" then .ok { d with threshold := some .trace }
  else match LogThreshold.parse? s with
    | some t => .ok { d with threshold := t }
    | none => .error .levelUnknown

/-- A directive with a text that is a threshold or else a target. -/
def withLevelOrTarget (d : LogDirective) (s : String) : LogDirective :=
  if s = "" then { d with threshold := some .trace, target := none }
  else match LogThreshold.parse? s with
    | some t => { d with threshold := t, target := none }
    | none => { d with threshold := some .trace, target := some s }

/-- A directive with a required value added. -/
def withField (d : LogDirective) (s : String) : Except DirectiveError LogDirective :=
  if s = "" then .error .malformed
  else
    let cs := s.toList
    .ok { d with
      fields := d.fields ++ [(String.ofList (cs.takeWhile (· ≠ '=')), cs.contains '=')] }

/-- Reads one character, which stands at offset `i`. Slices are taken from `bytes`. -/
def step (bytes : List UInt8) (i : Nat) (c : Char) (state : Reading) (d : LogDirective) :
    Except DirectiveError (Reading × LogDirective) :=
  match state with
  | .start =>
    if c = '[' then .ok (.span (i + 1), d)
    else if Unicode.isAlphanumeric c || c == '-' || c == ':' || c == '_' then
      .ok (.levelOrTarget i, d)
    else .error .malformed
  | .levelOrTarget start =>
    if c = '=' then .ok (.level (i + 1), { d with target := some (slice bytes start i) })
    else if c = '[' then .ok (.span (i + 1), { d with target := some (slice bytes start i) })
    else if c = ',' then .ok (.complete, d.withLevelOrTarget (slice bytes start bytes.length))
    else .ok (state, d)
  | .span start =>
    if c = ']' then .ok (.endOfSpan, { d with span := some (slice bytes start i) })
    else if c = '{' then
      let name := slice bytes start i
      .ok (.field (i + 1), { d with span := if name = "" then none else some name })
    else .ok (state, d)
  | .field start =>
    if c = '}' then (d.withField (slice bytes start i)).map (.endOfFields, ·)
    else if c = ',' then (d.withField (slice bytes start i)).map (.field (i + 1), ·)
    else .ok (state, d)
  | .endOfFields => if c = ']' then .ok (.endOfSpan, d) else .error .malformed
  | .endOfSpan => if c = '=' then .ok (.level (i + 1), d) else .error .malformed
  | .level start =>
    if c = ',' then (d.withThreshold (slice bytes start i)).map (.complete, ·)
    else .ok (state, d)
  | .complete => .error .malformed

/-- The directive at the end of its text. -/
def finish (bytes : List UInt8) (state : Reading) (d : LogDirective) :
    Except DirectiveError LogDirective :=
  match state with
  | .levelOrTarget start => .ok (d.withLevelOrTarget (slice bytes start bytes.length))
  | .level start => d.withThreshold (slice bytes start bytes.length)
  | .endOfSpan | .complete => .ok d
  | _ => .error .malformed

/-- Reads characters from offset `i` on. -/
def readFrom (bytes : List UInt8) (i : Nat) (state : Reading) (d : LogDirective) :
    List Char → Except DirectiveError LogDirective
  | [] => finish bytes state d
  | c :: cs => do
    let (state, d) ← step bytes i c state d
    readFrom bytes (i + c.utf8Size) state d cs

/-- The directive that a text spells. White space around it does not count for its form, but the
offsets of its parts, which are those without it, are applied to the whole text. -/
def parse (s : String) : Except DirectiveError LogDirective :=
  readFrom (utf8Bytes s) 0 .start {} (Unicode.trimWhere Unicode.isBlank s.toList)

/-! ## Which directive decides -/

/-- Whether a directive can show events outside of spans. -/
def isStatic (d : LogDirective) : Bool := d.span.isNone && d.fields.all (!·.2)

/-- Whether an event falls under a directive. -/
def covers (d : LogDirective) (e : Event) : Bool :=
  (match d.target with
    | some target => target.toList.isPrefixOf e.target.toList
    | none => true) &&
  d.fields.all fun (name, _) ↦ name == "message" || e.values.any (·.1 == name)

/-- The order of two lists of texts, member by member. -/
def compareNames : List String → List String → Ordering
  | [], [] => .eq
  | [], _ :: _ => .lt
  | _ :: _, [] => .gt
  | a :: as, b :: bs => (compare a b).then (compareNames as bs)

/-- Compares how specific two directives are: by the length of the target, then by the number of
values; the rest only makes the order total. -/
def compareTo (a b : LogDirective) : Ordering :=
  let size (d : LogDirective) : Nat := d.target.elim 0 (·.utf8ByteSize + 1)
  (compare (size a) (size b)).then <| (compare a.fields.length b.fields.length).then <|
    (compareNames a.target.toList b.target.toList).then
      (compareNames (a.fields.map (·.1)) (b.fields.map (·.1)))

end LogDirective

/-- A filter: its directives, the most specific one first. -/
structure LogFilter where
  /-- The directives. -/
  directives : List LogDirective := []
  deriving DecidableEq, Repr

namespace LogFilter

/-- Directives with one put at its place; it replaces an equally specific one. -/
def insert (d : LogDirective) : List LogDirective → List LogDirective
  | [] => [d]
  | e :: es =>
    match d.compareTo e with
    | .eq => d :: es
    | .gt => d :: e :: es
    | .lt => e :: insert d es

/-- A filter with a directive added. -/
def add (f : LogFilter) (d : LogDirective) : LogFilter :=
  if d.isStatic then ⟨insert d f.directives⟩ else f

/-- The filter of some directives; without any, errors are shown. -/
def ofDirectives (ds : List LogDirective) : LogFilter :=
  if ds.isEmpty then ⟨[{ threshold := some .error }]⟩ else ds.foldl add {}

/-- The filter that a text spells: directives with commas between them. -/
def parse (s : String) : Except DirectiveError LogFilter := do
  let pieces := (s.toList.splitOn ',').filter (!·.isEmpty)
  let ds ← pieces.mapM fun piece ↦ LogDirective.parse (String.ofList piece)
  .ok (ofDirectives ds)

/-- Whether a filter shows an event. -/
def admits (f : LogFilter) (e : Event) : Bool :=
  (f.directives.find? (·.covers e)).any (·.threshold.admits e.level)

end LogFilter

end JavaConstants
