import JavaConstants.Generate.DateTime

/-!
# Dates and times of TOML

A date, a time of day, or both with or without an offset, as a document spells them and in one
normal form.
-/

namespace JavaConstants.Toml

/-- A day. -/
structure Date where
  /-- The year. -/
  year : Nat
  /-- The month, from 1. -/
  month : Nat
  /-- The day of the month, from 1. -/
  day : Nat
  deriving DecidableEq, Repr

/-- A time of day. -/
structure Time where
  /-- The hour. -/
  hour : Nat
  /-- The minute. -/
  minute : Nat
  /-- The second; there are leap seconds. -/
  second : Nat
  /-- The nanosecond. -/
  nanosecond : Nat
  deriving DecidableEq, Repr

/-- The distance of a local time from universal time. -/
inductive Offset where
  | universal
  | minutes (ahead : Int)
  deriving DecidableEq, Repr

/-- What a document says about a moment. -/
structure Moment where
  /-- The day. -/
  date : Option Date
  /-- The time of day. -/
  time : Option Time
  /-- The offset. -/
  offset : Option Offset
  deriving DecidableEq, Repr

/-! ## Reading -/

/-- The characters behind the first one, if that is `c`. -/
def behind? (c : Char) : List Char → Option (List Char)
  | d :: cs => if d = c then some cs else none
  | [] => none

/-- The number that the first `n` characters spell, and the characters behind them. -/
def digits? (n : Nat) (cs : List Char) : Option (Nat × List Char) :=
  if cs.length < n then none else (digitsValue? (cs.take n)).map (·, cs.drop n)

/-- A date at the start of some characters. -/
def Date.read? (cs : List Char) : Option (Date × List Char) := do
  let (year, cs) ← digits? 4 cs
  let cs ← behind? '-' cs
  let (month, cs) ← digits? 2 cs
  let cs ← behind? '-' cs
  let (day, cs) ← digits? 2 cs
  if 1 ≤ month ∧ month ≤ 12 ∧ 1 ≤ day ∧ day ≤ DateTime.daysInMonth year month then
    some (⟨year, month, day⟩, cs)
  else none

/-- The nanoseconds that the digits of a fraction of a second stand for; digits behind the ninth
do not count. -/
def nanoseconds (digits : List Char) : Nat :=
  (digitsValue? ((digits ++ List.replicate 9 '0').take 9)).getD 0

/-- A fraction of a second at the start of some characters, as nanoseconds. -/
def readFraction (cs : List Char) : Nat × List Char :=
  match cs with
  | '.' :: ds =>
    let digits := ds.takeWhile (·.isDigit)
    if digits.isEmpty then (0, cs) else (nanoseconds digits, ds.dropWhile (·.isDigit))
  | _ => (0, cs)

/-- An hour and a minute at the start of some characters. -/
def clock? (cs : List Char) : Option (Nat × Nat × List Char) := do
  let (hour, cs) ← digits? 2 cs
  let cs ← behind? ':' cs
  let (minute, cs) ← digits? 2 cs
  if hour < 24 ∧ minute < 60 then some (hour, minute, cs) else none

/-- A time of day at the start of some characters. -/
def Time.read? (cs : List Char) : Option (Time × List Char) := do
  let (hour, minute, cs) ← clock? cs
  let cs ← behind? ':' cs
  let (second, cs) ← digits? 2 cs
  if 60 < second then none
  else
    let (nanosecond, cs) := readFraction cs
    some (⟨hour, minute, second, nanosecond⟩, cs)

/-- An offset at the start of some characters, if there is one. -/
def Offset.read (cs : List Char) : Option Offset × List Char :=
  match cs with
  | [] => (none, [])
  | c :: rest =>
    if c = 'Z' ∨ c = 'z' then (some .universal, rest)
    else if c = '+' ∨ c = '-' then
      match clock? rest with
      | some (hour, minute, rest) =>
        let ahead : Int := hour * 60 + minute
        (some (.minutes (if c = '-' then -ahead else ahead)), rest)
      | none => (none, cs)
    else (none, cs)

/-- A moment at the start of some characters. -/
def Moment.read? (cs : List Char) : Option (Moment × List Char) :=
  match Date.read? cs with
  | none => (Time.read? cs).map fun (time, rest) ↦ (⟨none, some time, none⟩, rest)
  | some (date, []) => some (⟨some date, none, none⟩, [])
  | some (date, c :: rest) =>
    match if c = 'T' ∨ c = 't' ∨ c = ' ' then Time.read? rest else none with
    | some (time, rest) =>
      let (offset, rest) := Offset.read rest
      some (⟨some date, some time, offset⟩, rest)
    | none => some (⟨some date, none, none⟩, c :: rest)

/-! ## Writing -/

/-- The normal form of a day. -/
def Date.text (d : Date) : String :=
  DateTime.padded 4 d.year ++ "-" ++ DateTime.padded 2 d.month ++ "-" ++ DateTime.padded 2 d.day

/-- The normal form of a time: a fraction has no zeros at its end. -/
def Time.text (t : Time) : String :=
  DateTime.padded 2 t.hour ++ ":" ++ DateTime.padded 2 t.minute ++ ":" ++
    DateTime.padded 2 t.second ++
    if t.nanosecond = 0 then ""
    else "." ++ String.ofList
      ((DateTime.padded 9 t.nanosecond).toList.reverse.dropWhile (· = '0')).reverse

/-- The normal form of an offset. -/
def Offset.text : Offset → String
  | universal => "Z"
  | minutes ahead =>
    (if ahead < 0 then "-" else "+") ++ DateTime.padded 2 (ahead.natAbs / 60) ++ ":" ++
      DateTime.padded 2 (ahead.natAbs % 60)

/-- The normal form of a moment. -/
def Moment.text (m : Moment) : String :=
  m.date.elim "" Date.text ++ (if m.date.isSome ∧ m.time.isSome then "T" else "") ++
    m.time.elim "" Time.text ++ m.offset.elim "" Offset.text

end JavaConstants.Toml
