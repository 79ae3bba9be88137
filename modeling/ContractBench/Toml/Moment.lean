import ContractBench.Number.Numeral
import ContractBench.Value

/-! # Days and times

A TOML document may hold days, times of day, and both together with an offset from world time.
`Moment.read?` reads what has the form of one, and `Moment.isReal` says whether there is such a day.
-/

namespace ContractBench.Toml

/-- A day of the calendar. -/
structure Day where
  /-- The year. -/
  year : Nat
  /-- The month, from one. -/
  month : Nat
  /-- The day of the month, from one. -/
  day : Nat
  deriving Repr, DecidableEq

/-- A time of day. -/
structure Time where
  /-- The hour. -/
  hour : Nat
  /-- The minute. -/
  minute : Nat
  /-- The second. -/
  second : Nat
  /-- The millionths of a second. -/
  microsecond : Nat
  deriving Repr, DecidableEq

/-- A day, a time, or both. -/
inductive Moment where
  /-- A day. -/
  | day (date : Day)
  /-- A time of day. -/
  | time (clock : Time)
  /-- A time of a day, with the minutes by which it is ahead of world time, if they are known. -/
  | both (date : Day) (clock : Time) (ahead : Option Int)
  deriving Repr, DecidableEq

/-- Whether a year has a leap day. -/
def isLeap (year : Nat) : Bool := year % 4 = 0 && (year % 100 ≠ 0 || year % 400 = 0)

/-- The number of days in a month. -/
def daysIn (year month : Nat) : Nat :=
  if month = 2 then if isLeap year then 29 else 28
  else if month = 4 ∨ month = 6 ∨ month = 9 ∨ month = 11 then 30
  else 31

/-- Whether there is such a day. -/
def Day.isReal (day : Day) : Bool := 0 < day.year && day.day ≤ daysIn day.year day.month

/-- The parts of a day as fields. -/
def Day.fields (day : Day) : List (FieldName × Value) :=
  [(.own "year", .int day.year), (.own "month", .int day.month), (.own "day", .int day.day)]

/-- The parts of a time as fields. -/
def Time.fields (time : Time) : List (FieldName × Value) :=
  [(.own "hour", .int time.hour), (.own "minute", .int time.minute),
   (.own "second", .int time.second), (.own "microsecond", .int time.microsecond)]

/-- Read a number of some digits that lies between two others. -/
def readWithin? (width least most : Nat) (cs : List Char) : Option (Nat × List Char) :=
  let digits := cs.take width
  let n := Numeral.ofDigits digits
  if digits.length = width && digits.all Char.isDigit && least ≤ n && n ≤ most then
    some (n, cs.drop width)
  else none

/-- Read one of some characters. -/
def readMark? (marks : List Char) : List Char → Option (Char × List Char)
  | c :: rest => if marks.contains c then some (c, rest) else none
  | [] => none

/-- Read the fraction of a second in millionths, if it is there. Further digits say nothing. -/
def readFraction (cs : List Char) : Nat × List Char :=
  match readMark? ['.'] cs with
  | some (_, rest) =>
    let digits := rest.takeWhile Char.isDigit
    if digits.isEmpty then (0, cs)
    else (Numeral.ofDigits ((digits ++ List.replicate 6 '0').take 6), rest.drop digits.length)
  | none => (0, cs)

/-- Read the seconds of a time with their fraction, if they are there. -/
def readSeconds (cs : List Char) : (Nat × Nat) × List Char :=
  match (readMark? [':'] cs).bind fun (_, rest) => readWithin? 2 0 59 rest with
  | some (second, rest) =>
    let (microsecond, rest) := readFraction rest
    ((second, microsecond), rest)
  | none => ((0, 0), cs)

/-- Read an hour and a minute. -/
def readHourMinute? (cs : List Char) : Option ((Nat × Nat) × List Char) := do
  let (hour, cs) ← readWithin? 2 0 23 cs
  let (_, cs) ← readMark? [':'] cs
  let (minute, cs) ← readWithin? 2 0 59 cs
  return ((hour, minute), cs)

/-- Read a time of day. -/
def readTime? (cs : List Char) : Option (Time × List Char) := do
  let ((hour, minute), cs) ← readHourMinute? cs
  let ((second, microsecond), cs) := readSeconds cs
  return (⟨hour, minute, second, microsecond⟩, cs)

/-- Read the offset from world time in minutes, if it is there. -/
def readAhead (cs : List Char) : Option Int × List Char :=
  match readMark? ['Z', 'z', '+', '-'] cs with
  | some (mark, rest) =>
    if mark = 'Z' ∨ mark = 'z' then (some 0, rest)
    else
      match readHourMinute? rest with
      | some ((hour, minute), rest) =>
        (some (Numeral.signed (mark = '-') (60 * hour + minute)), rest)
      | none => (none, cs)
  | none => (none, cs)

/-- Read a day. -/
def readDay? (cs : List Char) : Option (Day × List Char) := do
  let (year, cs) ← readWithin? 4 0 9999 cs
  let (_, cs) ← readMark? ['-'] cs
  let (month, cs) ← readWithin? 2 1 12 cs
  let (_, cs) ← readMark? ['-'] cs
  let (day, cs) ← readWithin? 2 1 31 cs
  return (⟨year, month, day⟩, cs)

namespace Moment

/-- Read a day, a time, or both. -/
def read? (cs : List Char) : Option (Moment × List Char) :=
  match readDay? cs with
  | some (date, rest) =>
    match (readMark? ['T', 't', ' '] rest).bind fun (_, rest) => readTime? rest with
    | some (clock, rest) =>
      let (ahead, rest) := readAhead rest
      some (.both date clock ahead, rest)
    | none => some (.day date, rest)
  | none => (readTime? cs).map fun (clock, rest) => (.time clock, rest)

/-- Whether the day of a moment is one, if it has any. -/
def isReal : Moment → Bool
  | .day date => date.isReal
  | .time _ => true
  | .both date _ _ => date.isReal

/-- The record of a moment. -/
def toValue : Moment → Value
  | .day date => .record "datetime.date" date.fields []
  | .time clock => .record "datetime.time" clock.fields []
  | .both date clock ahead =>
    .record "datetime.datetime"
      (date.fields ++ clock.fields ++ [(.own "offset", Value.ofInt? ahead)]) []

end Moment

end ContractBench.Toml
