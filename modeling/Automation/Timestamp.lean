import Automation.Decoding.Decoder

/-
  Points in time, by the calendar and the clock of universal time.

  A timestamp is written as a date, a `T`, a time of day and an offset.
  Reading is lenient: parts may be set apart by white space, numbers may
  lack leading zeros, and the offset may be any.  The second before a
  leap second counts the leap second among its nanoseconds.

  Key definitions include:
    * `Moment`, the fields of a date and a time of day
    * `Timestamp`, a moment that the calendar has
    * `Timestamp.ofText`, and `Timestamp.text`, its written form
-/

namespace Automation

------------------------------------------------------------
-- The Calendar
------------------------------------------------------------

structure Moment where
  year : Int
  month : Nat
  day : Nat
  hour : Nat
  minute : Nat
  second : Nat
  nanos : Nat
deriving DecidableEq, Inhabited

namespace Moment

def isLeap
    (year : Int) :
    Bool :=
  year % 4 = 0 ∧ (year % 100 ≠ 0 ∨ year % 400 = 0)

def daysInMonth
    (year : Int)
    (month : Nat) :
    Nat :=
  if month = 2 then (if isLeap year then 29 else 28)
  else if month = 4 ∨ month = 6 ∨ month = 9 ∨ month = 11 then 30
  else 31

def nanosPerSecond : Nat := 1000000000

/- The moments of the years that timestamps can have. -/
def isValid
    (m : Moment) :
    Bool :=
  -262143 ≤ m.year ∧ m.year ≤ 262142 ∧ 1 ≤ m.month ∧ m.month ≤ 12 ∧
    1 ≤ m.day ∧ m.day ≤ daysInMonth m.year m.month ∧ m.hour < 24 ∧
    m.minute < 60 ∧ m.second < 60 ∧
    m.nanos < (if m.second = 59 then 2 else 1) * nanosPerSecond

/- The day before, at the same time of day. -/
def previousDay
    (m : Moment) :
    Moment :=
  if 1 < m.day then { m with day := m.day - 1 }
  else if 1 < m.month then
    { m with
      month := m.month - 1
      day := daysInMonth m.year (m.month - 1) }
  else { m with year := m.year - 1, month := 12, day := 31 }

/- The day after, at the same time of day. -/
def nextDay
    (m : Moment) :
    Moment :=
  if m.day < daysInMonth m.year m.month then { m with day := m.day + 1 }
  else if m.month < 12 then { m with month := m.month + 1, day := 1 }
  else { m with year := m.year + 1, month := 1, day := 1 }

/-
  The moment in universal time, from the moment on a clock that is some
  minutes ahead of it, less than a day.
-/
def universal
    (m : Moment)
    (ahead : Int) :
    Moment :=
  let minutes := (m.hour * 60 + m.minute : Int) - ahead
  let day :=
    if minutes < 0 then m.previousDay
    else if 1440 ≤ minutes then m.nextDay
    else m
  let rest := (minutes % 1440).toNat
  { day with hour := rest / 60, minute := rest % 60 }

/-
  The moment some seconds after the start of 1970.  Years are counted from
  March on, so that a leap day is the last day of its year.
-/
def ofSeconds
    (seconds : Int)
    (nanos : Nat) :
    Moment :=
  let days := seconds / 86400 + 719468
  let inDay := (seconds % 86400).toNat
  let inEra := (days % 146097).toNat
  let yearInEra :=
    (inEra - inEra / 1460 + inEra / 36524 - inEra / 146096) / 365
  let inYear := inEra - (365 * yearInEra + yearInEra / 4 - yearInEra / 100)
  let fromMarch := (5 * inYear + 2) / 153
  let month := if fromMarch < 10 then fromMarch + 3 else fromMarch - 9
  let year : Int := days / 146097 * 400 + yearInEra
  { year := if month ≤ 2 then year + 1 else year
    month := month
    day := inYear - (153 * fromMarch + 2) / 5 + 1
    hour := inDay / 3600
    minute := inDay / 60 % 60
    second := inDay % 60
    nanos := nanos }

end Moment

/- A moment that the calendar has. -/
abbrev Timestamp := { m : Moment // m.isValid = true }

namespace Timestamp

/- The start of the year 2000. -/
def millennium : Timestamp :=
  ⟨⟨2000, 1, 1, 0, 0, 0, 0⟩, by decide⟩

instance : Inhabited Timestamp := ⟨millennium⟩

/- The timestamp some seconds after the start of 1970, if there is one. -/
def ofSeconds?
    (seconds : Int)
    (nanos : Nat) :
    Option Timestamp :=
  let moment := Moment.ofSeconds seconds nanos
  if hValid : moment.isValid = true then some ⟨moment, hValid⟩ else none

------------------------------------------------------------
-- Writing
------------------------------------------------------------

/- A number with leading zeros, up to a width. -/
def padded
    (width n : Nat) :
    List Char :=
  let digits := Nat.toDigits 10 n
  List.replicate (width - digits.length) '0' ++ digits

/- A year of four digits; other years have a sign. -/
def yearDigits
    (year : Int) :
    List Char :=
  if 0 ≤ year ∧ year ≤ 9999 then padded 4 year.toNat
  else (if year < 0 then '-' else '+') :: padded 4 year.natAbs

/-
  The fraction of a second, in as few groups of three digits as it takes.
-/
def fraction
    (nanos : Nat) :
    List Char :=
  if nanos = 0 then []
  else if nanos % 1000000 = 0 then '.' :: padded 3 (nanos / 1000000)
  else if nanos % 1000 = 0 then '.' :: padded 6 (nanos / 1000)
  else '.' :: padded 9 nanos

/- The written form of a timestamp, with a sign for universal time. -/
def textWith
    (zone : String)
    (t : Timestamp) :
    String :=
  let m := t.val
  let leap := Moment.nanosPerSecond ≤ m.nanos
  let second := if leap then m.second + 1 else m.second
  let nanos := if leap then m.nanos - Moment.nanosPerSecond else m.nanos
  String.ofList
    (yearDigits m.year ++ '-' :: padded 2 m.month ++ '-' ::
      padded 2 m.day ++ 'T' :: padded 2 m.hour ++ ':' ::
      padded 2 m.minute ++ ':' :: padded 2 second ++
      fraction nanos ++ zone.toList)

def text
    (t : Timestamp) :
    String :=
  t.textWith "Z"

/- The form that shows the offset as a number. -/
def textWithOffset
    (t : Timestamp) :
    String :=
  t.textWith "+00:00"

end Timestamp

------------------------------------------------------------
-- Reading
------------------------------------------------------------

inductive TimeFault where
  | early
  | invalid
  | outOfRange
  | trailing
deriving DecidableEq, Inhabited

namespace TimeFault

def message : TimeFault → String
  | .early => "premature end of input"
  | .invalid => "input contains invalid characters"
  | .outOfRange => "input is out of range"
  | .trailing => "trailing input"

end TimeFault

namespace Timestamp

open Numeral (isDigit digitValue)

def skipBlank
    (cs : List Char) :
    List Char :=
  cs.dropWhile Text.isBlank

/- A number of one digit or more, and no more than a given count. -/
def number
    (most : Nat)
    (cs : List Char) :
    Except TimeFault (Nat × List Char) :=
  let digits := (cs.take most).takeWhile isDigit
  match digits, cs with
  | [], [] => .error .early
  | [], _ => .error .invalid
  | digits, cs => .ok (Numeral.value digits, cs.drop digits.length)

/- A number within bounds, after white space. -/
def field
    (low high : Nat)
    (cs : List Char) :
    Except TimeFault (Nat × List Char) :=
  match number 2 (skipBlank cs) with
  | .error fault => .error fault
  | .ok (n, rest) =>
      if low ≤ n ∧ n ≤ high then .ok (n, rest) else .error .outOfRange

/- A mark, after white space. -/
def mark
    (c : Char)
    (cs : List Char) :
    Except TimeFault (List Char) :=
  match skipBlank cs with
  | [] => .error .early
  | d :: rest => if d = c then .ok rest else .error .invalid

/- A year: four digits, or any number of digits after a sign. -/
def yearField
    (cs : List Char) :
    Except TimeFault (Int × List Char) :=
  let bounded (year : Int) (rest : List Char) :=
    if year < -2147483648 ∨ 2147483648 ≤ year then
      .error TimeFault.outOfRange
    else .ok (year, rest)
  match skipBlank cs with
  | '-' :: rest =>
      match number rest.length rest with
      | .ok (n, rest) => bounded (-(n : Int)) rest
      | .error fault => .error fault
  | '+' :: rest =>
      match number rest.length rest with
      | .ok (n, rest) => bounded n rest
      | .error fault => .error fault
  | rest =>
      match number 4 rest with
      | .ok (n, rest) => bounded n rest
      | .error fault => .error fault

/- The nanoseconds of a fraction; digits after the ninth do not count. -/
def nanosField
    (cs : List Char) :
    Except TimeFault (Nat × List Char) :=
  match cs with
  | '.' :: rest =>
      match number 9 rest with
      | .ok (n, after) =>
          let count := rest.length - after.length
          .ok (n * Nat.pow 10 (9 - count), after.dropWhile isDigit)
      | .error fault => .error fault
  | rest => .ok (0, rest)

/- Two digits of an offset, where there are two characters. -/
def offsetDigits : List Char → Except TimeFault (Char × Char × List Char)
  | [] => .error .early
  | [c] => .error (if c.toNat < 0x80 then .early else .invalid)
  | a :: b :: rest => .ok (a, b, rest)

/- The hours and minutes of an offset after its sign. -/
def offsetSize
    (cs : List Char) :
    Except TimeFault (Nat × List Char) :=
  match offsetDigits cs with
  | .error fault => .error fault
  | .ok (a, b, rest) =>
      if isDigit a && isDigit b then
        let hours := digitValue a * 10 + digitValue b
        let rest := rest.dropWhile fun c => c = ':' || Text.isBlank c
        match offsetDigits rest with
        | .error _ => .error .early
        | .ok (a, b, rest) =>
            if isDigit a && isDigit b then
              if digitValue a < 6 then
                .ok (hours * 60 + digitValue a * 10 + digitValue b, rest)
              else .error .outOfRange
            else .error .invalid
      else .error .invalid

/- An offset from universal time in minutes. -/
def offset
    (cs : List Char) :
    Except TimeFault (Int × List Char) :=
  let cs := skipBlank cs
  if ((cs.take 3).map Char.toLower) = ['u', 't', 'c'] then
    .ok (0, cs.drop 3)
  else
    match cs with
    | [] => .error .early
    | c :: rest =>
        if c = 'Z' ∨ c = 'z' then .ok (0, rest)
        else if c = '+' then
          (offsetSize rest).map fun (n, rest) => ((n : Int), rest)
        else if c = '-' ∨ c.toNat = 0x2212 then
          (offsetSize rest).map fun (n, rest) => (-(n : Int), rest)
        else .error .invalid

/-
  A date and a time of day, with the offset of the clock that shows them.
-/
def moment
    (cs : List Char) :
    Except TimeFault (Moment × Int × List Char) := do
  let (year, cs) ← yearField cs
  let cs ← mark '-' cs
  let (month, cs) ← field 1 12 cs
  let cs ← mark '-' cs
  let (day, cs) ← field 1 31 cs
  let cs ←
    match cs with
    | [] => .error TimeFault.early
    | c :: rest =>
        if c = 'T' ∨ c = 't' ∨ c = ' ' then .ok rest
        else .error .invalid
  let (hour, cs) ← field 0 23 cs
  let cs ← mark ':' cs
  let (minute, cs) ← field 0 59 cs
  let cs ← mark ':' cs
  let (second, cs) ← field 0 60 cs
  let (nanos, cs) ← nanosField cs
  let (ahead, cs) ← offset cs
  let m : Moment :=
    if second = 60 then
      ⟨year, month, day, hour, minute, 59, nanos + Moment.nanosPerSecond⟩
    else ⟨year, month, day, hour, minute, second, nanos⟩
  .ok (m, ahead, cs)

/- The timestamp that a text names. -/
def ofText
    (s : String) :
    Except TimeFault Timestamp :=
  match moment s.toList with
  | .error fault => .error fault
  | .ok (m, ahead, rest) =>
      if !(skipBlank rest).isEmpty then .error .trailing
      else if !m.isValid || 1440 ≤ ahead.natAbs then .error .outOfRange
      else
        let shifted := if ahead = 0 then m else m.universal ahead
        if hValid : shifted.isValid = true then .ok ⟨shifted, hValid⟩
        else .error .outOfRange

def decoder : Decoder Timestamp
  | _, .scalar _ place (.string s) _ => readText place s
  | _, .scalar _ place _ (some s) => readText place s
  | _, node =>
      node.mismatch "an RFC 3339 formatted date and time string"
where
  readText (place : Place) (s : String) : Except Fault Timestamp :=
    match ofText s with
    | .ok t => .ok t
    | .error fault => .error ⟨.malformed fault.message, some place⟩

end Timestamp

end Automation
