import Automation.Binary64

/-
  Numerals as text.

  A numeral is an optional sign followed by digits with an optional point
  and an optional power of ten, or by the name of an infinity or of the
  missing number in any case.  At least one digit stands before or after
  the point.

  Key definitions include:
    * `Numeral.binary64?`, the number nearest to a numeral
    * `Numeral.natural?`, a natural number written in digits alone
-/

namespace Automation

namespace Numeral

def isDigit
    (c : Char) :
    Bool :=
  '0' ≤ c ∧ c ≤ '9'

def digitValue
    (c : Char) :
    Nat :=
  c.toNat - '0'.toNat

/- The value of a run of digits. -/
def value
    (digits : List Char) :
    Nat :=
  digits.foldl (fun total c => total * 10 + digitValue c) 0

/- Split off an optional sign; the flag says that it is a minus. -/
def sign : List Char → Bool × List Char
  | '-' :: rest => (true, rest)
  | '+' :: rest => (false, rest)
  | cs => (false, cs)

------------------------------------------------------------
-- Natural Numbers
------------------------------------------------------------

/- Digits alone, at least one. -/
def digits? : List Char → Option Nat
  | [] => none
  | cs => if cs.all isDigit then some (value cs) else none

/- Digits with an optional plus sign, below a bound. -/
def natural?
    (bound : Nat)
    (cs : List Char) :
    Option Nat :=
  let unsigned :=
    match cs with
    | '+' :: rest => rest
    | _ => cs
  match digits? unsigned with
  | some n => if n < bound then some n else none
  | none => none

------------------------------------------------------------
-- Binary64 Numbers
------------------------------------------------------------

/- A power of ten after the mark `e`, or no mark at all. -/
def power? : List Char → Option Int
  | [] => some 0
  | mark :: rest =>
      if mark = 'e' ∨ mark = 'E' then
        let (negative, cs) := sign rest
        (digits? cs).map fun n => if negative then -(n : Int) else n
      else none

/- A numeral without its sign. -/
def unsigned?
    (negative : Bool)
    (cs : List Char) :
    Option Binary64 :=
  let whole := cs.takeWhile isDigit
  let rest := cs.dropWhile isDigit
  let (fraction, tail) :=
    match rest with
    | '.' :: more => (more.takeWhile isDigit, more.dropWhile isDigit)
    | _ => ([], rest)
  if whole.isEmpty && fraction.isEmpty then none
  else
    (power? tail).map fun power =>
      Binary64.ofDecimal negative (value (whole ++ fraction))
        (power - fraction.length)

/- The number a numeral names. -/
def binary64?
    (cs : List Char) :
    Option Binary64 :=
  let (negative, rest) := sign cs
  match String.ofList (rest.map Char.toLower) with
  | "inf" | "infinity" => some (.infinite negative)
  | "nan" => some .nan
  | _ => unsigned? negative rest

end Numeral

end Automation
