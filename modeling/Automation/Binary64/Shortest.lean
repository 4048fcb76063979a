import Automation.Binary64

/-
  The shortest decimal text that reads back as a given binary64 number.

  A decimal reads back as a number when it lies in the interval of values
  that round to it.  For one digit, two digits and so on, the two
  neighbours of the number on that decimal grid are tested exactly; the
  first grid with a hit gives the digits, and of two hits the nearer one.

  Key definitions include:
    * `Decimal`, digits and a power of ten
    * `Finite64.shortest`, the fewest digits that read back
    * `Layout`, how digits are laid out, and `Layout.render`
-/

namespace Automation

------------------------------------------------------------
-- Decimals
------------------------------------------------------------

/- The decimal `digits * 10 ^ exponent`. -/
structure Decimal where
  digits : Nat
  exponent : Int
deriving DecidableEq, Inhabited

namespace Decimal

/- Drop trailing zeros, at most as many as `fuel`. -/
def trimZeros : Nat → Decimal → Decimal
  | 0, d => d
  | fuel + 1, d =>
      if d.digits ≠ 0 ∧ d.digits % 10 = 0 then
        trimZeros fuel ⟨d.digits / 10, d.exponent + 1⟩
      else d

end Decimal

------------------------------------------------------------
-- The Interval Of A Number
------------------------------------------------------------

namespace Finite64

/-
  The values that round to a number, in quarters of a unit around it.
  Below a power of two the numbers lie twice as close.
-/
structure Interval where
  low : Nat
  high : Nat
  closed : Bool
deriving DecidableEq, Inhabited

def interval
    (units : Nat) :
    Interval :=
  let gap := spacing units
  let below :=
    if Nat.pow 2 53 ≤ units ∧ units = Nat.pow 2 units.log2 then gap
    else 2 * gap
  { low := 4 * units - below
    high := 4 * units + 2 * gap
    closed := (units / gap) % 2 = 0 }

/- The value `num / den` units lies in an interval. -/
def Interval.holds
    (i : Interval)
    (num den : Nat) :
    Bool :=
  if i.closed then i.low * den ≤ 4 * num ∧ 4 * num ≤ i.high * den
  else i.low * den < 4 * num ∧ 4 * num < i.high * den

/- The power of ten of the leading digit of a positive number. -/
def leadingPower
    (units : Nat) :
    Int :=
  let binary : Int := (units.log2 : Int) - 1074
  let estimate := (binary * 1233) / 4096
  let reaches (k : Int) : Bool :=
    if 0 ≤ k then Nat.pow 10 k.toNat * one ≤ units
    else one ≤ units * Nat.pow 10 (-k).toNat
  ([estimate + 2, estimate + 1, estimate].find? reaches).getD
    (estimate - 1)

/-
  The nearest decimal on the grid of `10 ^ exponent` that reads back, if
  there is one.  Of two equally near ones it is the one with the even last
  digit.
-/
def onGrid
    (units : Nat)
    (exponent : Int) :
    Option Nat :=
  let cell := if 0 ≤ exponent then one * Nat.pow 10 exponent.toNat else one
  let scale := if 0 ≤ exponent then 1 else Nat.pow 10 (-exponent).toNat
  let exact := units * scale
  let below := exact / cell
  let range := interval units
  let lower := range.holds (below * cell) scale
  let upper := range.holds ((below + 1) * cell) scale
  match lower, upper with
  | true, true => some (Binary64.nearest exact cell)
  | true, false => some below
  | false, true => some (below + 1)
  | false, false => none

/- The first grid, from one digit to seventeen, with a decimal that reads
   back. -/
def firstGrid
    (units : Nat)
    (leading : Int) :
    (count left : Nat) → Decimal
  | count, 0 =>
      let exponent := leading - count
      ⟨(onGrid units exponent).getD 0, exponent⟩
  | count, left + 1 =>
      let exponent := leading - count
      match onGrid units exponent with
      | some digits => ⟨digits, exponent⟩
      | none => firstGrid units leading (count + 1) left

/- The fewest digits that read back as the magnitude of a number. -/
def shortest
    (x : Finite64) :
    Decimal :=
  if x.units = 0 then ⟨0, 0⟩
  else (firstGrid x.units (leadingPower x.units) 0 16).trimZeros 20

end Finite64

------------------------------------------------------------
-- Layout
------------------------------------------------------------

/-
  How digits are laid out.  A number whose leading digit has a power of ten
  from `leastPlain` up to but not including `endPlain` is written with a
  point and no exponent, with one zero after the point when it is whole.
  Any other is written with one digit before the point and an exponent.
-/
structure Layout where
  leastPlain : Int
  endPlain : Int
  positiveSign : String
deriving DecidableEq, Inhabited

namespace Layout

/- A magnitude written with a point and no exponent. -/
def plain
    (digits : List Char)
    (exponent : Int) :
    List Char :=
  if 0 ≤ exponent then
    digits ++ List.replicate exponent.toNat '0' ++ ['.', '0']
  else
    let after := (-exponent).toNat
    if after < digits.length then
      let before := digits.length - after
      digits.take before ++ '.' :: digits.drop before
    else
      '0' :: '.' :: List.replicate (after - digits.length) '0' ++ digits

/- A magnitude written with one digit before the point and an exponent. -/
def scientific
    (layout : Layout)
    (digits : List Char)
    (power : Int) :
    List Char :=
  let mantissa :=
    match digits with
    | [] => ['0']
    | [d] => [d]
    | d :: rest => d :: '.' :: rest
  let sign := if power < 0 then "-" else layout.positiveSign
  mantissa ++ 'e' :: sign.toList ++ Nat.toDigits 10 power.natAbs

def render
    (layout : Layout)
    (x : Finite64) :
    List Char :=
  let shortest := x.shortest
  let digits := Nat.toDigits 10 shortest.digits
  let power := shortest.exponent + digits.length - 1
  let magnitude :=
    if layout.leastPlain ≤ power ∧ power < layout.endPlain then
      plain digits shortest.exponent
    else layout.scientific digits power
  if x.negative then '-' :: magnitude else magnitude

end Layout

end Automation
