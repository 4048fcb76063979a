import Automation.Binary64.Spacing

/-
  Binary64 arithmetic over exact integers.

  Every finite binary64 number is a whole number of `2 ^ -1074`, the least
  positive one, so a finite number is kept as a sign and that count of
  units, which has no more than 53 significant bits.  Each operation
  computes the exact result as a quotient of natural numbers and rounds it
  once, to the nearest such number, a tie going to the even significand.

  Key definitions include:
    * `Finite64`, a finite number as a sign and a count of units
    * `Binary64`, which adds the two infinities and the missing number
    * `Binary64.round`, the rounding of an exact quotient
    * `Binary64.rank`, the place of a number in the order of all numbers
-/

namespace Automation

------------------------------------------------------------
-- Finite Numbers
------------------------------------------------------------

namespace Binary64

/- The first count of units beyond every finite number. -/
def overflow : Nat := Nat.pow 2 2098

theorem overflow_pos : 0 < overflow := by decide +kernel

end Binary64

/-
  A finite number: `units` counts multiples of `2 ^ -1074`, and is one of
  the multiples that lie as far apart as numbers do there.
-/
structure Finite64 where
  negative : Bool
  units : Nat
  whole : Finite64.spacing units ∣ units
  bounded : units < Binary64.overflow
deriving DecidableEq

namespace Finite64

/- The zero of a sign. -/
def zero
    (negative : Bool) :
    Finite64 where
  negative := negative
  units := 0
  whole := Nat.dvd_zero _
  bounded := Binary64.overflow_pos

instance : Inhabited Finite64 := ⟨zero false⟩

/- The number of units in one. -/
def one : Nat := Nat.pow 2 1074

/- The signed count of units.  Both zeros have rank zero. -/
def rank
    (x : Finite64) :
    Int :=
  if x.negative then -(x.units : Int) else x.units

/- Numeric equality: the two zeros are equal. -/
def same
    (x y : Finite64) :
    Bool :=
  x.rank == y.rank

def isZero
    (x : Finite64) :
    Bool :=
  x.units == 0

end Finite64

------------------------------------------------------------
-- All Numbers
------------------------------------------------------------

inductive Binary64 where
  | finite (value : Finite64)
  | infinite (negative : Bool)
  | nan
deriving DecidableEq, Inhabited

namespace Binary64

/- Round a quotient of units to the nearest representable number. -/
def round
    (negative : Bool)
    (num den : Nat) :
    Binary64 :=
  let gap := Finite64.spacing (num / den)
  let units := nearest num (den * gap) * gap
  if hBounded : units < overflow then
    .finite
      { negative := negative
        units := units
        whole := Finite64.spacing_dvd_nearest num den
        bounded := hBounded }
  else .infinite negative

/-
  The place of a number in the order of all numbers; a missing number has
  none.
-/
def rank : Binary64 → Option Int
  | .finite x => some x.rank
  | .infinite negative =>
      some (if negative then -(overflow : Int) else overflow)
  | .nan => none

/- The order of two numbers, unless one of them is missing. -/
def compare?
    (x y : Binary64) :
    Option Ordering :=
  match x.rank, y.rank with
  | some a, some b => some (compare a b)
  | _, _ => none

/- Numeric equality, which no missing number has with anything. -/
def same
    (x y : Binary64) :
    Bool :=
  match x.rank, y.rank with
  | some a, some b => a == b
  | _, _ => false

------------------------------------------------------------
-- Conversions
------------------------------------------------------------

/- The number nearest to an integer. -/
def ofInt
    (i : Int) :
    Binary64 :=
  round (i < 0) (i.natAbs * Finite64.one) 1

/-
  The number nearest to `digits * 10 ^ exponent`.  Exponents that put the
  value far outside the range are settled without computing the power.
-/
def ofDecimal
    (negative : Bool)
    (digits : Nat)
    (exponent : Int) :
    Binary64 :=
  if digits = 0 then .finite (.zero negative)
  else if 400 < exponent then .infinite negative
  else if exponent + digits.log2 + 1 < -400 then
    .finite (.zero negative)
  else if 0 ≤ exponent then
    round negative (digits * Nat.pow 10 exponent.toNat * Finite64.one) 1
  else
    round negative (digits * Finite64.one) (Nat.pow 10 (-exponent).toNat)

/- The integer a number stands for, when it is one. -/
def integer? : Binary64 → Option Int
  | .finite x =>
      if x.units % Finite64.one = 0 then
        let magnitude := x.units / Finite64.one
        some (if x.negative then -(magnitude : Int) else magnitude)
      else none
  | _ => none

------------------------------------------------------------
-- Arithmetic
------------------------------------------------------------

/-
  A sum that cancels is a positive zero, unless both numbers are negative
  zeros.
-/
def add : Binary64 → Binary64 → Binary64
  | .nan, _ => .nan
  | _, .nan => .nan
  | .infinite s, .infinite t => if s = t then .infinite s else .nan
  | .infinite s, .finite _ => .infinite s
  | .finite _, .infinite t => .infinite t
  | .finite x, .finite y =>
      let total := x.rank + y.rank
      if total = 0 then .finite (.zero (x.negative && y.negative))
      else round (total < 0) total.natAbs 1

/- The product of two finite numbers. -/
def product
    (x y : Finite64) :
    Binary64 :=
  round (x.negative != y.negative) (x.units * y.units) Finite64.one

/- The quotient of two finite numbers; the divisor is not zero. -/
def quotient
    (x y : Finite64) :
    Binary64 :=
  round (x.negative != y.negative) (x.units * Finite64.one) y.units

end Binary64

end Automation
