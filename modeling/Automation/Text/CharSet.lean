/-
  Sets of characters, given by ranges of code points.

  A table of ranges is written as hexadecimal code points separated by
  spaces, with a dash between the ends of a range: `41-5a 5f` holds the
  capital letters and the low line.

  Key definitions include:
    * `CharSet`, and membership in it
    * `CharSet.ofTable`, the set that a table describes
-/

namespace Automation

/- Closed ranges of code points. -/
structure CharSet where
  ranges : List (Nat × Nat)
deriving DecidableEq, Inhabited

namespace CharSet

def containsCode
    (set : CharSet)
    (code : Nat) :
    Bool :=
  set.ranges.any fun (low, high) => low ≤ code ∧ code ≤ high

def contains
    (set : CharSet)
    (c : Char) :
    Bool :=
  set.containsCode c.toNat

------------------------------------------------------------
-- Tables
------------------------------------------------------------

def hexValue
    (c : Char) :
    Nat :=
  if '0' ≤ c ∧ c ≤ '9' then c.toNat - '0'.toNat
  else if 'a' ≤ c ∧ c ≤ 'f' then c.toNat - 'a'.toNat + 10
  else if 'A' ≤ c ∧ c ≤ 'F' then c.toNat - 'A'.toNat + 10
  else 0

/- The code point that a hexadecimal numeral stands for. -/
def readCode
    (digits : List Char) :
    Nat :=
  digits.foldl (fun code c => code * 16 + hexValue c) 0

/-
  Read a table: `low` is the lower end of a range whose upper end is being
  read, and `code` the value of the digits read so far.
-/
def readTable :
    (low : Option Nat) → (code : Nat) → List Char → List (Nat × Nat)
  | low, code, [] => [(low.getD code, code)]
  | low, code, c :: cs =>
      if c = ' ' then (low.getD code, code) :: readTable none 0 cs
      else if c = '-' then readTable (some code) 0 cs
      else readTable low (code * 16 + hexValue c) cs

def ofTable
    (table : String) :
    CharSet :=
  ⟨readTable none 0 table.toList⟩

end CharSet

end Automation
