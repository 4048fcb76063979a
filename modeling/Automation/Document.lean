import Automation.Binary64.Numeral
import Automation.Table
import Automation.Text.Blank

/-
  Documents: the values that rules, payloads and results are made of.

  Whole numbers and binary64 numbers are kept apart.  The entries of an
  object are kept in the order of their keys wherever an object is built
  from parts, by the code points of the key.

  Key definitions include:
    * `Document` and `Number`
    * `Entries`, the entries of an object
    * `Document.same`, equality of documents
    * `Document.isTruthy` and `Document.number?`, the truth and the number
      that a document stands for
-/

namespace Automation

------------------------------------------------------------
-- Numbers
------------------------------------------------------------

inductive Number where
  | integer (value : Int)
  | real (value : Finite64)
deriving DecidableEq, Inhabited

namespace Number

/- Equality of numbers: a whole number never equals a binary64 number. -/
def same : Number → Number → Bool
  | .integer a, .integer b => a == b
  | .real x, .real y => x.same y
  | _, _ => false

def binary64 : Number → Binary64
  | .integer i => Binary64.ofInt i
  | .real x => .finite x

def isZero : Number → Bool
  | .integer i => i == 0
  | .real x => x.isZero

/- The number as an unsigned word of 64 bits, if it is written as one. -/
def word? : Number → Option UInt64
  | .integer i =>
      if 0 ≤ i ∧ i < UInt64.size then some (UInt64.ofNat i.toNat) else none
  | .real _ => none

end Number

------------------------------------------------------------
-- Documents
------------------------------------------------------------

inductive Document where
  | null
  | bool (value : Bool)
  | number (value : Number)
  | string (value : String)
  | array (items : List Document)
  | object (entries : List (String × Document))
deriving Inhabited

/- The entries of an object. -/
abbrev Entries := Table Document

namespace Document

def text
    (s : String) :
    Document :=
  .string s

def integer
    (i : Int) :
    Document :=
  .number (.integer i)

/- An object from named parts. -/
def record
    (entries : List (String × Document)) :
    Document :=
  .object (Table.ofList entries)

------------------------------------------------------------
-- Equality
------------------------------------------------------------

mutual

/- Equality of documents, number by number. -/
def same : Document → Document → Bool
  | .null, .null => true
  | .bool a, .bool b => a == b
  | .number a, .number b => a.same b
  | .string a, .string b => a == b
  | .array xs, .array ys => sameItems xs ys
  | .object xs, .object ys => sameEntries xs ys
  | _, _ => false

def sameItems : List Document → List Document → Bool
  | [], [] => true
  | x :: xs, y :: ys => same x y && sameItems xs ys
  | _, _ => false

def sameEntries :
    List (String × Document) → List (String × Document) → Bool
  | [], [] => true
  | (k, x) :: xs, (l, y) :: ys =>
      k == l && same x y && sameEntries xs ys
  | _, _ => false

end

------------------------------------------------------------
-- Views
------------------------------------------------------------

/- Empty, zero, false and null are not true; all else is. -/
def isTruthy : Document → Bool
  | .null => false
  | .bool b => b
  | .number n => !n.isZero
  | .string s => !s.isEmpty
  | .array items => !items.isEmpty
  | .object entries => !entries.isEmpty

/- The number a document stands for: a number itself, or a numeral. -/
def number? : Document → Option Binary64
  | .number n => some n.binary64
  | .string s => Numeral.binary64? (Text.trimChars s.toList)
  | _ => none

def isNull : Document → Bool
  | .null => true
  | _ => false

/- The value under a key, in an object. -/
def entry? : Document → String → Option Document
  | .object entries, key => Table.find? entries key
  | _, _ => none

------------------------------------------------------------
-- Nesting
------------------------------------------------------------

mutual

/- How deeply arrays and objects are nested. -/
def depth : Document → Nat
  | .array items => depthItems items + 1
  | .object entries => depthEntries entries + 1
  | _ => 0

def depthItems : List Document → Nat
  | [] => 0
  | x :: xs => max (depth x) (depthItems xs)

def depthEntries : List (String × Document) → Nat
  | [] => 0
  | (_, x) :: xs => max (depth x) (depthEntries xs)

end

end Document

end Automation
