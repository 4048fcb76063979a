import Automation.Binary64.Numeral
import Automation.Decoding.Node
import Automation.Text.CharSet

/-
  What the scalars of a YAML text stand for.

  A plain scalar is a number, a truth value or nothing at all where it is
  spelled like one, and otherwise a string.  Digits behind a leading zero
  are no number.

  Key definitions include:
    * `Yaml.resolve`, the value of a plain scalar
-/

namespace Automation

namespace Yaml

------------------------------------------------------------
-- Whole Numbers
------------------------------------------------------------

/- The bases that a mark after a zero stands for. -/
def base? : Char → Option Nat
  | 'x' => some 16
  | 'o' => some 8
  | 'b' => some 2
  | _ => none

/- The value of a digit in any base up to sixteen. -/
def digit?
    (base : Nat)
    (c : Char) :
    Option Nat :=
  let isDigit :=
    ('0' ≤ c ∧ c ≤ '9') || ('a' ≤ c ∧ c ≤ 'f') || ('A' ≤ c ∧ c ≤ 'F')
  let value := CharSet.readCode [c]
  if isDigit && value < base then some value else none

/- At least one digit, and nothing else. -/
def digits?
    (base : Nat)
    (cs : List Char) :
    Option Nat :=
  if cs.isEmpty then none
  else
    (cs.mapM (digit? base)).map fun digits =>
      digits.foldl (fun total digit => total * base + digit) 0

/- A number without its sign. -/
def natural?
    (cs : List Char) :
    Option Nat :=
  match cs with
  | '0' :: mark :: rest =>
      match base? mark with
      | some base => digits? base rest
      | none => digits? 10 cs
  | _ => digits? 10 cs

/- Digits behind a leading zero, which are a text. -/
def isPadded
    (cs : List Char) :
    Bool :=
  match (Numeral.sign cs).2 with
  | '0' :: c :: rest => (c :: rest).all Numeral.isDigit
  | _ => false

/- A whole number of 64 bits, with a sign or without. -/
def integer?
    (cs : List Char) :
    Option Int :=
  let (negative, rest) := Numeral.sign cs
  match if isPadded cs then none else natural? rest with
  | none => none
  | some n =>
      if negative then
        if n ≤ UInt64.size / 2 then some (-(n : Int)) else none
      else if n < UInt64.size then some n
      else none

------------------------------------------------------------
-- Scalars
------------------------------------------------------------

/- A number with a point or a power of ten. -/
def real?
    (cs : List Char) :
    Option Finite64 :=
  let clash :=
    match cs with
    | '+' :: c :: _ => c = '+' || c = '-'
    | _ => false
  if clash || isPadded cs then none
  else
    match Numeral.binary64? cs with
    | some (.finite x) => some x
    | _ => none

/- The value of a plain scalar; an infinity has none. -/
def resolve
    (s : String) :
    Scalar :=
  if ["", "null", "Null", "NULL", "~"].contains s then .null
  else if ["true", "True", "TRUE"].contains s then .bool true
  else if ["false", "False", "FALSE"].contains s then .bool false
  else if
      [".inf", ".Inf", ".INF", "+.inf", "+.Inf", "+.INF", "-.inf", "-.Inf",
        "-.INF", ".nan", ".NaN", ".NAN"].contains s then
    .null
  else
    match integer? s.toList, real? s.toList with
    | some n, _ => .number (.integer n)
    | none, some x => .number (.real x)
    | none, none => .string s

end Yaml

end Automation
