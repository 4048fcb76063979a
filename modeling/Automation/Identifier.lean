import Automation.Decoding.Decoder

/-
  Identifiers of 128 bits.

  An identifier is written as 32 hexadecimal digits, in groups divided by
  dashes.  It is also read without dashes, in braces, and with the name of
  its scheme before it.

  Key definitions include:
    * `Identifier`, and `Identifier.text`, its written form
    * `Identifier.ofText`, the identifier that a text names
-/

namespace Automation

structure Identifier where
  digits : List (Fin 16)
  size_digits : digits.length = 32 := by decide
deriving DecidableEq

namespace Identifier

/- The identifier of no digit but zero. -/
def zero : Identifier where
  digits := List.replicate 32 0

instance : Inhabited Identifier := ⟨zero⟩

/-
  The identifier of given digits, apart from the two that say that the
  others were chosen at random.  Of a larger number the last digit counts.
-/
def ofRandom
    (digit : Nat → Nat) :
    Identifier where
  digits := List.ofFn fun i : Fin 32 =>
    Fin.ofNat 16
      (if i.val = 12 then 4
        else if i.val = 16 then 8 + digit i.val % 4
        else digit i.val)
  size_digits := List.length_ofFn

------------------------------------------------------------
-- Writing
------------------------------------------------------------

def hexDigit
    (d : Fin 16) :
    Char :=
  Nat.digitChar d.val

/- The sizes of the groups of digits. -/
def groupSizes : List Nat := [8, 4, 4, 4, 12]

/- Digits in groups of given sizes, divided by dashes. -/
def grouped :
    List Nat → List Char → List Char
  | [], _ => []
  | [n], cs => cs.take n
  | n :: sizes, cs => cs.take n ++ '-' :: grouped sizes (cs.drop n)

def text
    (id : Identifier) :
    String :=
  String.ofList (grouped groupSizes (id.digits.map hexDigit))

------------------------------------------------------------
-- Reading
------------------------------------------------------------

inductive IdentifierFault where
  | badChar (c : Char) (index : Nat)
  | badLength (length : Nat)
  | badGroupCount (count : Nat)
  | badGroupLength (group expected length : Nat)
deriving DecidableEq, Inhabited

def IdentifierFault.detail : IdentifierFault → String
  | .badChar c index =>
      "character: expected an optional prefix of `urn:uuid:` followed " ++
        "by [0-9a-fA-F-], found `" ++ String.ofList [c] ++ "` at " ++
        toString index
  | .badLength length =>
      "length: expected length 32 for simple format, found " ++
        toString length
  | .badGroupCount count =>
      "group count: expected 5, found " ++ toString count
  | .badGroupLength group expected length =>
      "group length in group " ++ toString group ++ ": expected " ++
        toString expected ++ ", found " ++ toString length

def IdentifierFault.message
    (fault : IdentifierFault) :
    String :=
  "UUID parsing failed: invalid " ++ fault.detail

def digit?
    (c : Char) :
    Option (Fin 16) :=
  if '0' ≤ c ∧ c ≤ '9' then some (Fin.ofNat 16 (c.toNat - '0'.toNat))
  else if 'a' ≤ c ∧ c ≤ 'f' then
    some (Fin.ofNat 16 (c.toNat - 'a'.toNat + 10))
  else if 'A' ≤ c ∧ c ≤ 'F' then
    some (Fin.ofNat 16 (c.toNat - 'A'.toNat + 10))
  else none

/- Digits alone, as many as an identifier has. -/
def ofDigits?
    (cs : List Char) :
    Option Identifier :=
  match cs.mapM digit? with
  | some digits =>
      if hSize : digits.length = 32 then some ⟨digits, hSize⟩ else none
  | none => none

/- Digits in groups. -/
def ofGroups?
    (cs : List Char) :
    Option Identifier :=
  let parts := Text.splitChars '-' cs
  if parts.map List.length = groupSizes then ofDigits? parts.flatten
  else none

/- Drop what stands around the digits in one of the longer forms. -/
def stripped :
    List Char → List Char
  | 'u' :: 'r' :: 'n' :: ':' :: 'u' :: 'u' :: 'i' :: 'd' :: ':' :: cs => cs
  | '\x7b' :: cs =>
      if cs.getLast? = some '\x7d' then cs.dropLast else '\x7b' :: cs
  | cs => cs

def isAccepted
    (c : Char) :
    Bool :=
  (digit? c).isSome || c = '-'

def byteLength
    (cs : List Char) :
    Nat :=
  (String.ofList cs).utf8ByteSize

/-
  What is wrong with a text that names no identifier: a character that has
  no place in one, or else the number or the size of its groups.
-/
def explain
    (s : String) :
    IdentifierFault :=
  let all := s.toList
  let cs := stripped all
  let offset :=
    if cs.length = all.length then 0
    else if all.head? = some 'u' then 9
    else 1
  match cs.findIdx? fun c => !isAccepted c with
  | some i =>
      .badChar (cs.getD i '-') (byteLength (cs.take i) + offset + 1)
  | none =>
      let sizes := (Text.splitChars '-' cs).map List.length
      if sizes.length = 1 ∧ offset = 0 then .badLength all.length
      else if sizes.length ≠ 5 then .badGroupCount sizes.length
      else
        let wrong :=
          ((sizes.zip groupSizes).take 4).findIdx? fun (size, expected) =>
            size ≠ expected
        match wrong with
        | some i =>
            .badGroupLength i (groupSizes.getD i 0) (sizes.getD i 0)
        | none => .badGroupLength 4 12 (all.length - 24)

/- The identifier that a text names. -/
def ofText
    (s : String) :
    Except IdentifierFault Identifier :=
  let cs := s.toList
  let found :=
    match ofDigits? cs with
    | some id => some id
    | none => ofGroups? (stripped cs)
  match found with
  | some id => .ok id
  | none => .error (explain s)

def decoder : Decoder Identifier
  | _, .scalar _ place (.string s) _ => readText place s
  | _, .scalar _ place _ (some s) => readText place s
  | _, node => node.mismatch "a UUID string"
where
  readText (place : Place) (s : String) : Except Fault Identifier :=
    match ofText s with
    | .ok id => .ok id
    | .error fault => .error ⟨.malformed fault.message, some place⟩

end Identifier

end Automation
