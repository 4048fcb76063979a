import Automation.Text.Property
import Automation.Text.Script

/-
  Classes of characters in patterns.

  A class is built from sets of code points by the operations of a bracket
  expression.  A folded class holds every character that differs only in
  case from one of its members.

  Key definitions include:
    * `CharClass` and `CharClass.containsCode`
    * `CharClass.posix?` and `CharClass.named?`, the classes with names
-/

namespace Automation

inductive CharClass where
  | codes (members : CharSet)
  | complement (inner : CharClass)
  | union (left right : CharClass)
  | common (left right : CharClass)
  | without (left right : CharClass)
  | either (left right : CharClass)
  | folded (inner : CharClass)
  | foldedPlain (inner : CharClass)
deriving Inhabited

namespace CharClass

------------------------------------------------------------
-- Membership
------------------------------------------------------------

/- The plain letters that differ only in case from a code point. -/
def plainVariants
    (code : Nat) :
    List Nat :=
  if 0x41 ≤ code ∧ code ≤ 0x5A then [code, code + 0x20]
  else if 0x61 ≤ code ∧ code ≤ 0x7A then [code, code - 0x20]
  else [code]

/- Whether a class holds a code point. -/
def containsCode : CharClass → Nat → Bool
  | .codes members, code => members.containsCode code
  | .complement a, code => !a.containsCode code
  | .union a b, code => a.containsCode code || b.containsCode code
  | .common a b, code => a.containsCode code && b.containsCode code
  | .without a b, code => a.containsCode code && !b.containsCode code
  | .either a b, code => a.containsCode code != b.containsCode code
  | .folded a, code =>
      (Text.variants (Char.ofNat code)).any fun c => a.containsCode c.toNat
  | .foldedPlain a, code => (plainVariants code).any a.containsCode

def contains
    (cls : CharClass)
    (c : Char) :
    Bool :=
  cls.containsCode c.toNat

/- The number of ranges a class is written with. -/
def size : CharClass → Nat
  | .codes members => members.ranges.length
  | .complement a => a.size + 1
  | .union a b => a.size + b.size
  | .common a b => a.size + b.size
  | .without a b => a.size + b.size
  | .either a b => a.size + b.size
  | .folded a => 2 * a.size
  | .foldedPlain a => 2 * a.size

------------------------------------------------------------
-- Ranges
------------------------------------------------------------

def nothing : CharClass := .codes ⟨[]⟩

def everything : CharClass := .codes ⟨[(0, 0x10FFFF)]⟩

def range
    (low high : Nat) :
    CharClass :=
  .codes ⟨[(low, high)]⟩

def single
    (c : Char) :
    CharClass :=
  range c.toNat c.toNat

def negateIf
    (negated : Bool)
    (cls : CharClass) :
    CharClass :=
  if negated then .complement cls else cls

------------------------------------------------------------
-- Classes With Names
------------------------------------------------------------

/- The plain characters of a class that goes by a name in brackets. -/
def posix? : String → Option CharClass
  | "alnum" => some (.codes ⟨[(0x30, 0x39), (0x41, 0x5A), (0x61, 0x7A)]⟩)
  | "alpha" => some (.codes ⟨[(0x41, 0x5A), (0x61, 0x7A)]⟩)
  | "ascii" => some (range 0 0x7F)
  | "blank" => some (.codes ⟨[(0x09, 0x09), (0x20, 0x20)]⟩)
  | "cntrl" => some (.codes ⟨[(0, 0x1F), (0x7F, 0x7F)]⟩)
  | "digit" => some (range 0x30 0x39)
  | "graph" => some (range 0x21 0x7E)
  | "lower" => some (range 0x61 0x7A)
  | "print" => some (range 0x20 0x7E)
  | "punct" =>
      some (.codes ⟨[(0x21, 0x2F), (0x3A, 0x40), (0x5B, 0x60),
        (0x7B, 0x7E)]⟩)
  | "space" => some (.codes ⟨[(0x09, 0x0D), (0x20, 0x20)]⟩)
  | "upper" => some (range 0x41 0x5A)
  | "word" =>
      some (.codes ⟨[(0x30, 0x39), (0x41, 0x5A), (0x5F, 0x5F),
        (0x61, 0x7A)]⟩)
  | "xdigit" =>
      some (.codes ⟨[(0x30, 0x39), (0x41, 0x46), (0x61, 0x66)]⟩)
  | _ => none

/- The characters of words, among all characters or the plain ones. -/
def word
    (unicode : Bool) :
    CharClass :=
  if unicode then .codes Text.wordSet
  else (posix? "word").getD nothing

def digit
    (unicode : Bool) :
    CharClass :=
  if unicode then .codes ((Text.category? "nd").getD ⟨[]⟩)
  else range 0x30 0x39

def blank
    (unicode : Bool) :
    CharClass :=
  if unicode then .codes Text.blankSet
  else (posix? "space").getD nothing

------------------------------------------------------------
-- Properties
------------------------------------------------------------

/-
  A name as it is looked up: in small letters, without spaces, dashes and
  low lines, and without a leading `is`.
-/
def plainName
    (name : List Char) :
    String :=
  let kept := name.filter fun c =>
    c.toNat < 0x80 && c ≠ ' ' && c ≠ '_' && c ≠ '-'
  let small := kept.map Char.toLower
  match small with
  | 'i' :: 's' :: rest =>
      if rest = ['c'] then "isc"
      else String.ofList rest
  | _ => String.ofList small

/- The class of a property, a category or a script. -/
def named?
    (name : List Char) :
    Option CharClass :=
  let name := plainName name
  let found :=
    if name = "assigned" then
      (Text.category? "cn").map fun set => .complement (.codes set)
    else
      match Text.category? name with
      | some set => some (.codes set)
      | none =>
          match Text.property? name with
          | some set => some (.codes set)
          | none => (Text.script? name).map .codes
  found

/- The class of a property given together with the kind of property. -/
def valued?
    (kind value : List Char) :
    Option CharClass :=
  match plainName kind with
  | "gc" | "generalcategory" =>
      (Text.category? (plainName value)).map .codes
  | "sc" | "script" | "scx" | "scriptextensions" =>
      (Text.script? (plainName value)).map .codes
  | _ => none

end CharClass

end Automation
