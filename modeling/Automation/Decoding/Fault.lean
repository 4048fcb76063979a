import Automation.Document.Printer
import Automation.Text.Quoted

/-
  What can be wrong with a written document.

  A fault is a cause together with the place it is reported at.  A cause
  found deep inside a document has no place of its own at first; the
  nearest enclosing part that has one supplies it.

  Key definitions include:
    * `Cause` and `Cause.message`
    * `Place`, a line and a column, and a path inside the document
    * `Fault` and `Fault.message`
-/

namespace Automation

------------------------------------------------------------
-- Causes
------------------------------------------------------------

/- What was found where something else was expected. -/
inductive Found where
  | null
  | bool (value : Bool)
  | number (value : Number)
  | string (value : String)
  | sequence
  | mapping
deriving DecidableEq, Inhabited

inductive Cause where
  | unexpected (found : Found) (expected : String)
  | badValue (found : Found) (expected : String)
  | badLength (length : Nat) (expected : String)
  | unknownVariant (name : String) (known : List String)
  | missingField (name : String)
  | duplicateField (name : String)
  | noVariant (type : String)
  | malformed (reason : String)
deriving DecidableEq, Inhabited

/- The name a kind of document gives to the absent value. -/
inductive Wording where
  | null
  | unit
deriving DecidableEq, Inhabited

namespace Found

def message
    (wording : Wording) :
    Found → String
  | .null =>
      match wording with
      | .null => "null"
      | .unit => "unit value"
  | .bool true => "boolean `true`"
  | .bool false => "boolean `false`"
  | .number (.integer i) => "integer `" ++ toString i ++ "`"
  | .number n => "floating point `" ++ String.ofList n.digits ++ "`"
  | .string s => "string " ++ Text.quoted s
  | .sequence => "sequence"
  | .mapping => "map"

end Found

namespace Cause

/- The variants a name could have been. -/
def alternatives : List String → String
  | [] => "there are no variants"
  | [a] => "expected `" ++ a ++ "`"
  | [a, b] => "expected `" ++ a ++ "` or `" ++ b ++ "`"
  | names =>
      "expected one of " ++
        String.intercalate ", " (names.map fun name => "`" ++ name ++ "`")

def message
    (wording : Wording) :
    Cause → String
  | .unexpected found expected =>
      "invalid type: " ++ found.message wording ++ ", expected " ++
        expected
  | .badValue found expected =>
      "invalid value: " ++ found.message wording ++ ", expected " ++
        expected
  | .badLength length expected =>
      "invalid length " ++ toString length ++ ", expected " ++ expected
  | .unknownVariant name known =>
      "unknown variant `" ++ name ++ "`, " ++ alternatives known
  | .missingField name => "missing field `" ++ name ++ "`"
  | .duplicateField name => "duplicate field `" ++ name ++ "`"
  | .noVariant type =>
      "data did not match any variant of untagged enum " ++ type
  | .malformed reason => reason

end Cause

------------------------------------------------------------
-- Places
------------------------------------------------------------

/-
  A place in a written document: the path to a part, empty where paths are
  not reported, and a line with a column, absent where they are not.
-/
structure Place where
  path : String
  position : Option (Nat × Nat)
deriving DecidableEq, Inhabited

namespace Place

/- The place of a document that was never written down. -/
def nowhere : Place := ⟨"", none⟩

end Place

structure Fault where
  cause : Cause
  place : Option Place
deriving DecidableEq, Inhabited

namespace Fault

/- A fault that has no place yet. -/
def of
    (cause : Cause) :
    Fault :=
  ⟨cause, none⟩

def message
    (wording : Wording)
    (fault : Fault) :
    String :=
  let cause := fault.cause.message wording
  match fault.place with
  | none => cause
  | some place =>
      let before := if place.path.isEmpty then "" else place.path ++ ": "
      let after :=
        match place.position with
        | none => ""
        | some (line, column) =>
            " at line " ++ toString line ++ " column " ++ toString column
      before ++ cause ++ after

end Fault

/- Give a fault that has no place yet the place at hand. -/
def located
    {α : Type}
    (place : Place) :
    Except Fault α → Except Fault α
  | .error ⟨cause, none⟩ => .error ⟨cause, some place⟩
  | result => result

end Automation
