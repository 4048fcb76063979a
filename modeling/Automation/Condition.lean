import Automation.Decoding.Tagged

/-
  Conditions: trees of tests on the values of a context.

  A group joins its members by `and` or `or`; a group without members is
  true.  A test compares the value that a path names with a document.

  Key definitions include:
    * `Condition`, `Junction` and `Comparison`
    * `Condition.always`, the condition of a rule that states none
    * `Condition.decoder` and `Condition.document`, its written form
-/

namespace Automation

------------------------------------------------------------
-- Comparisons
------------------------------------------------------------

inductive Comparison where
  | equals
  | notEquals
  | greaterThan
  | lessThan
  | greaterEqual
  | lessEqual
  | contains
  | startsWith
  | endsWith
  | inList
  | notInList
  | isEmpty
  | isNotEmpty
  | pattern
deriving DecidableEq, Inhabited

namespace Comparison

def name : Comparison → String
  | .equals => "equals"
  | .notEquals => "not_equals"
  | .greaterThan => "greater_than"
  | .lessThan => "less_than"
  | .greaterEqual => "greater_equal"
  | .lessEqual => "less_equal"
  | .contains => "contains"
  | .startsWith => "starts_with"
  | .endsWith => "ends_with"
  | .inList => "in_list"
  | .notInList => "not_in_list"
  | .isEmpty => "is_empty"
  | .isNotEmpty => "is_not_empty"
  | .pattern => "regex"

def all : List Comparison :=
  [.equals, .notEquals, .greaterThan, .lessThan, .greaterEqual,
    .lessEqual, .contains, .startsWith, .endsWith, .inList, .notInList,
    .isEmpty, .isNotEmpty, .pattern]

/- The comparison with a name; an unknown name stands for equality. -/
def ofName
    (s : String) :
    Comparison :=
  (all.find? fun comparison => comparison.name = s).getD .equals

end Comparison

------------------------------------------------------------
-- Condition Trees
------------------------------------------------------------

inductive Junction where
  | and
  | or
deriving DecidableEq, Inhabited

/- A test keeps the name of its comparison as it was written. -/
inductive Condition where
  | group (junction : Junction) (members : List Condition)
  | test (field comparison : String) (value : Document)
deriving Inhabited

namespace Condition

def allOf
    (members : List Condition) :
    Condition :=
  .group .and members

def anyOf
    (members : List Condition) :
    Condition :=
  .group .or members

/- The condition that always holds. -/
def always : Condition := .allOf []

def compare
    (field : String)
    (comparison : Comparison)
    (value : Document) :
    Condition :=
  .test field comparison.name value

end Condition

------------------------------------------------------------
-- Written Form
------------------------------------------------------------

namespace Junction

def name : Junction → String
  | .and => "AND"
  | .or => "OR"

def decoder : Decoder Junction :=
  Decoder.enumeration
    [("AND", .and), ("and", .and), ("OR", .or), ("or", .or)]

end Junction

namespace Condition

def groupRecord
    (member : Decoder Condition) :
    Record Condition :=
  Condition.group
    <$> Record.defaulted ["operator"] Junction.decoder .and
    <*> Record.defaulted ["children"] (Decoder.listOf member) []

def testRecord : Record Condition :=
  Condition.test
    <$> Record.required ["field"] Decoder.text
    <*> Record.defaulted ["operator"] Decoder.text ""
    <*> Record.defaulted ["value"] Decoder.document .null

/- Read a tree that is nested no deeper than the given number. -/
def decoderWithin : Nat → Decoder Condition
  | 0 => fun _ node => node.mismatch "internally tagged enum ConditionNode"
  | depth + 1 =>
      Decoder.tagged "ConditionNode" "type"
        [("group",
            (groupRecord (decoderWithin depth)).decoder
              "struct variant ConditionNode::Group"),
          ("condition",
            testRecord.decoder "struct variant ConditionNode::Condition")]

def decoder : Decoder Condition :=
  fun dialect node => decoderWithin (node.depth + 1) dialect node

mutual

def document : Condition → Document
  | .group junction members =>
      .record
        [("type", .text "group"),
          ("operator", .text junction.name),
          ("children", .array (documents members))]
  | .test field comparison value =>
      .record
        [("type", .text "condition"),
          ("field", .text field),
          ("operator", .text comparison),
          ("value", value)]

def documents : List Condition → List Document
  | [] => []
  | x :: xs => document x :: documents xs

end

end Condition

end Automation
