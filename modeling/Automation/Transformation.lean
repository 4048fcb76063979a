import Automation.Context
import Automation.Document.Printer
import Automation.Task
import Automation.Text.Case

/-
  New values from the values of a context.

  Key definitions include:
    * `Document.sum`, the sum of the numbers of a list
    * `Operation.apply` and `TransformTask.output`
-/

namespace Automation

namespace Binary64

/- The sum of numbers, from left to right. -/
def sum
    (xs : List Binary64) :
    Binary64 :=
  xs.foldl add (.finite (.zero false))

/-
  A number as a document.  Whole numbers become integers as far as 64 bits
  with a sign reach; a number that no document can hold becomes null.
-/
def document
    (x : Binary64) :
    Document :=
  match x with
  | .finite value =>
      match x.integer? with
      | some i =>
          if i.natAbs < UInt64.size / 2 then .integer i
          else .number (.real value)
      | none => .number (.real value)
  | _ => .null

end Binary64

namespace Document

/-
  The sum of the items that stand for numbers; what is no list counts as a
  list of itself.
-/
def sum : Document → Binary64
  | .array items => Binary64.sum (items.filterMap (·.number?))
  | d => d.number?.getD (.finite (.zero false))

end Document

namespace Operation

def apply
    (operation : Operation)
    (source : Document) :
    Document :=
  match operation with
  | .copy => source
  | .uppercase => .text (Text.uppercase source.plain)
  | .lowercase => .text (Text.lowercase source.plain)
  | .sum => source.sum.document

end Operation

namespace TransformTask

/- One value under each name; a missing source counts as null. -/
def output
    (task : TransformTask)
    (context : Context) :
    Document :=
  .object (task.outputs.map fun (key, transform) =>
    let source := (context.resolve transform.source).getD .null
    (key, transform.operation.apply source))

end TransformTask

end Automation
