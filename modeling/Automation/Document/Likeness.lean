import Automation.Document

/-
  Likeness of documents across their kinds.

  Two documents are alike when they are equal, when both stand for the same
  number and one of them is a number, or when one is a truth value and the
  other spells it.

  Key definitions include:
    * `Document.alike`
-/

namespace Automation

namespace Document

/- A text that spells a truth value, in any case. -/
def spells
    (s : String)
    (b : Bool) :
    Bool :=
  (Text.trimChars s.toList).map Char.toLower ==
    (if b then "true" else "false").toList

/- Both stand for a number, and the numbers are equal. -/
def sameNumber
    (left right : Document) :
    Bool :=
  match left.number?, right.number? with
  | some x, some y => x.same y
  | _, _ => false

def alike
    (left right : Document) :
    Bool :=
  left.same right ||
    match left, right with
    | .number _, .string _ => sameNumber left right
    | .string _, .number _ => sameNumber left right
    | .number _, .number _ => sameNumber left right
    | .bool b, .string s => spells s b
    | .string s, .bool b => spells s b
    | _, _ => false

end Document

end Automation
