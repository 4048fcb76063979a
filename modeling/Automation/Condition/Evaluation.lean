import Automation.Condition
import Automation.Context
import Automation.Document.Likeness
import Automation.Pattern.Reader

/-
  The verdict of a condition on a context.

  Members of a group are looked at in order, and only until the verdict of
  the group is settled.  A test that cannot be carried out is false, and
  the fault is kept as a diagnostic.  What is a pattern, and where it
  occurs, is up to a library of patterns.

  Key definitions include:
    * `Condition.test?`, the verdict of a single test
    * `Verdict` and `Condition.evaluate`
-/

namespace Automation

------------------------------------------------------------
-- Faults Of Tests
------------------------------------------------------------

inductive TestFault where
  | fieldNotFound (path : String)
  | incomparable (left right : Document)
  | badPattern (complaint : String)
deriving Inhabited

namespace TestFault

def message : TestFault → String
  | .fieldNotFound path => "field not found: " ++ path
  | .incomparable left right =>
      "cannot compare " ++ left.compact ++ " with " ++ right.compact
  | .badPattern complaint => "invalid regex: " ++ complaint

end TestFault

------------------------------------------------------------
-- Comparisons Of Values
------------------------------------------------------------

namespace Document

/-
  The order of two documents: as numbers where both stand for numbers, as
  texts where both are strings.
-/
def order
    (left right : Document) :
    Except TestFault Ordering :=
  match left.number?, right.number? with
  | some x, some y =>
      match x.compare? y with
      | some ordering => .ok ordering
      | none => .error (.incomparable left right)
  | _, _ =>
      match left, right with
      | .string s, .string t => .ok (Ord.compare s t)
      | _, _ => .error (.incomparable left right)

/-
  Whether a list has a document.  A string lists texts between commas; a
  document that is no list stands for a list of itself.
-/
def listed
    (item list : Document) :
    Bool :=
  match list with
  | .string s =>
      (Text.splitOn ',' s).any fun part => Text.trim part = item.plain
  | .array members => members.any item.alike
  | other => item.alike other

/- Whether a pattern occurs in a document; the pattern has to be one. -/
def hasPattern
    (patterns : PatternLibrary)
    (value pattern : Document) :
    Except TestFault Bool :=
  match patterns.read pattern.plain with
  | .ok occursIn => .ok (occursIn value.plain)
  | .error complaint => .error (.badPattern complaint)

end Document

namespace Comparison

/- Compare a value that was found. -/
def apply
    (patterns : PatternLibrary)
    (comparison : Comparison)
    (actual expected : Document) :
    Except TestFault Bool :=
  let text := actual.plain.toList
  let part := expected.plain.toList
  match comparison with
  | .equals => .ok (actual.alike expected)
  | .notEquals => .ok (!actual.alike expected)
  | .greaterThan => (actual.order expected).map (·.isGT)
  | .lessThan => (actual.order expected).map (·.isLT)
  | .greaterEqual => (actual.order expected).map (·.isGE)
  | .lessEqual => (actual.order expected).map (·.isLE)
  | .contains => .ok (Text.occurs part text)
  | .startsWith => .ok (part.isPrefixOf text)
  | .endsWith => .ok (part.isSuffixOf text)
  | .inList => .ok (actual.listed expected)
  | .notInList => .ok (!actual.listed expected)
  | .isEmpty => .ok (!actual.isTruthy)
  | .isNotEmpty => .ok actual.isTruthy
  | .pattern => actual.hasPattern patterns expected

/- A value that is missing is empty, and cannot be compared otherwise. -/
def applyMissing
    (comparison : Comparison)
    (field : String) :
    Except TestFault Bool :=
  match comparison with
  | .isEmpty => .ok true
  | .isNotEmpty => .ok false
  | _ => .error (.fieldNotFound field)

end Comparison

namespace Condition

/- The verdict of a single test. -/
def test?
    (patterns : PatternLibrary)
    (context : Context)
    (field : String)
    (comparison : Comparison)
    (value : Document) :
    Except TestFault Bool :=
  match context.resolve field with
  | some actual => comparison.apply patterns actual value
  | none => comparison.applyMissing field

end Condition

------------------------------------------------------------
-- Verdicts
------------------------------------------------------------

/- A test that could not be carried out. -/
structure Diagnostic where
  field : String
  comparison : String
  message : String
deriving DecidableEq, Inhabited

namespace Diagnostic

def text
    (diagnostic : Diagnostic) :
    String :=
  diagnostic.field ++ " " ++ diagnostic.comparison ++ ": " ++
    diagnostic.message

end Diagnostic

structure Verdict where
  holds : Bool
  diagnostics : List Diagnostic
deriving DecidableEq, Inhabited

namespace Verdict

/- The verdict of a test, whose fault becomes a diagnostic. -/
def ofTest
    (field comparison : String) :
    Except TestFault Bool → Verdict
  | .ok holds => ⟨holds, []⟩
  | .error fault => ⟨false, [⟨field, comparison, fault.message⟩]⟩

/- A verdict preceded by the diagnostics of an earlier one. -/
def after
    (earlier later : Verdict) :
    Verdict :=
  ⟨later.holds, earlier.diagnostics ++ later.diagnostics⟩

end Verdict

namespace Condition

mutual

def evaluate
    (patterns : PatternLibrary)
    (context : Context) :
    Condition → Verdict
  | .group _ [] => ⟨true, []⟩
  | .group .and (x :: xs) => evaluateAll patterns context (x :: xs)
  | .group .or (x :: xs) => evaluateAny patterns context (x :: xs)
  | .test field comparison value =>
      .ofTest field comparison
        (test? patterns context field (Comparison.ofName comparison)
          value)

/- Members up to the first that does not hold. -/
def evaluateAll
    (patterns : PatternLibrary)
    (context : Context) :
    List Condition → Verdict
  | [] => ⟨true, []⟩
  | x :: xs =>
      let first := evaluate patterns context x
      if first.holds then
        first.after (evaluateAll patterns context xs)
      else first

/- Members up to the first that holds. -/
def evaluateAny
    (patterns : PatternLibrary)
    (context : Context) :
    List Condition → Verdict
  | [] => ⟨false, []⟩
  | x :: xs =>
      let first := evaluate patterns context x
      if first.holds then first
      else first.after (evaluateAny patterns context xs)

end

end Condition

end Automation
