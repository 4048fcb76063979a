import Automation.Proofs.ListForms

/-
  Likeness does not tell its two sides apart.

  Every document is alike to itself, at any nesting, and likeness is the
  same from both sides: a number with a text is looked at as a text with a
  number is, and so are truth values.  So a test for likeness may have the
  value of its field and the document that it states exchanged, and an
  array lists a value when one of its members would list the value.

  Key definitions include:
    * `Condition.Mirrors`, tests with their two sides exchanged
    * `Document.LikenessLaws`, the laws of likeness

  Key theorems include:
    * `Document.same_self` and `Document.same_comm`
    * `Document.alike_self` and `Document.alike_comm`
    * `Document.likenessLaws`
-/

namespace Automation

------------------------------------------------------------
-- Equality Of Numbers
------------------------------------------------------------

namespace Finite64

theorem same_self
    (x : Finite64) :
    x.same x = true :=
  beq_self_eq_true x.rank

theorem same_comm
    (x y : Finite64) :
    x.same y = y.same x :=
  BEq.comm

end Finite64

namespace Number

theorem same_self
    (n : Number) :
    n.same n = true := by
  cases n with
  | integer i => exact beq_self_eq_true i
  | real x => exact x.same_self

theorem same_comm
    (m n : Number) :
    m.same n = n.same m := by
  cases m with
  | integer i =>
      cases n with
      | integer j => exact BEq.comm
      | real y => rfl
  | real x =>
      cases n with
      | integer j => rfl
      | real y => exact x.same_comm y

end Number

/- A missing number is equal to nothing, from either side. -/
theorem Binary64.same_comm
    (x y : Binary64) :
    x.same y = y.same x := by
  unfold same
  cases x.rank with
  | none => cases y.rank <;> rfl
  | some a =>
      cases y.rank with
      | none => rfl
      | some b => exact BEq.comm

namespace Document

------------------------------------------------------------
-- Equality Of Documents
------------------------------------------------------------

mutual

theorem same_self
    (d : Document) :
    d.same d = true := by
  cases d with
  | null => rfl
  | bool b => exact beq_self_eq_true b
  | number n => exact n.same_self
  | string s => exact beq_self_eq_true s
  | array items => exact sameItems_self items
  | object entries => exact sameEntries_self entries

theorem sameItems_self
    (items : List Document) :
    sameItems items items = true := by
  cases items with
  | nil => rfl
  | cons x xs =>
      rw [sameItems, same_self x, sameItems_self xs]
      rfl

theorem sameEntries_self
    (entries : List (String × Document)) :
    sameEntries entries entries = true := by
  cases entries with
  | nil => rfl
  | cons entry rest =>
      rcases entry with ⟨key, x⟩
      rw [sameEntries, same_self x, sameEntries_self rest,
        beq_self_eq_true]
      rfl

end

mutual

theorem same_comm
    (a b : Document) :
    a.same b = b.same a := by
  cases a <;> cases b
  case bool.bool => exact BEq.comm
  case number.number m n => exact m.same_comm n
  case string.string => exact BEq.comm
  case array.array xs ys => exact sameItems_comm xs ys
  case object.object xs ys => exact sameEntries_comm xs ys
  all_goals rfl

theorem sameItems_comm
    (xs ys : List Document) :
    sameItems xs ys = sameItems ys xs := by
  cases xs with
  | nil => cases ys <;> rfl
  | cons x xs =>
      cases ys with
      | nil => rfl
      | cons y ys =>
          rw [sameItems, sameItems, same_comm x y,
            sameItems_comm xs ys]

theorem sameEntries_comm
    (xs ys : List (String × Document)) :
    sameEntries xs ys = sameEntries ys xs := by
  cases xs with
  | nil => cases ys <;> rfl
  | cons first xs =>
      rcases first with ⟨key, x⟩
      cases ys with
      | nil => rfl
      | cons second ys =>
          rcases second with ⟨other, y⟩
          have hKeys : (key == other) = (other == key) := BEq.comm
          rw [sameEntries, sameEntries, same_comm x y,
            sameEntries_comm xs ys, hKeys]

end

------------------------------------------------------------
-- Likeness
------------------------------------------------------------

theorem sameNumber_comm
    (a b : Document) :
    a.sameNumber b = b.sameNumber a := by
  unfold sameNumber
  cases a.number? with
  | none => cases b.number? <;> rfl
  | some x =>
      cases b.number? with
      | none => rfl
      | some y => exact x.same_comm y

theorem alike_self
    (d : Document) :
    d.alike d = true := by
  unfold alike
  rw [same_self, Bool.true_or]

/-
  Every pair of kinds that is looked at beyond equality has its mirror,
  which is looked at in the same way.
-/
theorem alike_comm
    (a b : Document) :
    a.alike b = b.alike a := by
  unfold alike
  rw [same_comm a b]
  congr 1
  cases a <;> cases b
  case number.number => exact sameNumber_comm _ _
  case number.string => exact sameNumber_comm _ _
  case string.number => exact sameNumber_comm _ _
  all_goals rfl

/- An array has a document when a member has it as its only item. -/
theorem listed_array_comm
    (x : Document)
    (members : List Document) :
    x.listed (.array members) =
      members.any fun member => member.listed (.array [x]) := by
  have hMember :
      ∀ member : Document,
        member.listed (.array [x]) = x.alike member := by
    intro member
    rw [alike_comm x member]
    exact Bool.or_false _
  simp only [hMember]
  rfl

end Document

------------------------------------------------------------
-- Tests With Their Sides Exchanged
------------------------------------------------------------

namespace Condition

/- A test whether a field is in an array, or is not. -/
def inArray
    (field : String)
    (members : List Document) :
    Condition :=
  test field Comparison.inList.name (.array members)

def notInArray
    (field : String)
    (members : List Document) :
    Condition :=
  test field Comparison.notInList.name (.array members)

/-
  Tests that a field, which is `a`, makes with `b` have the verdicts of the
  tests that another field, which is `b`, makes with `a`.
-/
structure Mirrors
    (patterns : PatternLibrary)
    (context : Context)
    (field : String)
    (a : Document)
    (other : Context)
    (name : String)
    (b : Document) : Prop where
  equals :
    (test field Comparison.equals.name b).evaluate patterns context =
      (test name Comparison.equals.name a).evaluate patterns other
  notEquals :
    (test field Comparison.notEquals.name b).evaluate patterns context =
      (test name Comparison.notEquals.name a).evaluate patterns other
  inArray :
    (inArray field [b]).evaluate patterns context =
      (inArray name [a]).evaluate patterns other
  notInArray :
    (notInArray field [b]).evaluate patterns context =
      (notInArray name [a]).evaluate patterns other

end Condition

namespace Document

open Condition (Mirrors inArray notInArray)

structure LikenessLaws : Prop where
  refl : ∀ a : Document, a.alike a = true
  symm : ∀ a b : Document, a.alike b = b.alike a
  /- So a test does not depend on which side states its document. -/
  mirrors :
    ∀ patterns context field a other name b,
      Context.resolve context field = some a →
        Context.resolve other name = some b →
          Mirrors patterns context field a other name b
  /-
    A field is in an array when a member is in the array of its value
    alone, whatever contexts hold the members.
  -/
  inArray :
    ∀ patterns context field a members
        (holder : Document → Context) name,
      Context.resolve context field = some a →
        (∀ member ∈ members,
          (holder member).resolve name = some member) →
          (inArray field members).evaluate patterns context =
              ⟨members.any fun member =>
                ((inArray name [a]).evaluate patterns
                  (holder member)).holds, []⟩ ∧
            (notInArray field members).evaluate patterns context =
              ⟨members.all fun member =>
                ((notInArray name [a]).evaluate patterns
                  (holder member)).holds, []⟩

/- Tests for likeness and for its opposite, with their sides exchanged. -/
theorem mirrors_of_resolve
    {patterns : PatternLibrary}
    {context other : Context}
    {field name : String}
    {a b : Document}
    (hField : context.resolve field = some a)
    (hOther : other.resolve name = some b) :
    Mirrors patterns context field a other name b := by
  have hListed :
      a.listed (.array [b]) = b.listed (.array [a]) := by
    rw [listed_array_comm]
    simp
  constructor
  · rw [Condition.evaluate_test_of_apply hField rfl,
      Condition.evaluate_test_of_apply hOther rfl, alike_comm]
  · rw [Condition.evaluate_test_of_apply hField rfl,
      Condition.evaluate_test_of_apply hOther rfl, alike_comm]
  · rw [inArray, inArray, Condition.evaluate_inList hField,
      Condition.evaluate_inList hOther, hListed]
  · rw [notInArray, notInArray,
      Condition.evaluate_notInList hField,
      Condition.evaluate_notInList hOther, hListed]

theorem likenessLaws : LikenessLaws where
  refl := alike_self
  symm := alike_comm
  mirrors _ _ _ _ _ _ _ := mirrors_of_resolve
  inArray patterns context field a members holder name hField
      hHolder := by
    have hMembers :
        ∀ member ∈ members,
          (Condition.inArray name [a]).evaluate patterns (holder member) =
              ⟨member.listed (.array [a]), []⟩ ∧
            (Condition.notInArray name [a]).evaluate patterns
                (holder member) =
              ⟨!member.listed (.array [a]), []⟩ := by
      intro member hMember
      exact
        ⟨Condition.evaluate_inList (hHolder member hMember) _,
          Condition.evaluate_notInList (hHolder member hMember) _⟩
    constructor
    · rw [Condition.inArray, Condition.evaluate_inList hField,
        listed_array_comm]
      refine congrArg (Verdict.mk · []) ?_
      rw [Bool.eq_iff_iff, List.any_eq_true, List.any_eq_true]
      refine exists_congr fun member => and_congr_right ?_
      intro hMember
      rw [(hMembers member hMember).1]
    · rw [Condition.notInArray,
        Condition.evaluate_notInList hField, listed_array_comm,
        List.not_any_eq_all_not]
      refine congrArg (Verdict.mk · []) ?_
      rw [Bool.eq_iff_iff, List.all_eq_true, List.all_eq_true]
      refine forall_congr' fun member => forall_congr' ?_
      intro hMember
      rw [(hMembers member hMember).2]

/- The scopes of a shelf and of its label. -/
def shelfScope : Context :=
  .ofFixed [("count", .integer 5)]

def labelScope : Context :=
  .ofFixed [("count", .string " 5.0 ")]

/- The count is like its label, whichever of the two is stated. -/
theorem shelfScope_mirrors :
    shelfScope.resolve "count" = some (.integer 5) ∧
      labelScope.resolve "count" = some (.string " 5.0 ") ∧
      Mirrors .standard shelfScope "count" (.integer 5) labelScope "count"
        (.string " 5.0 ") ∧
      (Condition.test "count" Comparison.equals.name
          (.string " 5.0 ")).evaluate .standard shelfScope =
        ⟨true, []⟩ := by
  have hMirrors :=
    likenessLaws.mirrors .standard shelfScope "count" (.integer 5)
      labelScope "count" (.string " 5.0 ") rfl rfl
  exact ⟨rfl, rfl, hMirrors, by decide +kernel⟩

end Document

end Automation
