import Automation.Condition.Evaluation
import Automation.Proofs.Rounding

/-
  Comparisons of integers.

  A test compares two integers by the binary64 numbers nearest to them.
  So it says of the integers what is true of their coarse ones: all of its
  verdicts are exact unless the two are different integers with the same
  coarse one.  Integers of no more than 53 bits never are.

  Key definitions include:
    * `Comparison.onIntegers?`, what a comparison says of integers
    * `Condition.IsExactOn`, tests that say what is true of two integers
    * `Condition.ComparesIntegers`, the verdicts on an integer

  Key theorems include:
    * `Document.alike_integer` and `Document.order_integer`
    * `Condition.comparesIntegers`, tests of a field with an integer
-/

namespace Automation

open Binary64 (coarse IsWord)

variable {a b : Int}

------------------------------------------------------------
-- The Order Of Coarse Integers
------------------------------------------------------------

namespace Binary64

theorem coarse_eq_coarse_iff
    (hApart : coarse a = coarse b → a = b) :
    coarse a = coarse b ↔ a = b :=
  ⟨hApart, congrArg coarse⟩

/- Integers that are told apart by their coarse ones keep their order. -/
theorem coarse_lt_coarse_iff
    (hApart : coarse a = coarse b → a = b) :
    coarse a < coarse b ↔ a < b := by
  constructor
  · intro hLess
    by_contra hNot
    have hLe := Binary64.coarse_le_coarse (Int.not_lt.mp hNot)
    omega
  · intro hLess
    have hLe := Binary64.coarse_le_coarse (Int.le_of_lt hLess)
    have hNe : coarse a ≠ coarse b := fun hSame => by
      have hEq := hApart hSame
      omega
    omega

end Binary64

namespace Document

variable {left right : Document}
variable {x y : Binary64}

theorem order_of_numbers
    {ordering : Ordering}
    (hLeft : left.number? = some x)
    (hRight : right.number? = some y)
    (hCompare : x.compare? y = some ordering) :
    left.order right = .ok ordering := by
  unfold order
  rw [hLeft, hRight]
  dsimp only
  rw [hCompare]

theorem sameNumber_of_numbers
    (hLeft : left.number? = some x)
    (hRight : right.number? = some y) :
    left.sameNumber right = x.same y := by
  unfold sameNumber
  rw [hLeft, hRight]

theorem number?_integer
    (a : Int) :
    (integer a).number? = some (.ofInt a) :=
  rfl

theorem order_integer
    (hFirst : IsWord a)
    (hSecond : IsWord b) :
    (integer a).order (integer b) =
      .ok (compare (coarse a) (coarse b)) :=
  order_of_numbers (number?_integer a) (number?_integer b)
    (Binary64.compare?_ofInt hFirst hSecond)

theorem alike_integer
    (hFirst : IsWord a)
    (hSecond : IsWord b) :
    (integer a).alike (integer b) =
      decide (coarse a = coarse b) := by
  have hAlike :
      (integer a).alike (integer b) =
        (a == b || (integer a).sameNumber (integer b)) := rfl
  rw [hAlike,
    sameNumber_of_numbers (number?_integer a) (number?_integer b),
    Binary64.same_ofInt hFirst hSecond, Bool.eq_iff_iff]
  simp only [Bool.or_eq_true, beq_iff_eq, decide_eq_true_eq]
  constructor
  · rintro (rfl | hSame)
    · rfl
    · exact hSame
  · exact Or.inr

theorem listed_integers
    {items : List Int}
    (hFirst : IsWord a)
    (hItems : ∀ item ∈ items, IsWord item) :
    (integer a).listed (.array (items.map integer)) =
      decide (∃ item ∈ items, coarse a = coarse item) := by
  rw [listed, List.any_map, Bool.eq_iff_iff]
  simp only [List.any_eq_true, Function.comp_apply,
    decide_eq_true_eq]
  constructor
  · rintro ⟨item, hItem, hAlike⟩
    rw [alike_integer hFirst (hItems item hItem)] at hAlike
    exact ⟨item, hItem, of_decide_eq_true hAlike⟩
  · rintro ⟨item, hItem, hSame⟩
    refine ⟨item, hItem, ?_⟩
    rw [alike_integer hFirst (hItems item hItem)]
    exact decide_eq_true hSame

end Document

------------------------------------------------------------
-- Comparisons Of Numbers
------------------------------------------------------------

namespace Comparison

/- What a comparison of numbers says of two integers. -/
def onIntegers? : Comparison → Option (Int → Int → Bool)
  | .equals => some fun a b => a = b
  | .notEquals => some fun a b => a ≠ b
  | .greaterThan => some fun a b => b < a
  | .lessThan => some fun a b => a < b
  | .greaterEqual => some fun a b => b ≤ a
  | .lessEqual => some fun a b => a ≤ b
  | _ => none

variable {patterns : PatternLibrary}
variable {comparison : Comparison}
variable {relation : Int → Int → Bool}

theorem ofName_name
    (comparison : Comparison) :
    ofName comparison.name = comparison := by
  cases comparison <;> decide

/- A comparison of documents that are alike and ordered as integers. -/
theorem apply_of_integers
    {left right : Document}
    {x y : Int}
    (hRelation : comparison.onIntegers? = some relation)
    (hAlike : left.alike right = decide (x = y))
    (hOrder : left.order right = .ok (compare x y)) :
    comparison.apply patterns left right = .ok (relation x y) := by
  cases comparison <;> cases hRelation <;>
    simp only [apply, hAlike, hOrder, Except.map, Except.ok.injEq]
  case notEquals => simp
  case greaterThan =>
    rw [Bool.eq_iff_iff, decide_eq_true_eq,
      Ordering.isGT_iff_eq_gt, compare_gt_iff_gt]
  case lessThan =>
    rw [Bool.eq_iff_iff, decide_eq_true_eq,
      Ordering.isLT_iff_eq_lt, compare_lt_iff_lt]
  case greaterEqual =>
    rw [Bool.eq_iff_iff, decide_eq_true_eq,
      Ordering.isGE_iff_ne_lt, ← ne_eq, compare_ge_iff_ge]
  case lessEqual =>
    rw [Bool.eq_iff_iff, decide_eq_true_eq,
      Ordering.isLE_iff_ne_gt, ← ne_eq, compare_le_iff_le]

/- A comparison says of integers what it says of their coarse ones. -/
theorem apply_integers
    (hRelation : comparison.onIntegers? = some relation)
    (hFirst : IsWord a)
    (hSecond : IsWord b) :
    comparison.apply patterns (.integer a) (.integer b) =
      .ok (relation (coarse a) (coarse b)) :=
  apply_of_integers hRelation
    (Document.alike_integer hFirst hSecond)
    (Document.order_integer hFirst hSecond)

theorem relation_coarse
    (hRelation : comparison.onIntegers? = some relation)
    (hApart : coarse a = coarse b → a = b) :
    relation (coarse a) (coarse b) = relation a b := by
  have hSame := Binary64.coarse_eq_coarse_iff hApart
  have hLess := Binary64.coarse_lt_coarse_iff hApart
  have hMore :=
    Binary64.coarse_lt_coarse_iff fun hEq => (hApart hEq.symm).symm
  cases comparison <;> cases hRelation <;>
    simp only [ne_eq, hSame, hLess, hMore, ← Int.not_lt]

end Comparison

------------------------------------------------------------
-- Tests Of Integers
------------------------------------------------------------

namespace Condition

variable {patterns : PatternLibrary}
variable {context : Context}
variable {field : String}
variable {comparison : Comparison}
variable {relation : Int → Int → Bool}

theorem evaluate_test_of_apply
    {actual value : Document}
    {holds : Bool}
    (hField : context.resolve field = some actual)
    (hApply : comparison.apply patterns actual value = .ok holds) :
    (test field comparison.name value).evaluate patterns context =
      ⟨holds, []⟩ := by
  rw [evaluate, Comparison.ofName_name, test?, hField]
  dsimp only
  rw [hApply, Verdict.ofTest]

/-
  All tests of a field whose value is the first integer with the second
  one have the verdict that the integers call for.
-/
def IsExactOn
    (patterns : PatternLibrary)
    (context : Context)
    (field : String)
    (a b : Int) : Prop :=
  ∀ comparison relation,
    Comparison.onIntegers? comparison = some relation →
      (test field comparison.name (.integer b)).evaluate patterns context =
        ⟨relation a b, []⟩

/- A test whether a field is in a list of integers, or is not. -/
def inIntegers
    (field : String)
    (items : List Int) :
    Condition :=
  test field Comparison.inList.name (.array (items.map .integer))

def notInIntegers
    (field : String)
    (items : List Int) :
    Condition :=
  test field Comparison.notInList.name
    (.array (items.map .integer))

/- The verdicts of the tests of a field whose value is an integer. -/
structure ComparesIntegers
    (patterns : PatternLibrary)
    (context : Context)
    (field : String)
    (a : Int) : Prop where
  /- A test compares the coarse integers. -/
  coarsely :
    ∀ b,
      IsWord b →
        ∀ comparison relation,
          Comparison.onIntegers? comparison = some relation →
            (test field comparison.name (.integer b)).evaluate patterns
                context =
              ⟨relation (coarse a) (coarse b), []⟩
  /- So it is exact but for other integers with the same coarse one. -/
  exact_iff :
    ∀ b,
      IsWord b →
        (IsExactOn patterns context field a b ↔
          (coarse a = coarse b → a = b))
  /- There are none when one of the integers is small. -/
  exact_of_small :
    ∀ b,
      IsWord b →
        a.natAbs < 2 ^ 53 ∨ b.natAbs < 2 ^ 53 →
          IsExactOn patterns context field a b
  /- A list has the integer if it has one with the same coarse one. -/
  listed :
    ∀ items : List Int,
      (∀ item ∈ items, IsWord item) →
        (inIntegers field items).evaluate patterns context =
          ⟨decide (∃ item ∈ items, coarse a = coarse item), []⟩
  notListed :
    ∀ items : List Int,
      (∀ item ∈ items, IsWord item) →
        (notInIntegers field items).evaluate patterns context =
          ⟨!decide (∃ item ∈ items, coarse a = coarse item), []⟩
  listed_exact_iff :
    ∀ items : List Int,
      (∀ item ∈ items, IsWord item) →
        ((inIntegers field items).evaluate patterns context =
            ⟨decide (a ∈ items), []⟩ ↔
          ∀ item ∈ items, coarse a = coarse item → a ∈ items)

theorem evaluate_integers
    (hField : context.resolve field = some (.integer a))
    (hFirst : IsWord a)
    (hSecond : IsWord b)
    (hRelation : comparison.onIntegers? = some relation) :
    (test field comparison.name (.integer b)).evaluate patterns context =
      ⟨relation (coarse a) (coarse b), []⟩ :=
  evaluate_test_of_apply hField
    (Comparison.apply_integers hRelation hFirst hSecond)

theorem isExactOn_iff
    (hField : context.resolve field = some (.integer a))
    (hFirst : IsWord a)
    (hSecond : IsWord b) :
    IsExactOn patterns context field a b ↔
      (coarse a = coarse b → a = b) := by
  constructor
  · intro hExact hSame
    have hEquals := hExact .equals _ rfl
    rw [evaluate_integers hField hFirst hSecond rfl] at hEquals
    simpa [hSame] using hEquals
  · intro hApart comparison relation hRelation
    rw [evaluate_integers hField hFirst hSecond hRelation,
      Comparison.relation_coarse hRelation hApart]

theorem evaluate_inIntegers
    {items : List Int}
    (hField : context.resolve field = some (.integer a))
    (hFirst : IsWord a)
    (hItems : ∀ item ∈ items, IsWord item) :
    (inIntegers field items).evaluate patterns context =
      ⟨decide (∃ item ∈ items, coarse a = coarse item), []⟩ := by
  refine evaluate_test_of_apply hField ?_
  rw [Comparison.apply, Document.listed_integers hFirst hItems]

theorem evaluate_notInIntegers
    {items : List Int}
    (hField : context.resolve field = some (.integer a))
    (hFirst : IsWord a)
    (hItems : ∀ item ∈ items, IsWord item) :
    (notInIntegers field items).evaluate patterns context =
      ⟨!decide (∃ item ∈ items, coarse a = coarse item), []⟩ := by
  refine evaluate_test_of_apply hField ?_
  rw [Comparison.apply, Document.listed_integers hFirst hItems]

/-
  A field that is a 64 bit integer is compared with others by the nearest
  integers with 53 significant bits.
-/
theorem comparesIntegers
    (hField : context.resolve field = some (.integer a))
    (hFirst : IsWord a) :
    ComparesIntegers patterns context field a where
  coarsely _ hSecond _ _ hRelation :=
    evaluate_integers hField hFirst hSecond hRelation
  exact_iff _ hSecond := isExactOn_iff hField hFirst hSecond
  exact_of_small b hSecond hSmall := by
    refine (isExactOn_iff hField hFirst hSecond).mpr ?_
    intro hSame
    rcases hSmall with hLess | hLess
    · exact Binary64.eq_of_coarse_eq hLess hSame
    · exact (Binary64.eq_of_coarse_eq hLess hSame.symm).symm
  listed _ hItems := evaluate_inIntegers hField hFirst hItems
  notListed _ hItems := evaluate_notInIntegers hField hFirst hItems
  listed_exact_iff items hItems := by
    rw [evaluate_inIntegers hField hFirst hItems]
    simp only [Verdict.mk.injEq, and_true, decide_eq_decide]
    constructor
    · intro hExact item hItem hSame
      exact hExact.mp ⟨item, hItem, hSame⟩
    · intro hApart
      constructor
      · rintro ⟨item, hItem, hSame⟩
        exact hApart item hItem hSame
      · intro hMem
        exact ⟨a, hMem, rfl⟩

/- The scope of an account whose number has 54 bits. -/
def accountScope : Context :=
  .ofFixed [("id", .integer 9007199254740993)]

theorem accountScope_compares :
    accountScope.resolve "id" = some (.integer 9007199254740993) ∧
      IsWord 9007199254740993 ∧
      ComparesIntegers .standard accountScope "id" 9007199254740993 :=
  ⟨rfl, by decide, comparesIntegers rfl (by decide)⟩

/- A test for the preceding number holds as well. -/
theorem account_mistaken :
    accountScope.resolve "id" = some (.integer 9007199254740993) ∧
      IsWord 9007199254740993 ∧
      IsWord 9007199254740992 ∧
      (test "id" Comparison.equals.name
          (.integer 9007199254740992)).evaluate .standard accountScope =
        ⟨true, []⟩ ∧
      (test "id" Comparison.greaterThan.name
          (.integer 9007199254740992)).evaluate .standard accountScope =
        ⟨false, []⟩ :=
  ⟨rfl, by decide, by decide, by decide +kernel, by decide +kernel⟩

end Condition

end Automation
