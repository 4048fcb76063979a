import Automation.Proofs.Trichotomy
import Automation.Proofs.Verdicts

/-
  Opposite tests, and conditions that deny each other.

  A test and the one by the opposite comparison have opposite verdicts, or
  neither of them can be carried out, and then both are false for the same
  reason.  Tests of emptiness can always be carried out, tests for likeness
  and for membership unless the field is missing, and tests by the order
  unless the field is missing or has no order with the document.

  A condition is denied by another one that joins the opposite tests the
  other way.  The two are never true at once, and one of them is unless a
  test could not be carried out.

  Key definitions include:
    * `Comparison.opposite?`, the opposite of a comparison
    * `Condition.Complementary` and `Condition.BothFaulty`
    * `Condition.Opposites`, the verdicts of opposite tests
    * `Condition.Denies`, conditions that deny each other

  Key theorems include:
    * `Condition.test?_opposite`, opposite tests of a field
    * `Condition.bothFaulty_iff`, when neither can be carried out
    * `Condition.opposites`
    * `Condition.Denies.excludes`, a condition and its denial
-/

namespace Automation

------------------------------------------------------------
-- Opposite Comparisons
------------------------------------------------------------

namespace Comparison

def opposite? : Comparison → Option Comparison
  | .equals => some .notEquals
  | .notEquals => some .equals
  | .greaterThan => some .lessEqual
  | .lessEqual => some .greaterThan
  | .lessThan => some .greaterEqual
  | .greaterEqual => some .lessThan
  | .inList => some .notInList
  | .notInList => some .inList
  | .isEmpty => some .isNotEmpty
  | .isNotEmpty => some .isEmpty
  | _ => none

/- Comparisons that look for a document that is alike. -/
def isLikeness : Comparison → Bool
  | .equals | .notEquals | .inList | .notInList => true
  | _ => false

/- Comparisons that look at the value alone. -/
def isEmptiness : Comparison → Bool
  | .isEmpty | .isNotEmpty => true
  | _ => false

variable {comparison first second : Comparison}

/- Orders that are accepted just when others are not. -/
theorem map_not
    {accepts rejects : Ordering → Bool}
    (hRejects : ∀ ordering, rejects ordering = !accepts ordering)
    (outcome : Except TestFault Ordering) :
    outcome.map rejects = (outcome.map accepts).map (!·) := by
  cases outcome with
  | error fault => rfl
  | ok ordering => exact congrArg Except.ok (hRejects ordering)

theorem apply_opposite
    (hOpposite : first.opposite? = some second)
    (patterns : PatternLibrary)
    (actual expected : Document) :
    second.apply patterns actual expected =
      (first.apply patterns actual expected).map (!·) := by
  cases first <;> cases hOpposite
  case greaterThan | lessThan | greaterEqual | lessEqual =>
    exact map_not (fun ordering => by cases ordering <;> rfl) _
  all_goals simp [apply, Except.map]

theorem applyMissing_opposite
    (hOpposite : first.opposite? = some second)
    (field : String) :
    second.applyMissing field =
      (first.applyMissing field).map (!·) := by
  cases first <;> cases hOpposite <;> rfl

end Comparison

------------------------------------------------------------
-- Faults Of Tests
------------------------------------------------------------

namespace Document

theorem fault_of_order
    {a b : Document}
    {fault : TestFault}
    (hFault : a.order b = .error fault) :
    fault = .incomparable a b := by
  unfold order at hFault
  split at hFault <;> split at hFault <;> cases hFault
  · rfl
  · rfl

end Document

namespace Condition

variable {patterns : PatternLibrary}
variable {context : Context}
variable {field first second message : String}
variable {comparison opposite : Comparison}
variable {value : Document}
variable {fault : TestFault}

/- Opposite tests of a field have opposite outcomes, or the same fault. -/
theorem test?_opposite
    (hOpposite : comparison.opposite? = some opposite)
    (patterns : PatternLibrary)
    (context : Context)
    (field : String)
    (value : Document) :
    test? patterns context field opposite value =
      (test? patterns context field comparison value).map (!·) := by
  unfold test?
  cases context.resolve field with
  | none => exact Comparison.applyMissing_opposite hOpposite field
  | some actual =>
      exact Comparison.apply_opposite hOpposite _ actual value

theorem test?_of_emptiness
    (hEmptiness : comparison.isEmptiness = true) :
    ∃ holds,
      test? patterns context field comparison value = .ok holds := by
  unfold test?
  cases context.resolve field <;> cases comparison <;>
    cases hEmptiness <;> exact ⟨_, rfl⟩

theorem test?_of_likeness
    (hLikeness : comparison.isLikeness = true) :
    test? patterns context field comparison value = .error fault ↔
      context.resolve field = none ∧
        fault = .fieldNotFound field := by
  unfold test?
  cases context.resolve field with
  | none =>
      cases comparison <;> cases hLikeness <;>
        simp [Comparison.applyMissing, eq_comm]
  | some actual =>
      cases comparison <;> cases hLikeness <;>
        simp [Comparison.apply]

theorem test?_of_onOrder
    {accepts : Ordering → Bool}
    (hAccepts : comparison.onOrder? = some accepts) :
    test? patterns context field comparison value = .error fault ↔
      context.resolve field = none ∧
          fault = .fieldNotFound field ∨
        ∃ actual,
          context.resolve field = some actual ∧
            ¬ actual.Compares value ∧
              fault = .incomparable actual value := by
  unfold test?
  cases hField : context.resolve field with
  | none =>
      cases comparison <;> cases hAccepts <;>
        simp [Comparison.applyMissing, eq_comm]
  | some actual =>
      have hOutcome :
          comparison.apply patterns actual value = .error fault ↔
            ¬ actual.Compares value ∧
              fault = .incomparable actual value := by
        rw [Comparison.apply_of_onOrder hAccepts,
          Document.compares_iff]
        cases hOrder : actual.order value with
        | error other =>
            rw [Document.fault_of_order hOrder]
            simp [Except.map, eq_comm]
        | ok ordering => simp [Except.map]
      simp [hOutcome]

------------------------------------------------------------
-- Verdicts Of Opposite Tests
------------------------------------------------------------

/- Conditions with opposite verdicts, and without diagnostics. -/
def Complementary
    (patterns : PatternLibrary)
    (context : Context)
    (one other : Condition) : Prop :=
  ∃ holds,
    one.evaluate patterns context = ⟨holds, []⟩ ∧
      other.evaluate patterns context = ⟨!holds, []⟩

/-
  Tests by two comparisons neither of which can be carried out, with one
  diagnostic each and the same message.
-/
def BothFaulty
    (patterns : PatternLibrary)
    (context : Context)
    (field first second : String)
    (value : Document)
    (message : String) : Prop :=
  (test field first value).evaluate patterns context =
      ⟨false, [⟨field, first, message⟩]⟩ ∧
    (test field second value).evaluate patterns context =
      ⟨false, [⟨field, second, message⟩]⟩

theorem evaluate_of_error
    (hTest :
      test? patterns context field (Comparison.ofName first) value =
        .error fault) :
    (test field first value).evaluate patterns context =
      ⟨false, [⟨field, first, fault.message⟩]⟩ := by
  rw [evaluate, hTest, Verdict.ofTest]

theorem complementary_of_ok
    {holds : Bool}
    (hOpposite :
      (Comparison.ofName first).opposite? =
        some (Comparison.ofName second))
    (hTest :
      test? patterns context field (Comparison.ofName first) value =
        .ok holds) :
    Complementary patterns context (test field first value)
      (test field second value) := by
  refine ⟨holds, ?_, ?_⟩
  · rw [evaluate, hTest, Verdict.ofTest]
  · rw [evaluate, test?_opposite hOpposite, hTest, Except.map,
      Verdict.ofTest]

/- Neither of two opposite tests can be carried out if one cannot. -/
theorem bothFaulty_iff
    (hOpposite :
      (Comparison.ofName first).opposite? =
        some (Comparison.ofName second)) :
    BothFaulty patterns context field first second value message ↔
      ∃ fault,
        test? patterns context field (Comparison.ofName first) value =
            .error fault ∧
          fault.message = message := by
  cases hTest :
      test? patterns context field (Comparison.ofName first) value with
  | ok holds =>
      simp [BothFaulty, evaluate, hTest, Verdict.ofTest]
  | error fault =>
      have hSecond :
          test? patterns context field (Comparison.ofName second)
              value =
            .error fault := by
        rw [test?_opposite hOpposite, hTest, Except.map]
      simp [BothFaulty, evaluate_of_error hTest,
        evaluate_of_error hSecond]

/- The verdicts of two tests of a field by opposite comparisons. -/
structure Opposites
    (patterns : PatternLibrary)
    (context : Context)
    (field first second : String)
    (value : Document) : Prop where
  verdicts :
    Complementary patterns context (test field first value)
        (test field second value) ∨
      ∃ message,
        BothFaulty patterns context field first second value message
  emptiness :
    (Comparison.ofName first).isEmptiness = true →
      Complementary patterns context (test field first value)
        (test field second value)
  /- Tests for likeness only need the field. -/
  likeness :
    (Comparison.ofName first).isLikeness = true →
      ∀ message,
        BothFaulty patterns context field first second value message ↔
          context.resolve field = none ∧
            message = (TestFault.fieldNotFound field).message
  /- Tests by the order need one as well. -/
  order :
    (Comparison.ofName first).onOrder?.isSome = true →
      ∀ message,
        BothFaulty patterns context field first second value message ↔
          context.resolve field = none ∧
              message = (TestFault.fieldNotFound field).message ∨
            ∃ actual,
              context.resolve field = some actual ∧
                ¬ actual.Compares value ∧
                  message =
                    (TestFault.incomparable actual value).message

/-
  Comparisons are given by the names that are written in the tests, which
  the diagnostics repeat.
-/
theorem opposites
    (hOpposite :
      (Comparison.ofName first).opposite? =
        some (Comparison.ofName second))
    (patterns : PatternLibrary)
    (context : Context)
    (field : String)
    (value : Document) :
    Opposites patterns context field first second value where
  verdicts := by
    cases hTest :
        test? patterns context field (Comparison.ofName first)
          value with
    | ok holds => exact .inl (complementary_of_ok hOpposite hTest)
    | error fault =>
        exact
          .inr
            ⟨fault.message,
              (bothFaulty_iff hOpposite).mpr ⟨fault, hTest, rfl⟩⟩
  emptiness hEmptiness := by
    rcases test?_of_emptiness hEmptiness with ⟨holds, hTest⟩
    exact complementary_of_ok hOpposite hTest
  likeness hLikeness message := by
    rw [bothFaulty_iff hOpposite]
    constructor
    · rintro ⟨fault, hTest, rfl⟩
      rcases (test?_of_likeness hLikeness).mp hTest with
        ⟨hMissing, rfl⟩
      exact ⟨hMissing, rfl⟩
    · rintro ⟨hMissing, rfl⟩
      exact
        ⟨_, (test?_of_likeness hLikeness).mpr ⟨hMissing, rfl⟩, rfl⟩
  order hOrder message := by
    rcases Option.isSome_iff_exists.mp hOrder with
      ⟨accepts, hAccepts⟩
    rw [bothFaulty_iff hOpposite]
    constructor
    · rintro ⟨fault, hTest, rfl⟩
      rcases (test?_of_onOrder hAccepts).mp hTest with
        ⟨hMissing, rfl⟩ | ⟨actual, hField, hApart, rfl⟩
      · exact .inl ⟨hMissing, rfl⟩
      · exact .inr ⟨actual, hField, hApart, rfl⟩
    · rintro (⟨hMissing, rfl⟩ | ⟨actual, hField, hApart, rfl⟩)
      · exact
          ⟨_, (test?_of_onOrder hAccepts).mpr (.inl ⟨hMissing, rfl⟩),
            rfl⟩
      · exact
          ⟨_,
            (test?_of_onOrder hAccepts).mpr
              (.inr ⟨actual, hField, hApart, rfl⟩),
            rfl⟩

/- The scope of a gauge that has no reading. -/
def gaugeScope : Context :=
  .ofFixed [("reading", .string "NaN")]

/- Such a reading is neither more nor at most anything. -/
theorem gaugeScope_opposites :
    (Comparison.ofName "greater_than").opposite? =
        some (Comparison.ofName "less_equal") ∧
      Opposites .standard gaugeScope "reading" "greater_than"
        "less_equal" (.integer 5) ∧
      BothFaulty .standard gaugeScope "reading" "greater_than"
        "less_equal" (.integer 5) "cannot compare \"NaN\" with 5" :=
  ⟨by decide, opposites (by decide) _ _ _ _,
    by decide +kernel, by decide +kernel⟩

------------------------------------------------------------
-- Negated Conditions
------------------------------------------------------------

mutual

/-
  Conditions that are made of opposite tests, joined the other way.  Groups
  without members are true either way, so none of them denies another.
-/
def Denies : Condition → Condition → Prop
  | .test field first value, .test other second stated =>
      other = field ∧
        stated = value ∧
          (Comparison.ofName first).opposite? =
            some (Comparison.ofName second)
  | .group .and (x :: xs), .group .or (y :: ys) =>
      DenyEach (x :: xs) (y :: ys)
  | .group .or (x :: xs), .group .and (y :: ys) =>
      DenyEach (x :: xs) (y :: ys)
  | _, _ => False

def DenyEach : List Condition → List Condition → Prop
  | [], [] => True
  | x :: xs, y :: ys => Denies x y ∧ DenyEach xs ys
  | _, _ => False

end

mutual

/-
  A condition and its denial are never both true: when all members of a
  group are, no member of a denial is.
-/
theorem truth_denied
    (patterns : PatternLibrary)
    (context : Context)
    (condition denial : Condition)
    (hDenies : Denies condition denial) :
    (condition.truth patterns context &&
      denial.truth patterns context) = false := by
  match condition, denial with
  | .test field first value, .test other second stated =>
      rcases hDenies with ⟨rfl, rfl, hOpposite⟩
      rw [truth, truth, test?_opposite hOpposite]
      cases
        test? patterns context other (Comparison.ofName first)
          stated with
      | ok holds => exact Bool.and_not_self holds
      | error fault => rfl
  | .group .and (x :: xs), .group .or (y :: ys) =>
      exact
        (truths_denied patterns context (x :: xs) (y :: ys)
          hDenies).1
  | .group .or (x :: xs), .group .and (y :: ys) =>
      exact
        (truths_denied patterns context (x :: xs) (y :: ys)
          hDenies).2

/- Members that are joined either way, as a denial joins them the other. -/
theorem truths_denied
    (patterns : PatternLibrary)
    (context : Context)
    (members denials : List Condition)
    (hDeny : DenyEach members denials) :
    ((truths patterns context members).all id &&
          (truths patterns context denials).any id) = false ∧
      ((truths patterns context members).any id &&
          (truths patterns context denials).all id) = false := by
  match members, denials with
  | [], [] => exact ⟨rfl, rfl⟩
  | x :: xs, y :: ys =>
      have hFirst := truth_denied patterns context x y hDeny.1
      have hRest := truths_denied patterns context xs ys hDeny.2
      simp only [truths, List.all_cons, List.any_cons, id_eq]
      cases hLeft : x.truth patterns context <;>
        cases hRight : y.truth patterns context <;>
        simp_all only [Bool.true_and, Bool.false_and, Bool.true_or,
          Bool.false_or, Bool.and_true, Bool.and_false, and_self,
          Bool.true_eq_false]

end

mutual

/-
  If every test that is looked at is carried out, a denial comes to the
  opposite verdict: a member that settles its group is denied by one that
  settles the other group.
-/
theorem evaluate_denied
    (patterns : PatternLibrary)
    (context : Context)
    (condition denial : Condition)
    (hDenies : Denies condition denial) :
    (condition.evaluate patterns context).diagnostics = [] →
      denial.evaluate patterns context =
        ⟨!(condition.evaluate patterns context).holds, []⟩ := by
  match condition, denial with
  | .test field first value, .test other second stated =>
      intro hClean
      rcases hDenies with ⟨rfl, rfl, hOpposite⟩
      rw [evaluate, evaluate, test?_opposite hOpposite]
      rw [evaluate] at hClean
      cases hTest :
          test? patterns context other (Comparison.ofName first)
            stated with
      | ok holds => rfl
      | error fault =>
          rw [hTest] at hClean
          cases hClean
  | .group .and (x :: xs), .group .or (y :: ys) =>
      exact
        evaluateAll_denied patterns context (x :: xs) (y :: ys) hDenies
  | .group .or (x :: xs), .group .and (y :: ys) =>
      exact
        evaluateAny_denied patterns context (x :: xs) (y :: ys) hDenies

theorem evaluateAll_denied
    (patterns : PatternLibrary)
    (context : Context)
    (members denials : List Condition)
    (hDeny : DenyEach members denials) :
    (evaluateAll patterns context members).diagnostics = [] →
      evaluateAny patterns context denials =
        ⟨!(evaluateAll patterns context members).holds, []⟩ := by
  match members, denials with
  | [], [] => exact fun _ => rfl
  | x :: xs, y :: ys =>
      intro hClean
      cases hHolds : (x.evaluate patterns context).holds with
      | false =>
          simp only [evaluateAll, hHolds] at hClean
          have hFirst :=
            evaluate_denied patterns context x y hDeny.1 hClean
          simp [evaluateAll, evaluateAny, hFirst, hHolds]
      | true =>
          simp only [evaluateAll, hHolds, if_true, Verdict.after,
            List.append_eq_nil_iff] at hClean
          have hFirst :=
            evaluate_denied patterns context x y hDeny.1 hClean.1
          have hRest :=
            evaluateAll_denied patterns context xs ys hDeny.2 hClean.2
          simp [evaluateAll, evaluateAny, hFirst, hRest, hHolds,
            Verdict.after]

theorem evaluateAny_denied
    (patterns : PatternLibrary)
    (context : Context)
    (members denials : List Condition)
    (hDeny : DenyEach members denials) :
    (evaluateAny patterns context members).diagnostics = [] →
      evaluateAll patterns context denials =
        ⟨!(evaluateAny patterns context members).holds, []⟩ := by
  match members, denials with
  | [], [] => exact fun _ => rfl
  | x :: xs, y :: ys =>
      intro hClean
      cases hHolds : (x.evaluate patterns context).holds with
      | true =>
          simp only [evaluateAny, hHolds, if_true] at hClean
          have hFirst :=
            evaluate_denied patterns context x y hDeny.1 hClean
          simp [evaluateAll, evaluateAny, hFirst, hHolds]
      | false =>
          simp only [evaluateAny, hHolds, Bool.false_eq_true,
            if_false, Verdict.after, List.append_eq_nil_iff]
            at hClean
          have hFirst :=
            evaluate_denied patterns context x y hDeny.1 hClean.1
          have hRest :=
            evaluateAny_denied patterns context xs ys hDeny.2 hClean.2
          simp [evaluateAll, evaluateAny, hFirst, hRest, hHolds,
            Verdict.after]

end

/- What is true of a condition and of another one that denies it. -/
structure Excludes
    (patterns : PatternLibrary)
    (context : Context)
    (condition denial : Condition) : Prop where
  never_both :
    ¬ ((condition.evaluate patterns context).holds = true ∧
      (denial.evaluate patterns context).holds = true)
  /- One of them holds, unless a test could not be carried out. -/
  complementary :
    (condition.evaluate patterns context).diagnostics = [] →
      Complementary patterns context condition denial

theorem Denies.excludes
    {condition denial : Condition}
    (hDenies : Denies condition denial)
    (patterns : PatternLibrary)
    (context : Context) :
    Excludes patterns context condition denial where
  never_both := by
    rw [holds_evaluate, holds_evaluate, ← Bool.and_eq_true,
      truth_denied patterns context condition denial hDenies]
    exact Bool.false_ne_true
  complementary hClean :=
    ⟨_, congrArg (Verdict.mk _) hClean,
      evaluate_denied patterns context condition denial hDenies
        hClean⟩

end Condition

end Automation
