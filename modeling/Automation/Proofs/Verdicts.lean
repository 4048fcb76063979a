import Automation.Proofs.Diagnostics
import Mathlib.Data.List.Lex

/-
  Verdicts of conditions.

  A condition is true as a formula is: a group without members is true,
  others are true as their members are, and a test that cannot be carried
  out is false.  Members are looked at from left to right, and only until
  the truth of their group is settled.  So the truth does not depend on
  the order of members, while the diagnostics are those of the tests that
  are come to, in the order in which they stand in the condition.

  Key definitions include:
    * `Condition.truth`, for which every member of a group counts
    * `Condition.Reordered`, conditions with their members rearranged
    * `Condition.ComesTo`, the places that are looked at
    * `Condition.evaluateInPlace`, which adds to a list of diagnostics
    * `Condition.Judges`, what a verdict says

  Key theorems include:
    * `Condition.holds_evaluate`, a verdict and the truth
    * `Condition.absorbed_inOrder`, diagnostics from left to right
    * `Condition.evaluate_judges`, the verdict of every condition
-/

namespace Automation

------------------------------------------------------------
-- Truth
------------------------------------------------------------

namespace Junction

/- The truth of a group, from the truth of each of its members. -/
def join : Junction → List Bool → Bool
  | .and, values => values.all id
  | .or, values => values.isEmpty || values.any id

theorem join_eq_of_perm
    {values others : List Bool}
    (hPerm : values.Perm others)
    (junction : Junction) :
    junction.join values = junction.join others := by
  cases junction with
  | and => exact hPerm.all_eq
  | or =>
      have hEmpty : values.isEmpty = others.isEmpty :=
        hPerm.isEmpty_eq
      rw [join, join, hEmpty, hPerm.any_eq]

end Junction

namespace Condition

mutual

/- The truth of a condition; a test that has a fault is false. -/
def truth
    (patterns : PatternLibrary)
    (context : Context) :
    Condition → Bool
  | .group junction members =>
      junction.join (truths patterns context members)
  | .test field comparison value =>
      match test? patterns context field (Comparison.ofName comparison)
          value with
      | .ok holds => holds
      | .error _ => false

def truths
    (patterns : PatternLibrary)
    (context : Context) :
    List Condition → List Bool
  | [] => []
  | x :: xs => truth patterns context x :: truths patterns context xs

end

variable {patterns : PatternLibrary}
variable {context : Context}
variable {junction : Junction}
variable {condition : Condition}
variable {members : List Condition}

theorem truths_eq_map
    (patterns : PatternLibrary)
    (context : Context)
    (members : List Condition) :
    truths patterns context members =
      members.map (truth patterns context) := by
  induction members with
  | nil => rfl
  | cons x xs ih => rw [truths, ih, List.map_cons]

mutual

/- A verdict holds just when the condition is true. -/
theorem holds_evaluate
    (patterns : PatternLibrary)
    (context : Context)
    (condition : Condition) :
    (condition.evaluate patterns context).holds =
      condition.truth patterns context := by
  cases condition with
  | test field comparison value =>
      rw [evaluate, truth]
      cases test? patterns context field (Comparison.ofName comparison)
          value <;>
        rfl
  | group junction members =>
      rw [truth]
      cases members with
      | nil => cases junction <;> rfl
      | cons x xs =>
          cases junction with
          | and => exact holds_evaluateAll patterns context (x :: xs)
          | or => exact holds_evaluateAny patterns context (x :: xs)

theorem holds_evaluateAll
    (patterns : PatternLibrary)
    (context : Context)
    (members : List Condition) :
    (evaluateAll patterns context members).holds =
      (truths patterns context members).all id := by
  cases members with
  | nil => rfl
  | cons x xs =>
      have hFirst := holds_evaluate patterns context x
      have hRest := holds_evaluateAll patterns context xs
      cases hHolds : (evaluate patterns context x).holds <;>
        simp [evaluateAll, truths, Verdict.after, hHolds,
          ← hFirst, hRest]

theorem holds_evaluateAny
    (patterns : PatternLibrary)
    (context : Context)
    (members : List Condition) :
    (evaluateAny patterns context members).holds =
      (truths patterns context members).any id := by
  cases members with
  | nil => rfl
  | cons x xs =>
      have hFirst := holds_evaluate patterns context x
      have hRest := holds_evaluateAny patterns context xs
      cases hHolds : (evaluate patterns context x).holds <;>
        simp [evaluateAny, truths, Verdict.after, hHolds,
          ← hFirst, hRest]

end

------------------------------------------------------------
-- The Order Of Members
------------------------------------------------------------

/-
  Conditions that differ in the order of the members of some groups, at
  any depth.
-/
inductive Reordered : Condition → Condition → Prop
  | members
      {junction : Junction}
      {members others : List Condition}
      (hPerm : members.Perm others) :
      Reordered (.group junction members) (.group junction others)
  | inside
      {junction : Junction}
      {before after : List Condition}
      {member other : Condition}
      (hMember : Reordered member other) :
      Reordered (.group junction (before ++ member :: after))
        (.group junction (before ++ other :: after))
  | trans
      {first second third : Condition}
      (hFirst : Reordered first second)
      (hSecond : Reordered second third) :
      Reordered first third

/- The order of members does not matter to the truth. -/
theorem Reordered.truth_eq
    {other : Condition}
    (hReordered : condition.Reordered other)
    (patterns : PatternLibrary)
    (context : Context) :
    other.truth patterns context =
      condition.truth patterns context := by
  induction hReordered with
  | members hPerm =>
      rw [truth, truth, truths_eq_map, truths_eq_map]
      exact Junction.join_eq_of_perm (hPerm.map _).symm _
  | inside _ ih =>
      rw [truth, truth, truths_eq_map, truths_eq_map,
        List.map_append, List.map_append, List.map_cons,
        List.map_cons, ih]
  | trans _ _ ihFirst ihSecond => exact ihSecond.trans ihFirst

------------------------------------------------------------
-- Places
------------------------------------------------------------

/-
  A place in a condition that is looked at, and what stands there.  A place
  is a list of positions, of a member in each group on the way.  A member
  is looked at when no member before it settles the truth of their group.
-/
inductive ComesTo
    (patterns : PatternLibrary)
    (context : Context) :
    Condition → List Nat → Condition → Prop
  | here
      {condition : Condition} :
      ComesTo patterns context condition [] condition
  | inside
      {junction : Junction}
      {before after : List Condition}
      {member inner : Condition}
      {place : List Nat}
      (hBefore :
        ∀ earlier ∈ before,
          earlier.truth patterns context = !junction.settledBy)
      (hInside : ComesTo patterns context member place inner) :
      ComesTo patterns context
        (.group junction (before ++ member :: after))
        (before.length :: place) inner

/- A place that is looked at, with a test that has a fault. -/
def FaultAt
    (patterns : PatternLibrary)
    (context : Context)
    (condition : Condition)
    (place : List Nat)
    (diagnostic : Diagnostic) : Prop :=
  ∃ inner,
    ComesTo patterns context condition place inner ∧
      inner.fault? patterns context = some diagnostic

/- The same for members of a group, whose positions start somewhere. -/
def FaultAmong
    (patterns : PatternLibrary)
    (context : Context)
    (junction : Junction)
    (position : Nat)
    (members : List Condition)
    (place : List Nat)
    (diagnostic : Diagnostic) : Prop :=
  ∃ before member after rest,
    members = before ++ member :: after ∧
      (∀ earlier ∈ before,
        earlier.truth patterns context = !junction.settledBy) ∧
      place = (position + before.length) :: rest ∧
      FaultAt patterns context member rest diagnostic

theorem faultAt_test_iff
    {field comparison : String}
    {value : Document}
    {place : List Nat}
    {diagnostic : Diagnostic} :
    FaultAt patterns context (.test field comparison value) place
        diagnostic ↔
      place = [] ∧
        fault? patterns context (.test field comparison value) =
          some diagnostic := by
  constructor
  · rintro ⟨inner, hComes, hFault⟩
    cases hComes
    exact ⟨rfl, hFault⟩
  · rintro ⟨rfl, hFault⟩
    exact ⟨_, .here, hFault⟩

theorem faultAt_group_iff
    {place : List Nat}
    {diagnostic : Diagnostic} :
    FaultAt patterns context (.group junction members) place
        diagnostic ↔
      FaultAmong patterns context junction 0 members place
        diagnostic := by
  constructor
  · rintro ⟨inner, hComes, hFault⟩
    cases hComes with
    | here => cases hFault
    | @inside _ before after member _ rest hBefore hInside =>
        exact
          ⟨before, member, after, rest, rfl, hBefore,
            by rw [Nat.zero_add], inner, hInside, hFault⟩
  · rintro ⟨before, member, after, rest, rfl, hBefore, rfl,
      inner, hInside, hFault⟩
    rw [Nat.zero_add]
    exact ⟨inner, .inside hBefore hInside, hFault⟩

/-
  The first member is looked at, and the others unless it settles the
  truth of the group.
-/
theorem faultAmong_cons_iff
    {position : Nat}
    {x : Condition}
    {xs : List Condition}
    {place : List Nat}
    {diagnostic : Diagnostic} :
    FaultAmong patterns context junction position (x :: xs) place
        diagnostic ↔
      (∃ rest,
          place = position :: rest ∧
            FaultAt patterns context x rest diagnostic) ∨
        (x.truth patterns context = !junction.settledBy ∧
          FaultAmong patterns context junction (position + 1) xs place
            diagnostic) := by
  constructor
  · rintro ⟨before, member, after, rest, hMembers, hBefore,
      rfl, hFault⟩
    cases before with
    | nil =>
        cases hMembers
        exact Or.inl ⟨rest, rfl, hFault⟩
    | cons first before =>
        cases hMembers
        have hFirst := hBefore x List.mem_cons_self
        have hOthers := fun earlier hEarlier =>
          hBefore earlier (List.mem_cons_of_mem _ hEarlier)
        refine Or.inr
          ⟨hFirst, before, member, after, rest, rfl, hOthers,
            ?_, hFault⟩
        rw [List.length_cons, Nat.add_assoc, Nat.add_comm 1]
  · rintro (⟨rest, rfl, hFault⟩ |
      ⟨hFirst, before, member, after, rest, rfl, hBefore,
        rfl, hFault⟩)
    · exact
        ⟨[], x, xs, rest, rfl, by simp, rfl, hFault⟩
    · refine
        ⟨x :: before, member, after, rest, rfl, ?_, ?_,
          hFault⟩
      · exact List.forall_mem_cons.mpr ⟨hFirst, hBefore⟩
      · rw [List.length_cons, Nat.add_assoc, Nat.add_comm 1]

------------------------------------------------------------
-- From Left To Right
------------------------------------------------------------

/- One diagnostic for each place that has one, from left to right. -/
def InOrder
    (faultAt : List Nat → Diagnostic → Prop)
    (diagnostics : List Diagnostic) : Prop :=
  ∃ places : List (List Nat),
    places.Pairwise (· < ·) ∧
      (∀ place,
        place ∈ places ↔ ∃ diagnostic, faultAt place diagnostic) ∧
      List.Forall₂ faultAt places diagnostics

namespace InOrder

variable {faultAt otherAt : List Nat → Diagnostic → Prop}
variable {diagnostics others : List Diagnostic}

theorem congr
    (hInOrder : InOrder faultAt diagnostics)
    (hSame :
      ∀ place diagnostic,
        otherAt place diagnostic ↔ faultAt place diagnostic) :
    InOrder otherAt diagnostics := by
  have hEq : otherAt = faultAt := by
    funext place diagnostic
    exact propext (hSame place diagnostic)
  exact hEq ▸ hInOrder

theorem none
    (hNone : ∀ place diagnostic, ¬ faultAt place diagnostic) :
    InOrder faultAt [] :=
  ⟨[], .nil, by simp [hNone], .nil⟩

/- What is in order in a member is so in its group. -/
theorem under
    (hInOrder : InOrder faultAt diagnostics)
    (position : Nat) :
    InOrder
      (fun place diagnostic =>
        ∃ rest, place = position :: rest ∧ faultAt rest diagnostic)
      diagnostics := by
  rcases hInOrder with ⟨places, hSorted, hPlaces, hFaults⟩
  refine ⟨places.map (position :: ·), ?_, ?_, ?_⟩
  · rw [List.pairwise_map]
    refine hSorted.imp fun hLess => ?_
    exact List.cons_lt_cons_iff.mpr (Or.inr ⟨rfl, hLess⟩)
  · intro place
    rw [List.mem_map]
    constructor
    · rintro ⟨rest, hRest, rfl⟩
      rcases (hPlaces rest).mp hRest with ⟨diagnostic, hFault⟩
      exact ⟨diagnostic, rest, rfl, hFault⟩
    · rintro ⟨diagnostic, rest, rfl, hFault⟩
      exact ⟨rest, (hPlaces rest).mpr ⟨diagnostic, hFault⟩, rfl⟩
  · rw [List.forall₂_map_left_iff]
    exact hFaults.imp fun rest diagnostic hFault =>
      ⟨rest, rfl, hFault⟩

/- What lies to the left comes first. -/
theorem append
    (hFirst : InOrder faultAt diagnostics)
    (hSecond : InOrder otherAt others)
    (hLeft :
      ∀ {place diagnostic other later},
        faultAt place diagnostic →
          otherAt other later → place < other) :
    InOrder
      (fun place diagnostic =>
        faultAt place diagnostic ∨ otherAt place diagnostic)
      (diagnostics ++ others) := by
  rcases hFirst with ⟨places, hSorted, hPlaces, hFaults⟩
  rcases hSecond with ⟨later, hLater, hOthers, hOtherFaults⟩
  refine ⟨places ++ later, ?_, ?_, ?_⟩
  · refine List.pairwise_append.mpr ⟨hSorted, hLater, ?_⟩
    intro place hPlace other hOther
    rcases (hPlaces place).mp hPlace with ⟨_, hFault⟩
    rcases (hOthers other).mp hOther with ⟨_, hOtherFault⟩
    exact hLeft hFault hOtherFault
  · intro place
    rw [List.mem_append, hPlaces, hOthers, exists_or]
  · exact List.rel_append
      (hFaults.imp fun _ _ => Or.inl)
      (hOtherFaults.imp fun _ _ => Or.inr)

end InOrder

mutual

/- The faults that are absorbed, each at its place. -/
theorem absorbed_inOrder
    (patterns : PatternLibrary)
    (context : Context)
    (condition : Condition) :
    InOrder (FaultAt patterns context condition)
      (condition.absorbed patterns context) := by
  cases condition with
  | test field comparison value =>
      refine InOrder.congr ?_ fun _ _ => faultAt_test_iff
      cases hFault :
          fault? patterns context (.test field comparison value) with
      | none =>
          simpa [absorbed, lookedAt, hFault]
            using InOrder.none (by simp)
      | some diagnostic =>
          simp only [absorbed, lookedAt, List.filterMap_cons,
            hFault, List.filterMap_nil]
          exact ⟨[[]], by simp, by simp, by simp⟩
  | group junction members =>
      refine InOrder.congr ?_ fun _ _ => faultAt_group_iff
      exact absorbedUntil_inOrder patterns context junction 0 members

theorem absorbedUntil_inOrder
    (patterns : PatternLibrary)
    (context : Context)
    (junction : Junction)
    (position : Nat)
    (members : List Condition) :
    InOrder (FaultAmong patterns context junction position members)
      ((lookedAtUntil patterns context junction.settledBy
        members).filterMap (fault? patterns context)) := by
  cases members with
  | nil =>
      apply InOrder.none
      rintro place diagnostic ⟨before, member, _, _, hNil, _⟩
      simp at hNil
  | cons x xs =>
      have hFirst :=
        (absorbed_inOrder patterns context x).under position
      rw [lookedAtUntil, List.filterMap_append,
        holds_evaluate]
      split
      · rename_i hSettled
        rw [List.filterMap_nil, List.append_nil]
        refine hFirst.congr fun place diagnostic => ?_
        rw [faultAmong_cons_iff]
        simp [hSettled]
      · rename_i hSettled
        have hRest :=
          absorbedUntil_inOrder patterns context junction
            (position + 1) xs
        refine (hFirst.append hRest ?_).congr fun _ _ => ?_
        · rintro place diagnostic other later
            ⟨rest, rfl, _⟩ ⟨before, _, _, _, _, _, rfl, _⟩
          apply List.cons_lt_cons_iff.mpr
          exact Or.inl (by omega)
        · rw [faultAmong_cons_iff]
          simp [Bool.eq_not.mpr hSettled]

end

------------------------------------------------------------
-- Evaluation In Place
------------------------------------------------------------

mutual

/-
  The evaluation with the context and the diagnostics so far at hand, to
  which each fault is added when it is met.
-/
def evaluateInPlace
    (patterns : PatternLibrary) :
    Condition → StateM (Context × List Diagnostic) Bool
  | .group _ [] => return true
  | .group .and (x :: xs) => allInPlace patterns (x :: xs)
  | .group .or (x :: xs) => anyInPlace patterns (x :: xs)
  | .test field comparison value => do
      let (context, diagnostics) ← get
      match test? patterns context field (Comparison.ofName comparison)
          value with
      | .ok holds => return holds
      | .error fault =>
          set
            (context,
              diagnostics ++ [⟨field, comparison, fault.message⟩])
          return false

def allInPlace
    (patterns : PatternLibrary) :
    List Condition → StateM (Context × List Diagnostic) Bool
  | [] => return true
  | x :: xs => do
      if ← evaluateInPlace patterns x then allInPlace patterns xs
      else return false

def anyInPlace
    (patterns : PatternLibrary) :
    List Condition → StateM (Context × List Diagnostic) Bool
  | [] => return false
  | x :: xs => do
      if ← evaluateInPlace patterns x then return true
      else anyInPlace patterns xs

end

/- A verdict is given on a context, which is left as it was. -/
def LeavesVerdict
    (context : Context)
    (work : StateM (Context × List Diagnostic) Bool)
    (verdict : Verdict) : Prop :=
  ∀ earlier,
    (work.run (context, earlier)).run =
      (verdict.holds, (context, earlier ++ verdict.diagnostics))

mutual

theorem evaluateInPlace_leaves
    (patterns : PatternLibrary)
    (context : Context)
    (condition : Condition) :
    LeavesVerdict context (condition.evaluateInPlace patterns)
      (condition.evaluate patterns context) := by
  intro earlier
  cases condition with
  | test field comparison value =>
      cases hTest :
          test? patterns context field (Comparison.ofName comparison)
            value <;>
        simp [evaluateInPlace, evaluate, Verdict.ofTest, hTest]
  | group junction members =>
      cases members with
      | nil => simp [evaluateInPlace, evaluate]
      | cons x xs =>
          cases junction with
          | and =>
              exact allInPlace_leaves patterns context (x :: xs) earlier
          | or =>
              exact anyInPlace_leaves patterns context (x :: xs) earlier

theorem allInPlace_leaves
    (patterns : PatternLibrary)
    (context : Context)
    (members : List Condition) :
    LeavesVerdict context (allInPlace patterns members)
      (evaluateAll patterns context members) := by
  intro earlier
  cases members with
  | nil => simp [allInPlace, evaluateAll]
  | cons x xs =>
      have hFirst := evaluateInPlace_leaves patterns context x earlier
      have hRest := allInPlace_leaves patterns context xs
      cases hHolds : (evaluate patterns context x).holds <;>
        simp [allInPlace, evaluateAll, Verdict.after, hFirst,
          hRest _, hHolds]

theorem anyInPlace_leaves
    (patterns : PatternLibrary)
    (context : Context)
    (members : List Condition) :
    LeavesVerdict context (anyInPlace patterns members)
      (evaluateAny patterns context members) := by
  intro earlier
  cases members with
  | nil => simp [anyInPlace, evaluateAny]
  | cons x xs =>
      have hFirst := evaluateInPlace_leaves patterns context x earlier
      have hRest := anyInPlace_leaves patterns context xs
      cases hHolds : (evaluate patterns context x).holds <;>
        simp [anyInPlace, evaluateAny, Verdict.after, hFirst,
          hRest _, hHolds]

end

------------------------------------------------------------
-- What A Verdict Says
------------------------------------------------------------

/-
  A verdict tells the truth, in whatever order members stand.  It has one
  diagnostic for each fault that is come to, from left to right, and the
  context is left as it was.
-/
structure Judges
    (patterns : PatternLibrary)
    (context : Context)
    (condition : Condition)
    (verdict : Verdict) : Prop where
  holds_eq : verdict.holds = condition.truth patterns context
  reordered :
    ∀ other,
      condition.Reordered other →
        (other.evaluate patterns context).holds = verdict.holds
  inOrder :
    InOrder (FaultAt patterns context condition)
      verdict.diagnostics
  leaves :
    LeavesVerdict context (condition.evaluateInPlace patterns) verdict

theorem evaluate_judges
    (patterns : PatternLibrary)
    (context : Context)
    (condition : Condition) :
    Judges patterns context condition
      (condition.evaluate patterns context) := by
  constructor
  case holds_eq => exact holds_evaluate patterns context condition
  case reordered =>
    intro other hReordered
    rw [holds_evaluate, holds_evaluate,
      hReordered.truth_eq patterns context]
  case inOrder =>
    rw [diagnostics_evaluate]
    exact absorbed_inOrder patterns context condition
  case leaves => exact evaluateInPlace_leaves patterns context condition

end Condition

end Automation
