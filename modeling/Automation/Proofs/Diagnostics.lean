import Automation.Proofs.Containment
import Mathlib.Data.List.Perm.Subperm

/-
  Tests that could not be carried out.

  A test that cannot be carried out counts as one that does not hold, and
  its fault is kept as a diagnostic.  A run reports the diagnostics of the
  condition of its rule.  The conditions of its branches have diagnostics
  too, but a branch only takes up the verdict: what it absorbs is in no
  report.

  Key definitions include:
    * `Condition.absorbed`, the faults of the tests that are looked at
    * `Engine.absorbedInside`, those of the branches of a run
    * `Engine.EvaluatesInside`, the conditions of these branches
    * `Engine.ReportsAbsorbed`, what a report has of all of them

  Key theorems include:
    * `Condition.diagnostics_evaluate`, the diagnostics of one condition
    * `Engine.absorbedInside_eq_nil_iff`, the diagnostics of the branches
    * `Engine.runWithin_reportsAbsorbed`, the diagnostics of a run
-/

namespace Automation

------------------------------------------------------------
-- Tests That Are Looked At
------------------------------------------------------------

/- The verdict on a member that settles the verdict of its group. -/
def Junction.settledBy : Junction → Bool
  | .and => false
  | .or => true

namespace Condition

mutual

/- The tests of a condition that are looked at, in order. -/
def lookedAt
    (patterns : PatternLibrary)
    (context : Context) :
    Condition → List Condition
  | .test field comparison value =>
      [.test field comparison value]
  | .group junction members =>
      lookedAtUntil patterns context junction.settledBy members

/- Those of the members up to the first with the given verdict. -/
def lookedAtUntil
    (patterns : PatternLibrary)
    (context : Context)
    (settled : Bool) :
    List Condition → List Condition
  | [] => []
  | x :: xs =>
      lookedAt patterns context x ++
        if (evaluate patterns context x).holds = settled then []
        else lookedAtUntil patterns context settled xs

end

/- The fault of a test, if it cannot be carried out. -/
def fault?
    (patterns : PatternLibrary)
    (context : Context) :
    Condition → Option Diagnostic
  | .test field comparison value =>
      match test? patterns context field
          (Comparison.ofName comparison) value with
      | .ok _ => none
      | .error fault => some ⟨field, comparison, fault.message⟩
  | .group _ _ => none

/- The faults that are absorbed when a condition is evaluated. -/
def absorbed
    (patterns : PatternLibrary)
    (context : Context)
    (condition : Condition) :
    List Diagnostic :=
  (condition.lookedAt patterns context).filterMap
    (fault? patterns context)

mutual

/- The diagnostics of a condition are the faults of its tests. -/
theorem diagnostics_evaluate
    (patterns : PatternLibrary)
    (context : Context)
    (condition : Condition) :
    (condition.evaluate patterns context).diagnostics =
      condition.absorbed patterns context := by
  cases condition with
  | test field comparison value =>
      cases hTest :
          test? patterns context field
            (Comparison.ofName comparison) value <;>
        simp [evaluate, absorbed, lookedAt, fault?,
          Verdict.ofTest, hTest]
  | group junction members =>
      cases members with
      | nil => rfl
      | cons x xs =>
          cases junction with
          | and =>
              exact
                diagnostics_evaluateAll patterns context (x :: xs)
          | or =>
              exact
                diagnostics_evaluateAny patterns context (x :: xs)

theorem diagnostics_evaluateAll
    (patterns : PatternLibrary)
    (context : Context)
    (members : List Condition) :
    (evaluateAll patterns context members).diagnostics =
      (lookedAtUntil patterns context false members).filterMap
        (fault? patterns context) := by
  cases members with
  | nil => rfl
  | cons x xs =>
      have hFirst := diagnostics_evaluate patterns context x
      have hRest := diagnostics_evaluateAll patterns context xs
      cases hHolds : (evaluate patterns context x).holds <;>
        simp [evaluateAll, lookedAtUntil, Verdict.after,
          absorbed, hHolds, hFirst, hRest]

theorem diagnostics_evaluateAny
    (patterns : PatternLibrary)
    (context : Context)
    (members : List Condition) :
    (evaluateAny patterns context members).diagnostics =
      (lookedAtUntil patterns context true members).filterMap
        (fault? patterns context) := by
  cases members with
  | nil => rfl
  | cons x xs =>
      have hFirst := diagnostics_evaluate patterns context x
      have hRest := diagnostics_evaluateAny patterns context xs
      cases hHolds : (evaluate patterns context x).holds <;>
        simp [evaluateAny, lookedAtUntil, Verdict.after,
          absorbed, hHolds, hFirst, hRest]

end

end Condition

namespace Engine

------------------------------------------------------------
-- What Branches Absorb
------------------------------------------------------------

/- The faults that an action absorbs, and the actions it selects. -/
def absorbedWithin
    (patterns : PatternLibrary)
    (context : Context) :
    Nat → Action → List Diagnostic
  | 0, _ => []
  | depth + 1, action =>
      match Task.ofConfig action.kind
          (filledConfig action context) with
      | .ok (.branch task) =>
          task.condition.absorbed patterns context ++
            match task.selected? patterns context with
            | some chosen => absorbedWithin patterns context depth chosen
            | none => []
      | _ => []

/- The depth of a configuration bounds the nesting of its branches. -/
def absorbedBy
    (patterns : PatternLibrary)
    (context : Context)
    (action : Action) :
    List Diagnostic :=
  absorbedWithin patterns context (action.config.depth + 1) action

/- An action evaluates a condition, as a branch or inside its branches. -/
def Poses
    (patterns : PatternLibrary)
    (context : Context)
    (action : Action)
    (condition : Condition) : Prop :=
  ∃ outer last task,
    Leads patterns context outer action last ∧
      Task.ofConfig last.kind (filledConfig last context) =
        .ok (.branch task) ∧
      condition = task.condition

/- The faults of actions in order, as far as they are carried out. -/
def absorbedInOrder
    (patterns : PatternLibrary)
    (dispatch :
      Action → Context → Activity (ActionResult × Context))
    (scope : Scope) :
    List Action → Context → Nat → List Diagnostic
  | [], _, _ => []
  | action :: rest, context, start =>
      if scope.deadline ≤ start then []
      else
        absorbedBy patterns context action ++
          match (dispatch action context start).ending with
          | .crashed _ => []
          | .returned (result, left) =>
              if halts action result then []
              else
                absorbedInOrder patterns dispatch scope rest left
                  (finishOf start
                    (dispatch action context start).steps)

/- The faults that the branches of a run absorb. -/
def absorbedInside
    (engine : Engine)
    (runChild : RunChild)
    (rule : Rule)
    (context : Context)
    (scope : Scope)
    (start : Nat) :
    List Diagnostic :=
  if (rule.logic.condition.evaluate engine.patterns context).holds then
    match rule.mode with
    | .sequential =>
        absorbedInOrder engine.patterns
          (engine.dispatch runChild scope) scope rule.logic.actions
          context start
    | .parallel =>
        rule.logic.actions.flatMap
          (absorbedBy engine.patterns context)
  else []

/- The faults that a run absorbs, be it for its rule or in a branch. -/
def absorbedIn
    (engine : Engine)
    (runChild : RunChild)
    (rule : Rule)
    (context : Context)
    (scope : Scope)
    (start : Nat) :
    List Diagnostic :=
  rule.logic.condition.absorbed engine.patterns context ++
    engine.absorbedInside runChild rule context scope start

/-
  A run evaluates the condition of a branch on a context: that of an action
  it comes to in order, or that of any action side by side.
-/
inductive EvaluatesInside
    (engine : Engine)
    (runChild : RunChild)
    (rule : Rule)
    (context : Context)
    (scope : Scope)
    (start : Nat) :
    Condition → Context → Prop
  | inOrder
      {action : Action}
      {condition : Condition}
      {left : Context}
      {time : Nat}
      (hHolds :
        (rule.logic.condition.evaluate engine.patterns
          context).holds = true)
      (hMode : rule.mode = .sequential)
      (hReaches :
        Reaches (engine.dispatch runChild scope) scope context
          start rule.logic.actions action left time)
      (hPoses : Poses engine.patterns left action condition) :
      EvaluatesInside engine runChild rule context scope start
        condition left
  | sideBySide
      {action : Action}
      {condition : Condition}
      (hHolds :
        (rule.logic.condition.evaluate engine.patterns
          context).holds = true)
      (hMode : rule.mode = .parallel)
      (hAction : action ∈ rule.logic.actions)
      (hPoses : Poses engine.patterns context action condition) :
      EvaluatesInside engine runChild rule context scope start
        condition context

variable {dispatch :
  Action → Context → Activity (ActionResult × Context)}
variable {patterns : PatternLibrary}
variable {engine : Engine}
variable {runChild : RunChild}
variable {scope : Scope}
variable {rule : Rule}
variable {context : Context}
variable {action : Action}
variable {start : Nat}

theorem Poses.of_task
    {task : BranchTask}
    (hTask :
      Task.ofConfig action.kind
        (filledConfig action context) = .ok (.branch task)) :
    Poses patterns context action task.condition :=
  ⟨[], action, task, .here, hTask, rfl⟩

theorem Poses.of_selected
    {task : BranchTask}
    {chosen : Action}
    {condition : Condition}
    (hTask :
      Task.ofConfig action.kind
        (filledConfig action context) = .ok (.branch task))
    (hSelected : task.selected? patterns context = some chosen)
    (hPoses : Poses patterns context chosen condition) :
    Poses patterns context action condition := by
  rcases hPoses with ⟨outer, last, inner, hLeads, hInner⟩
  exact ⟨_, last, inner, .into hTask hSelected hLeads, hInner⟩

/- A branch poses its own condition, and what its action poses. -/
theorem poses_iff
    {task : BranchTask}
    {condition : Condition}
    (hTask :
      Task.ofConfig action.kind
        (filledConfig action context) = .ok (.branch task)) :
    Poses patterns context action condition ↔
      condition = task.condition ∨
        ∃ chosen,
          task.selected? patterns context = some chosen ∧
            Poses patterns context chosen condition := by
  constructor
  · rintro ⟨outer, last, inner, hLeads, hInner, rfl⟩
    cases hLeads with
    | here =>
        rw [hTask] at hInner
        cases hInner
        exact Or.inl rfl
    | @into _ chosen _ other _ hOther hSelected hRest =>
        rw [hTask] at hOther
        cases hOther
        exact Or.inr
          ⟨chosen, hSelected, _, last, inner, hRest, hInner, rfl⟩
  · rintro (rfl | ⟨chosen, hSelected, hPoses⟩)
    · exact .of_task hTask
    · exact hPoses.of_selected hTask hSelected

/- An action that is not a branch poses no condition. -/
theorem not_poses
    {condition : Condition}
    (hTask :
      ∀ task,
        Task.ofConfig action.kind
          (filledConfig action context) ≠ .ok (.branch task)) :
    ¬ Poses patterns context action condition := by
  rintro ⟨outer, last, inner, hLeads, hInner, _⟩
  cases hLeads with
  | here => exact hTask inner hInner
  | into hOther => exact hTask _ hOther

theorem absorbedWithin_of_branch
    {task : BranchTask}
    (depth : Nat)
    (hTask :
      Task.ofConfig action.kind
        (filledConfig action context) = .ok (.branch task)) :
    absorbedWithin patterns context (depth + 1) action =
      task.condition.absorbed patterns context ++
        match task.selected? patterns context with
        | some chosen => absorbedWithin patterns context depth chosen
        | none => [] := by
  simp only [absorbedWithin, hTask]

theorem absorbedWithin_of_other
    (depth : Nat)
    (hTask :
      ∀ task,
        Task.ofConfig action.kind
          (filledConfig action context) ≠ .ok (.branch task)) :
    absorbedWithin patterns context depth action = [] := by
  cases depth with
  | zero => rfl
  | succ depth =>
      unfold absorbedWithin
      split
      · rename_i task hOther
        exact absurd hOther (hTask task)
      · rfl

/- An action absorbs nothing if no condition does that it poses. -/
theorem absorbedWithin_eq_nil_iff
    {depth : Nat}
    (hDepth : action.config.depth < depth) :
    absorbedWithin patterns context depth action = [] ↔
      ∀ condition,
        Poses patterns context action condition →
          condition.absorbed patterns context = [] := by
  induction depth generalizing action with
  | zero => exact absurd hDepth (Nat.not_lt_zero _)
  | succ depth ih =>
      by_cases hBranch :
          ∃ task,
            Task.ofConfig action.kind
              (filledConfig action context) = .ok (.branch task)
      · rcases hBranch with ⟨task, hTask⟩
        rw [absorbedWithin_of_branch depth hTask,
          List.append_eq_nil_iff]
        simp only [poses_iff hTask]
        cases hSelected : task.selected? patterns context with
        | none => simp
        | some chosen =>
            have hLess :=
              BranchTask.depth_of_selected? hTask hSelected
            rw [depth_filledConfig] at hLess
            have hChosen := @ih chosen (by omega)
            dsimp only
            rw [hChosen]
            constructor
            · rintro ⟨hOwn, hInner⟩ condition
                (rfl | ⟨other, hOther, hPoses⟩)
              · exact hOwn
              · cases hOther
                exact hInner condition hPoses
            · intro hAll
              refine ⟨hAll _ (Or.inl rfl), ?_⟩
              intro condition hPoses
              exact hAll condition (Or.inr ⟨_, rfl, hPoses⟩)
      · have hTask := not_exists.mp hBranch
        rw [absorbedWithin_of_other _ hTask]
        simp [not_poses hTask]

theorem absorbedBy_eq_nil_iff :
    absorbedBy patterns context action = [] ↔
      ∀ condition,
        Poses patterns context action condition →
          condition.absorbed patterns context = [] :=
  absorbedWithin_eq_nil_iff (Nat.lt_succ_self _)

------------------------------------------------------------
-- What Actions In Order Absorb
------------------------------------------------------------

theorem absorbedInOrder_eq_nil_iff
    {actions : List Action} :
    absorbedInOrder patterns dispatch scope actions context start =
        [] ↔
      ∀ action left time,
        Reaches dispatch scope context start actions action left
            time →
          absorbedBy patterns left action = [] := by
  induction actions generalizing context start with
  | nil =>
      refine ⟨fun _ _ _ _ hReaches => ?_, fun _ => rfl⟩
      exact absurd hReaches not_reaches_nil
  | cons action rest ih =>
      unfold absorbedInOrder
      by_cases hTime : scope.deadline ≤ start
      · rw [if_pos hTime]
        refine ⟨fun _ other left time hReaches => ?_,
          fun _ => rfl⟩
        have hEarly := (reaches_cons_iff.mp hReaches).1
        exact absurd hTime (Nat.not_le_of_lt hEarly)
      · have hEarly := Nat.lt_of_not_le hTime
        rw [if_neg hTime, List.append_eq_nil_iff]
        constructor
        · rintro ⟨hFirst, hRest⟩ other left time hReaches
          rcases (reaches_cons_iff.mp hReaches).2 with
            ⟨rfl, rfl, rfl⟩ |
              ⟨result, after, hEnding, hResult, hLater⟩
          · exact hFirst
          · simp only [hEnding, hResult, Bool.false_eq_true,
              if_false] at hRest
            exact ih.mp hRest other left time hLater
        · intro hAll
          refine ⟨hAll _ _ _ (.here hEarly), ?_⟩
          cases hEnding :
              (dispatch action context start).ending with
          | crashed crash => rfl
          | returned finished =>
              rcases finished with ⟨result, after⟩
              dsimp only
              split
              · rfl
              · rename_i hResult
                apply ih.mpr
                intro other left time hLater
                exact hAll other left time
                  (.later hEarly hEnding
                    (eq_false_of_ne_true hResult) hLater)

------------------------------------------------------------
-- What Runs Absorb
------------------------------------------------------------

/- The branches of a run absorb nothing if no condition does of theirs. -/
theorem absorbedInside_eq_nil_iff :
    engine.absorbedInside runChild rule context scope start =
        [] ↔
      ∀ condition left,
        engine.EvaluatesInside runChild rule context scope start
            condition left →
          condition.absorbed engine.patterns left = [] := by
  unfold absorbedInside
  cases hHolds :
      (rule.logic.condition.evaluate engine.patterns context).holds with
  | false =>
      refine ⟨fun _ condition left hInside => ?_, fun _ => rfl⟩
      cases hInside with
      | inOrder hOther =>
          rw [hHolds] at hOther
          cases hOther
      | sideBySide hOther =>
          rw [hHolds] at hOther
          cases hOther
  | true =>
      rw [if_pos rfl]
      cases hMode : rule.mode with
      | sequential =>
          dsimp only
          rw [absorbedInOrder_eq_nil_iff]
          simp only [absorbedBy_eq_nil_iff]
          constructor
          · intro hAll condition left hInside
            cases hInside with
            | inOrder _ _ hReaches hPoses =>
                exact hAll _ _ _ hReaches condition hPoses
            | sideBySide _ hOther =>
                rw [hMode] at hOther
                cases hOther
          · intro hAll action left time hReaches condition
              hPoses
            exact hAll condition left
              (.inOrder hHolds hMode hReaches hPoses)
      | parallel =>
          dsimp only
          rw [List.flatMap_eq_nil_iff]
          simp only [absorbedBy_eq_nil_iff]
          constructor
          · intro hAll condition left hInside
            cases hInside with
            | inOrder _ hOther =>
                rw [hMode] at hOther
                cases hOther
            | sideBySide _ _ hAction hPoses =>
                exact hAll _ hAction condition hPoses
          · intro hAll action hAction condition hPoses
            exact hAll condition context
              (.sideBySide hHolds hMode hAction hPoses)

/-
  What a report has of the faults that its run absorbs: those of the rule,
  in order.  It has an entry for each fault only if there are no others.
-/
structure ReportsAbsorbed
    (engine : Engine)
    (runChild : RunChild)
    (rule : Rule)
    (context : Context)
    (scope : Scope)
    (start : Nat)
    (report : Report) : Prop where
  diagnostics_eq :
    report.diagnostics =
      (rule.logic.condition.absorbed engine.patterns context).map (·.text)
  complete_iff :
    List.Subperm
        ((engine.absorbedIn runChild rule context scope
          start).map (·.text))
        report.diagnostics ↔
      ∀ condition left,
        engine.EvaluatesInside runChild rule context scope start
            condition left →
          condition.absorbed engine.patterns left = []

theorem reportsAbsorbed_of_diagnostics
    {report : Report}
    (hDiagnostics :
      report.diagnostics =
        (rule.logic.condition.absorbed engine.patterns
          context).map (·.text)) :
    engine.ReportsAbsorbed runChild rule context scope start
      report := by
  refine ⟨hDiagnostics, ?_⟩
  rw [← absorbedInside_eq_nil_iff, hDiagnostics, absorbedIn,
    List.map_append]
  constructor
  · intro hSubperm
    have hLength := hSubperm.length_le
    rw [List.length_append, List.length_map] at hLength
    apply List.length_eq_zero_iff.mp
    rw [List.length_map] at hLength
    omega
  · intro hNone
    rw [hNone, List.map_nil, List.append_nil]

/-
  However the actions of a run end, its diagnostics are those of the rule.
-/
theorem evaluateAndAct_diagnostics
    {outcome : RunOutcome}
    (hEnding :
      (engine.evaluateAndAct runChild rule context scope
        start).ending = .returned outcome) :
    outcome.diagnostics =
      (rule.logic.condition.absorbed engine.patterns
        context).map (·.text) := by
  rw [← Condition.diagnostics_evaluate]
  cases hHolds :
      (rule.logic.condition.evaluate engine.patterns context).holds with
  | false =>
      rw [evaluateAndAct_of_unmet hHolds] at hEnding
      cases hEnding
      rfl
  | true =>
      cases hMode : rule.mode with
      | sequential =>
          rw [evaluateAndAct_of_sequential hMode hHolds]
            at hEnding
          rcases Activity.returned_of_andThen_done hEnding with
            ⟨later, _, rfl⟩
          rfl
      | parallel =>
          rw [evaluateAndAct_of_parallel hMode hHolds] at hEnding
          rcases Activity.returned_of_andThen_done hEnding with
            ⟨results, _, rfl⟩
          rfl

/-
  A run that does not crash reports the faults that it absorbs for its
  rule, and none that a branch absorbs, however deep it lies.
-/
theorem runWithin_reportsAbsorbed
    {input : Document}
    {trigger : TriggerKind}
    (hCalm :
      ∀ crash,
        (engine.evaluateAndAct runChild rule
          (engine.freshContext rule input trigger) scope
          start).ending ≠ .crashed crash) :
    ∃ report,
      (engine.runWithin runChild rule input trigger scope
          start).ending = .returned report ∧
        engine.ReportsAbsorbed runChild rule
          (engine.freshContext rule input trigger) scope start
          report := by
  cases hEnding :
      (engine.evaluateAndAct runChild rule
        (engine.freshContext rule input trigger) scope
        start).ending with
  | crashed crash => exact absurd hEnding (hCalm crash)
  | returned outcome =>
      rw [runWithin_of_returned hEnding]
      exact
        ⟨_, rfl,
          reportsAbsorbed_of_diagnostics
            (evaluateAndAct_diagnostics hEnding)⟩

/- A test of an amount, which an empty input does not have. -/
def largeAmount : Document :=
  .object
    [("field", .text "input.amount"),
    ("operator", .text "greater_than"),
    ("type", .text "condition"),
    ("value", .integer 1)]

/- A branch on the amount, with nothing to do. -/
def looksAtAmount : Action :=
  ⟨"look", "conditional-action",
    .object [("condition", largeAmount)], .stop, none⟩

def lookingRule : Rule :=
  ruleOf "looking" .sequential [looksAtAmount]

def lookingScope : Scope := .root lookingRule 5000 0

def lookingContext : Context :=
  offline.freshContext lookingRule (.object []) .manual

theorem looking_run_reportsAbsorbed :
    ∃ report,
      (offline.runWithin offline.runBelow lookingRule
          (.object []) .manual lookingScope 0).ending =
          .returned report ∧
        report.results.map (·.error?) = [none] ∧
        offline.ReportsAbsorbed offline.runBelow lookingRule
          lookingContext lookingScope 0 report := by
  have hReport :
      ∃ report,
        (offline.runWithin offline.runBelow lookingRule
            (.object []) .manual lookingScope 0).ending =
            .returned report ∧
          report.results.map (·.error?) = [none] :=
    ⟨_, rfl, rfl⟩
  have hCalm :
      ∀ crash,
        (offline.evaluateAndAct offline.runBelow lookingRule
          lookingContext lookingScope 0).ending ≠
            .crashed crash := by
    intro crash hCrash
    cases hCrash
  rcases hReport with ⟨report, hReport, hErrors⟩
  rcases runWithin_reportsAbsorbed hCalm with
    ⟨other, hOther, hAbsorbed⟩
  rw [hReport] at hOther
  cases hOther
  exact ⟨report, hReport, hErrors, hAbsorbed⟩

/- The branch goes on as if the amount were small, and nothing says why. -/
theorem looking_run_loses_fault :
    ∃ activity report,
      offline.run lookingRule (.object []) .manual =
          .ok activity ∧
        (activity 0).ending = .returned report ∧
        report.diagnostics = [] ∧
        (offline.absorbedIn offline.runBelow lookingRule
          lookingContext lookingScope 0).map (·.text) =
            ["input.amount greater_than: " ++
              "field not found: input.amount"] :=
  ⟨_, _, rfl, rfl, rfl, rfl⟩

end Engine

end Automation
