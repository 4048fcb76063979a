import Automation.Proofs.Jobs

/-
  Jobs that no limit changes.

  The deadline cuts actions short and stops runs, and the limit on nested
  runs refuses actions.  A job is calm when nothing of this happens to it,
  or to any job that it starts.

  Key definitions include:
    * `Engine.HitsLimit`, the jobs that a limit changes
    * `Engine.Calm`, jobs that no limit changes at any depth

  Key theorems include:
    * `Engine.Calm.intro`, a job is as calm as those that it starts
    * `Engine.Calm.of_task` and `Engine.Calm.of_run`, calm executions
-/

namespace Automation

namespace Engine

------------------------------------------------------------
-- Jobs That Hit A Limit
------------------------------------------------------------

/- The jobs that a limit changes. -/
inductive HitsLimit
    (engine : Engine) :
    Job → Prop
  /- An action that the deadline cuts short. -/
  | timedOut
      {action : Action}
      {context : Context}
      {scope : Scope}
      {start : Nat}
      {steps : List Step}
      (hCut :
        cutSteps? scope.deadline
            (engine.execute engine.runBelow scope action context
              start).steps = some steps) :
      HitsLimit engine (.action action context scope start)
  /- An action that is refused, as its rule would run too deep. -/
  | refused
      {action : Action}
      {context : Context}
      {scope : Scope}
      {start maxDepth : Nat}
      {task : RuleTask}
      {id : String}
      (hTask :
        Task.ofConfig action.kind
          (filledConfig action context) = .ok (.rule task))
      (hRule :
        engine.chainedRule scope task.rule =
          .error (.chain (.tooDeep id maxDepth))) :
      HitsLimit engine (.execution action context scope start)
  /- An action whose rule is not done before the deadline. -/
  | overdue
      {action : Action}
      {context : Context}
      {scope : Scope}
      {start : Nat}
      {task : RuleTask}
      {rule : Rule}
      (hTask :
        Task.ofConfig action.kind
          (filledConfig action context) = .ok (.rule task))
      (hRule : engine.chainedRule scope task.rule = .ok rule)
      (hTime :
        (scope.child rule engine.settings.runTimeout
            start).deadline ≤
          finishOf start
            (engine.chainedRun scope rule task context
              start).steps) :
      HitsLimit engine (.execution action context scope start)
  /- A run that stops on its budget. -/
  | stopped
      {rule : Rule}
      {input : Document}
      {trigger : TriggerKind}
      {scope : Scope}
      {start : Nat}
      {outcome : RunOutcome}
      (hEnding :
        (engine.evaluateAndAct engine.runBelow rule
          (engine.freshContext rule input trigger) scope
          start).ending = .returned outcome)
      (hError : outcome.error? = some (budgetError scope)) :
      HitsLimit engine (.run rule input trigger scope start)

/- A job that no limit changes, nor any job that it starts. -/
def Calm
    (engine : Engine)
    (job : Job) : Prop :=
  ∀ inner, engine.Involves job inner → ¬ engine.HitsLimit inner

namespace Calm

variable {engine : Engine}
variable {job inner : Job}

theorem not_hitsLimit
    (hCalm : engine.Calm job) :
    ¬ engine.HitsLimit job :=
  hCalm job .refl

theorem of_starts
    (hCalm : engine.Calm job)
    (hStarts : engine.Starts job inner) :
    engine.Calm inner := by
  intro other hInvolves
  exact hCalm other (.head hStarts hInvolves)

/- A job is calm when it hits no limit and the jobs it starts are calm. -/
theorem intro
    (hLimit : ¬ engine.HitsLimit job)
    (hInner :
      ∀ inner, engine.Starts job inner → engine.Calm inner) :
    engine.Calm job := by
  intro other hInvolves
  rcases Relation.ReflTransGen.cases_head hInvolves with
    rfl | ⟨inner, hStarts, hRest⟩
  · exact hLimit
  · exact hInner inner hStarts other hRest

section Executions

variable {action : Action}
variable {context : Context}
variable {scope : Scope}
variable {start : Nat}

/- An execution that starts nothing is calm. -/
theorem of_task
    {task : Task}
    (hTask :
      Task.ofConfig action.kind
        (filledConfig action context) = .ok task)
    (hBranch : ∀ other, task ≠ .branch other)
    (hRule : ∀ other, task ≠ .rule other) :
    engine.Calm (.execution action context scope start) := by
  apply Calm.intro
  · intro hLimit
    cases hLimit with
    | refused hOther =>
        rw [hTask] at hOther
        exact hRule _ (Except.ok.inj hOther)
    | overdue hOther =>
        rw [hTask] at hOther
        exact hRule _ (Except.ok.inj hOther)
  · intro inner hStarts
    cases hStarts with
    | select hOther =>
        rw [hTask] at hOther
        exact absurd (Except.ok.inj hOther) (hBranch _)
    | chain hOther =>
        rw [hTask] at hOther
        exact absurd (Except.ok.inj hOther) (hRule _)

/- An execution that starts a rule is as calm as the run. -/
theorem of_run
    {task : RuleTask}
    {rule : Rule}
    (hTask :
      Task.ofConfig action.kind
        (filledConfig action context) = .ok (.rule task))
    (hRule : engine.chainedRule scope task.rule = .ok rule)
    (hTime :
      finishOf start
          (engine.chainedRun scope rule task context
            start).steps <
        (scope.child rule engine.settings.runTimeout
          start).deadline)
    (hRun :
      engine.Calm
        (.run rule (task.input?.getD context.input) .chained
          (scope.child rule engine.settings.runTimeout start)
          start)) :
    engine.Calm (.execution action context scope start) := by
  apply Calm.intro
  · intro hLimit
    cases hLimit with
    | refused hOther hFault =>
        rw [hTask] at hOther
        cases hOther
        rw [hRule] at hFault
        cases hFault
    | overdue hOther hFound hLate =>
        rw [hTask] at hOther
        cases hOther
        rw [hRule] at hFound
        cases hFound
        exact absurd hTime (Nat.not_lt_of_le hLate)
  · intro inner hStarts
    cases hStarts with
    | select hOther =>
        rw [hTask] at hOther
        cases hOther
    | chain hOther hFound =>
        rw [hTask] at hOther
        cases hOther
        rw [hRule] at hFound
        cases hFound
        exact hRun

/- An action that is not cut short is as calm as its execution. -/
theorem of_execution
    (hUncut :
      cutSteps? scope.deadline
        (engine.execute engine.runBelow scope action context
          start).steps = none)
    (hExecution :
      engine.Calm (.execution action context scope start)) :
    engine.Calm (.action action context scope start) := by
  apply Calm.intro
  · intro hLimit
    cases hLimit with
    | timedOut hCut =>
        rw [hUncut] at hCut
        cases hCut
  · intro inner hStarts
    cases hStarts with
    | carryOut => exact hExecution

end Executions

/- A run that returns without an error is as calm as its actions. -/
theorem of_actions
    {rule : Rule}
    {input : Document}
    {trigger : TriggerKind}
    {scope : Scope}
    {start : Nat}
    {outcome : RunOutcome}
    (hEnding :
      (engine.evaluateAndAct engine.runBelow rule
        (engine.freshContext rule input trigger) scope
        start).ending = .returned outcome)
    (hError : outcome.error? = none)
    (hInner :
      ∀ inner,
        engine.Starts (.run rule input trigger scope start)
            inner →
          engine.Calm inner) :
    engine.Calm (.run rule input trigger scope start) := by
  refine Calm.intro ?_ hInner
  intro hLimit
  cases hLimit with
  | stopped hOther hSome =>
      rw [hEnding] at hOther
      cases hOther
      rw [hError] at hSome
      cases hSome

end Calm

end Engine

end Automation
