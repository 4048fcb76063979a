import Automation.Proofs.Limits
import Automation.Proofs.Schedules

/-
  Being over in time, directly and through a chain.

  An action that is carried out directly may be over at the very deadline.
  A run that another run starts may not: it counts only when it is over
  before, although nothing in it has run out of time.  A job below a run
  has the deadline of the run, and a run that is over before it has no job
  below that is late.  So what is late below is late all the way up.

  Key definitions include:
    * `Engine.RunsOut`, jobs that run out of time
    * `Engine.InTime`, jobs below which nothing runs out of time
    * `Engine.Counts`, a result that takes up the report of a run
    * `Engine.Punctuality`, when a run counts for its action

  Key theorems include:
    * `Engine.Starts.finish_le`, jobs are over by the end of their job
    * `Engine.Involves.not_late`, nothing is late below what is not
    * `Engine.inTime_of_not_late`, nothing runs out of time unless late
    * `Engine.dispatch_of_direct`, direct actions that are over in time
    * `Engine.punctuality`
-/

namespace Automation

/- The wait for one answer is not ended by a deadline that it meets. -/
theorem Activity.Brief.cutSteps?_eq_none
    {α : Type}
    {activity : Activity α}
    {start deadline : Nat}
    (hBrief : Brief start start activity)
    (hFinish : finishOf start (activity start).steps ≤ deadline) :
    cutSteps? deadline (activity start).steps = none := by
  cases hBrief with
  | done a => rfl
  | call call hAgree f =>
      rw [andThen_done_steps] at hFinish ⊢
      rw [finishOf_perform] at hFinish
      exact
        (cutSteps?_perform_eq_none_iff _ _ _ _).mpr (.inr hFinish)

namespace Engine

variable {engine : Engine}
variable {outer inner job : Job}

------------------------------------------------------------
-- The End Of A Job
------------------------------------------------------------

/- The time at which a job is over. -/
def finish
    (engine : Engine)
    (job : Job) :
    Nat :=
  finishOf job.start (engine.stepsOf job)

/- A job without more time left than a whole budget. -/
def IsBudgeted
    (engine : Engine)
    (job : Job) : Prop :=
  job.scope.deadline ≤ job.start + engine.settings.runTimeout

theorem finish_run
    (engine : Engine)
    (rule : Rule)
    (input : Document)
    (trigger : TriggerKind)
    (scope : Scope)
    (start : Nat) :
    engine.finish (.run rule input trigger scope start) =
      finishOf start
        (engine.evaluateAndAct engine.runBelow rule
          (engine.freshContext rule input trigger) scope
          start).steps := by
  rcases runWithin_apply rule input trigger start with
    ⟨report, hRun⟩
  exact congrArg (finishOf start ·.steps) hRun

section Sequence

variable {dispatch :
  Action → Context → Activity (ActionResult × Context)}
variable {scope : Scope}
variable {context left : Context}
variable {actions : List Action}
variable {action : Action}
variable {start time : Nat}

/- A sequence is over no earlier than its first action. -/
theorem le_finishOf_runSequential
    (hForward :
      ∀ action context start,
        start ≤ finishOf start (dispatch action context start).steps)
    (actions : List Action)
    (context : Context)
    (start : Nat) :
    start ≤
      finishOf start
        (runSequential dispatch scope actions context
          start).steps := by
  induction actions generalizing context start with
  | nil => exact Nat.le_refl _
  | cons action rest ih =>
      rw [runSequential_cons]
      split
      · exact Nat.le_refl _
      · rcases Activity.andThen_steps (dispatch action context) _
            start with
          hSteps | ⟨finished, _, hSteps⟩
        · rw [hSteps]
          exact hForward action context start
        · rw [hSteps, finishOf_append]
          refine Nat.le_trans (hForward action context start) ?_
          split
          · exact Nat.le_refl _
          · rw [Activity.andThen_done_steps]
            exact ih _ _

theorem Comes.start_le
    {i : Nat}
    (hForward :
      ∀ action context start,
        start ≤ finishOf start (dispatch action context start).steps)
    (hComes :
      Comes dispatch scope context start actions i left time) :
    start ≤ time := by
  induction hComes with
  | first => exact Nat.le_refl _
  | next hTime hFirst hResult _ ih =>
      exact Nat.le_trans (hForward _ _ _) ih

theorem Reaches.start_le
    (hForward :
      ∀ action context start,
        start ≤ finishOf start (dispatch action context start).steps)
    (hReaches :
      Reaches dispatch scope context start actions action left
        time) :
    start ≤ time := by
  rcases hReaches with ⟨i, _, hComes, _⟩
  exact hComes.start_le hForward

theorem Reaches.finish_le
    (hForward :
      ∀ action context start,
        start ≤ finishOf start (dispatch action context start).steps)
    (hReaches :
      Reaches dispatch scope context start actions action left
        time) :
    finishOf time (dispatch action left time).steps ≤
      finishOf start
        (runSequential dispatch scope actions context
          start).steps := by
  rcases hReaches with ⟨i, hAction, hComes, hBefore⟩
  induction hComes with
  | @first context start actions =>
      cases actions with
      | nil => cases hAction
      | cons first rest =>
          cases hAction
          rw [runSequential_cons,
            if_neg (Nat.not_le_of_lt hBefore)]
          rcases Activity.andThen_steps
              (dispatch action context) _ start with
            hSteps | ⟨finished, _, hSteps⟩
          · exact Nat.le_of_eq (by rw [hSteps])
          · rw [hSteps, finishOf_append]
            split
            · exact Nat.le_refl _
            · rw [Activity.andThen_done_steps]
              exact le_finishOf_runSequential hForward _ _ _
  | next hTime hFirst hResult _ ih =>
      rw [runSequential_of_next hTime hFirst hResult]
      dsimp only
      rw [finishOf_append, Activity.andThen_done_steps]
      exact ih hAction hBefore

/- A sequence that stops on its budget is over no earlier. -/
theorem runSequential_expired
    {results : List ActionResult}
    {error? : Option String}
    (hEnding :
      (runSequential dispatch scope actions context
        start).ending = .returned (results, error?))
    (hError : error? ≠ none) :
    scope.deadline ≤
      finishOf start
        (runSequential dispatch scope actions context
          start).steps :=
  ((runSequential_spec (fun _ _ _ => rfl) actions context start
    hEnding).2.2.expired hError).2.2.2

end Sequence

------------------------------------------------------------
-- Jobs That A Job Starts
------------------------------------------------------------

/- A branch of a parallel run, between the start and the end. -/
theorem times_of_branch
    {rule : Rule}
    {context : Context}
    {scope : Scope}
    {start time : Nat}
    {action : Action}
    (hBranch :
      (time, action) ∈
        ((engine.branches rule context scope start).map
          (·.1)).zip rule.logic.actions) :
    start ≤ time ∧
      finishOf time
          (engine.dispatch engine.runBelow scope action context
            time).steps ≤
        finishOf start
          (runParallel engine.settings.maxParallelActions
            (engine.dispatch engine.runBelow scope) scope
            rule.logic.actions context start).steps := by
  have hForward :
      Activity.GoForward
        (rule.logic.actions.map fun action =>
          engine.dispatch engine.runBelow scope action context) := by
    intro activity hActivity
    rcases List.mem_map.mp hActivity with ⟨other, _, rfl⟩
    exact fun time =>
      (dispatch_runBelow_forward engine scope other context
        time).le_finishOf
  rcases List.mem_iff_getElem?.mp hBranch with ⟨i, hFound⟩
  rcases List.getElem?_zip_eq_some.mp hFound with
    ⟨hTime, hAction⟩
  have hEpisode :
      ∃ other,
        (engine.branches rule context scope start)[i]? =
          some
            (other,
              engine.dispatch engine.runBelow scope action context
                other) :=
    exists_parallelBranch _ context start hAction
  rcases hEpisode with ⟨other, hEpisode⟩
  rw [List.getElem?_map, hEpisode] at hTime
  cases hTime
  have hMember := List.mem_of_getElem? hEpisode
  constructor
  · have hFree :
        List.replicate (engine.permits rule) start ≠ [] := by
      simp [permits]
    rw [← List.eq_of_mem_replicate
      (Activity.earliest_mem hFree)]
    exact Activity.earliest_le_start hForward hFree hMember
  · rw [finishOf_runParallel]
    exact (Activity.lastFinish_spec start _).2.1 _ hMember

theorem Starts.start_le
    (hStarts : engine.Starts outer inner) :
    outer.start ≤ inner.start := by
  cases hStarts with
  | next hMode hMet hReaches =>
      exact
        hReaches.start_le fun action context start =>
          (dispatch_runBelow_forward engine _ action context
            start).le_finishOf
  | beside hMode hMet hBranch => exact (times_of_branch hBranch).1
  | carryOut => exact Nat.le_refl _
  | select hTask hSelected => exact Nat.le_refl _
  | chain hTask hRule => exact Nat.le_refl _

/- A run that another one starts has the deadline of the other. -/
theorem Starts.deadline_eq
    (hStarts : engine.Starts outer inner)
    (hBudgeted : engine.IsBudgeted outer) :
    inner.scope.deadline = outer.scope.deadline := by
  cases hStarts with
  | chain hTask hRule => exact Nat.min_eq_left hBudgeted
  | _ => rfl

theorem Starts.isBudgeted
    (hStarts : engine.Starts outer inner)
    (hBudgeted : engine.IsBudgeted outer) :
    engine.IsBudgeted inner := by
  unfold IsBudgeted at *
  rw [hStarts.deadline_eq hBudgeted]
  exact
    Nat.le_trans hBudgeted
      (Nat.add_le_add_right hStarts.start_le _)

/- A job that is not cut short is over no earlier than what it starts. -/
theorem Starts.finish_le
    (hStarts : engine.Starts outer inner)
    (hTime : engine.finish outer < outer.scope.deadline) :
    engine.finish inner ≤ engine.finish outer := by
  cases hStarts with
  | next hMode hMet hReaches =>
      rw [finish_run, evaluateAndAct_of_sequential hMode hMet,
        Activity.andThen_done_steps]
      exact
        hReaches.finish_le fun action context start =>
          (dispatch_runBelow_forward engine _ action context
            start).le_finishOf
  | beside hMode hMet hBranch =>
      rw [finish_run, evaluateAndAct_of_parallel hMode hMet,
        Activity.andThen_done_steps]
      exact (times_of_branch hBranch).2
  | @carryOut action context scope start =>
      -- What is cut short is not over before the deadline.
      have hUncut :
          cutSteps? scope.deadline
            (engine.execute engine.runBelow scope action context
              start).steps = none := by
        cases hCut :
            cutSteps? scope.deadline
              (engine.execute engine.runBelow scope action
                context start).steps with
        | none => rfl
        | some left =>
            rw [finish, stepsOf, dispatch_of_cut hCut] at hTime
            exact
              absurd hTime
                (Nat.not_lt_of_le
                  (deadline_le_finishOf_of_cut hCut))
      rw [finish, finish, stepsOf, stepsOf,
        dispatch_of_uncut hUncut]
      exact Nat.le_refl _
  | select hTask hSelected =>
      rw [finish, finish, stepsOf, stepsOf,
        execute_of_selected hTask hSelected,
        Activity.andThen_done_steps]
      exact Nat.le_refl _
  | chain hTask hRule =>
      rw [finish, finish, stepsOf, stepsOf, execute,
        executeWithin_of_rule _ hTask,
        Activity.andThen_done_steps, runRule_steps hRule]
      exact Nat.le_of_eq (finishOf_announcedSteps _ _ _ _).symm

------------------------------------------------------------
-- Running Out Of Time
------------------------------------------------------------

/- A job that is not over before its deadline. -/
def IsLate
    (engine : Engine)
    (job : Job) : Prop :=
  job.scope.deadline ≤ engine.finish job

/- An action that the deadline cuts short, or a run that it stops. -/
def RunsOut
    (engine : Engine) :
    Job → Prop
  | .run rule input trigger scope start =>
      engine.HitsLimit (.run rule input trigger scope start)
  | .action action context scope start =>
      engine.HitsLimit (.action action context scope start)
  | .execution _ _ _ _ => False

/- No action is cut short at any depth, and no run is stopped. -/
def InTime
    (engine : Engine)
    (job : Job) : Prop :=
  ∀ inner, engine.Involves job inner → ¬ engine.RunsOut inner

theorem RunsOut.hitsLimit
    (hOut : engine.RunsOut job) :
    engine.HitsLimit job := by
  cases job with
  | run rule input trigger scope start => exact hOut
  | action action context scope start => exact hOut
  | execution action context scope start => exact hOut.elim

theorem Calm.inTime
    (hCalm : engine.Calm job) :
    engine.InTime job :=
  fun inner hInvolves hOut => hCalm inner hInvolves hOut.hitsLimit

/- A job that is late has only late jobs above it. -/
theorem Involves.not_late
    (hInvolves : engine.Involves outer inner)
    (hBudgeted : engine.IsBudgeted outer)
    (hTime : ¬ engine.IsLate outer) :
    engine.IsBudgeted inner ∧ ¬ engine.IsLate inner := by
  induction hInvolves with
  | refl => exact ⟨hBudgeted, hTime⟩
  | tail _ hStarts ih =>
      rcases ih with ⟨hBudgeted, hTime⟩
      refine ⟨hStarts.isBudgeted hBudgeted, ?_⟩
      unfold IsLate at *
      have hFinish := hStarts.finish_le (Nat.lt_of_not_le hTime)
      rw [hStarts.deadline_eq hBudgeted]
      omega

theorem isLate_of_stopped
    {rule : Rule}
    {input : Document}
    {trigger : TriggerKind}
    {scope : Scope}
    {start : Nat}
    {outcome : RunOutcome}
    (hEnding :
      (engine.evaluateAndAct engine.runBelow rule
        (engine.freshContext rule input trigger) scope
        start).ending = .returned outcome)
    (hError : outcome.error? = some (budgetError scope)) :
    engine.IsLate (.run rule input trigger scope start) := by
  unfold IsLate
  rw [finish_run]
  cases hMet :
      (rule.logic.condition.evaluate engine.patterns
        (engine.freshContext rule input trigger)).holds with
  | false =>
      rw [evaluateAndAct_of_unmet hMet] at hEnding
      cases hEnding
      cases hError
  | true =>
      cases hMode : rule.mode with
      | parallel =>
          rw [evaluateAndAct_of_parallel hMode hMet] at hEnding
          rcases Activity.returned_of_andThen_done hEnding with
            ⟨results, _, rfl⟩
          cases hError
      | sequential =>
          rw [evaluateAndAct_of_sequential hMode hMet] at *
          rcases Activity.returned_of_andThen_done hEnding with
            ⟨later, hLater, rfl⟩
          rw [Activity.andThen_done_steps]
          exact
            runSequential_expired hLater
              (Option.ne_none_iff_exists'.mpr ⟨_, hError⟩)

theorem isLate_of_runsOut
    (hOut : engine.RunsOut job) :
    engine.IsLate job := by
  cases job with
  | run rule input trigger scope start =>
      cases hOut with
      | stopped hEnding hError =>
          exact isLate_of_stopped hEnding hError
  | action action context scope start =>
      cases hOut with
      | timedOut hCut =>
          unfold IsLate finish
          rw [stepsOf, dispatch_of_cut hCut]
          exact deadline_le_finishOf_of_cut hCut
  | execution action context scope start => exact hOut.elim

/- Nothing runs out of time below a job that is over in time. -/
theorem inTime_of_not_late
    (hBudgeted : engine.IsBudgeted job)
    (hTime : ¬ engine.IsLate job) :
    engine.InTime job := by
  intro inner hInvolves hOut
  exact
    (hInvolves.not_late hBudgeted hTime).2
      (isLate_of_runsOut hOut)

------------------------------------------------------------
-- Direct Actions
------------------------------------------------------------

/- An action that neither branches nor starts another rule. -/
def IsDirect
    (context : Context)
    (action : Action) : Prop :=
  ∀ task,
    Task.ofConfig action.kind (filledConfig action context) =
        .ok task →
      (∀ other, task ≠ .branch other) ∧
        ∀ other, task ≠ .rule other

section Direct

variable {scope : Scope}
variable {context : Context}
variable {action last : Action}
variable {branches : List (Action × Bool)}
variable {start : Nat}

/- A direct action makes one call, or none. -/
theorem execute_brief
    (hDirect : IsDirect context action)
    (start : Nat) :
    Activity.Brief start start
      (engine.execute engine.runBelow scope action context) := by
  have hAgree := engine.collaborators.agreeAt_self start
  unfold execute
  cases hTask :
      Task.ofConfig action.kind
        (filledConfig action context) with
  | error fault =>
      rw [executeWithin_of_fault _ hTask]
      exact .done _
  | ok task =>
      rw [executeWithin_of_task _ hTask]
      apply Activity.Brief.andThen_done
      cases task with
      | model task =>
          exact (runModel_brief hAgree task).andThen_done _
      | notice task =>
          exact (runNotice_brief hAgree task).andThen_done _
      | webhook request =>
          exact (runWebhook_brief hAgree request).andThen_done _
      | branch task => exact absurd rfl ((hDirect _ hTask).1 task)
      | rule task => exact absurd rfl ((hDirect _ hTask).2 task)
      | _ => exact .done _

/-
  A direct action, inside branches or not, comes to what it would without a
  deadline if it is over by it, be it at the deadline itself.
-/
theorem dispatch_of_direct
    (hLeads : Leads engine.patterns context branches action last)
    (hDirect : IsDirect context last)
    (hFinish :
      engine.finish (.execution action context scope start) ≤
        scope.deadline) :
    engine.dispatch engine.runBelow scope action context start =
      engine.execute engine.runBelow scope action context
        start := by
  apply dispatch_of_uncut
  have hBrief :
      Activity.Brief start start
        (engine.execute engine.runBelow scope action context) := by
    rw [execute_of_leads hLeads]
    exact (execute_brief hDirect start).andThen_done _
  exact hBrief.cutSteps?_eq_none hFinish

end Direct

------------------------------------------------------------
-- Runs That Count
------------------------------------------------------------

section Chained

variable {scope : Scope}
variable {rule : Rule}
variable {task : RuleTask}
variable {context : Context}
variable {action last : Action}
variable {branches : List (Action × Bool)}
variable {report : Report}
variable {finished : ActionResult × Context}
variable {start : Nat}

/- The run that an action starts. -/
def chainedJob
    (engine : Engine)
    (scope : Scope)
    (rule : Rule)
    (task : RuleTask)
    (context : Context)
    (start : Nat) :
    Job :=
  .run rule (task.input?.getD context.input) .chained
    (scope.child rule engine.settings.runTimeout start) start

theorem chainedJob_isBudgeted
    (engine : Engine)
    (scope : Scope)
    (rule : Rule)
    (task : RuleTask)
    (context : Context)
    (start : Nat) :
    engine.IsBudgeted
      (engine.chainedJob scope rule task context start) :=
  Nat.min_le_right _ _

/- A result that takes up the report of a run. -/
structure Counts
    (engine : Engine)
    (job : Job)
    (report : Report)
    (result : ActionResult) : Prop where
  isSuccess_iff :
    result.isSuccess = true ↔
      report.isCompleted = true ∧ ¬ engine.IsLate job
  isFailed_eq : result.isFailed = !result.isSuccess

theorem reported_counts
    (engine : Engine)
    (scope : Scope)
    (last : Action)
    (rule : Rule)
    (task : RuleTask)
    (context : Context)
    (start : Nat)
    (report : Report) :
    engine.Counts (engine.chainedJob scope rule task context start)
      report
      (engine.reported scope last rule task context start
        report).1 := by
  have hExpired :
      (scope.child rule engine.settings.runTimeout
            start).isExpired
          (finishOf start
            (engine.chainedRun scope rule task context
              start).steps) = true ↔
        engine.IsLate
          (engine.chainedJob scope rule task context start) :=
    decide_eq_true_iff
  simp only [reported, concluded, resultOf, chainedResult]
  split
  · rename_i hLate
    refine ⟨?_, rfl⟩
    simp [ActionResult.isSuccess, Achievement.failed,
      hExpired.mp hLate]
  · rename_i hTime
    have hNotLate := mt hExpired.mpr hTime
    split
    · rename_i hCompleted
      refine ⟨?_, rfl⟩
      simp [ActionResult.isSuccess, Achievement.success, hCompleted,
        hNotLate]
    · rename_i hCompleted
      refine ⟨?_, rfl⟩
      simp [ActionResult.isSuccess, Achievement.failed, hCompleted]

/- Branches succeed with the action inside them, if they do not fail. -/
theorem concludedAlong_isSuccess
    (branches : List (Action × Bool))
    (hFailed : finished.1.isFailed = !finished.1.isSuccess) :
    (concludedAlong branches finished).1.isSuccess =
      finished.1.isSuccess := by
  cases branches with
  | nil => rfl
  | cons first rest =>
      rcases first with ⟨action, verdict⟩
      have hInner :
          (concludedAlong rest finished).1.isFailed =
            !finished.1.isSuccess := by
        rw [concludedAlong_isFailed, hFailed]
      simp only [concludedAlong, concluded, branchFinished,
        branchResult, resultOf, hInner]
      cases finished.1.isSuccess <;> rfl

theorem Counts.concludedAlong
    (hCounts : engine.Counts job report finished.1)
    (branches : List (Action × Bool)) :
    engine.Counts job report
      (concludedAlong branches finished).1 := by
  have hSuccess :=
    concludedAlong_isSuccess branches hCounts.isFailed_eq
  constructor
  · rw [hSuccess]
    exact hCounts.isSuccess_iff
  · rw [concludedAlong_isFailed, hSuccess]
    exact hCounts.isFailed_eq

theorem LosesReport.isLate
    (hLoses : engine.LosesReport scope rule task context start) :
    engine.IsLate
      (engine.chainedJob scope rule task context start) :=
  Nat.le_trans (Nat.min_le_left _ _) hLoses.late

/-
  What an action comes to that starts a run, which has a report, and what
  direct actions in the same scope come to.
-/
structure Punctuality
    (engine : Engine)
    (scope : Scope)
    (action : Action)
    (context : Context)
    (start : Nat)
    (job : Job)
    (report : Report)
    (finished : ActionResult × Context) : Prop where
  dispatched :
    (engine.dispatch engine.runBelow scope action context
        start).ending = .returned finished
  counts : engine.Counts job report finished.1
  /- Before the deadline of the run, nothing in it is out of time. -/
  early : ¬ engine.IsLate job → engine.InTime job
  /- So only the instant of the deadline keeps it from counting. -/
  atDeadline :
    report.isCompleted = true →
      engine.InTime job →
        engine.finish job ≤ job.scope.deadline →
          (finished.1.isSuccess = true ↔
            engine.finish job ≠ job.scope.deadline)
  /- A job at any depth that is late makes the action fail. -/
  passedUp :
    ∀ inner,
      engine.Involves job inner →
        engine.IsLate inner → finished.1.isFailed = true
  /- Direct actions come to what they come to at the deadline, too. -/
  direct :
    ∀ branches other last left time,
      Leads engine.patterns left branches other last →
        IsDirect left last →
          engine.finish (.execution other left scope time) ≤
              scope.deadline →
            engine.dispatch engine.runBelow scope other left time =
              engine.execute engine.runBelow scope other left time

theorem exists_counts
    (hLeads : Leads engine.patterns context branches action last)
    (hTask :
      Task.ofConfig last.kind
        (filledConfig last context) = .ok (.rule task))
    (hRule : engine.chainedRule scope task.rule = .ok rule)
    (hReport :
      (engine.chainedRun scope rule task context
        start).ending = .returned report) :
    ∃ finished,
      (engine.dispatch engine.runBelow scope action context
          start).ending = .returned finished ∧
        engine.Counts
          (engine.chainedJob scope rule task context start) report
          finished.1 := by
  by_cases hLoses :
      engine.LosesReport scope rule task context start
  · refine
      ⟨_, dispatch_of_lost hLeads hTask hRule hReport hLoses, ?_⟩
    refine ⟨?_, rfl⟩
    simp [ActionResult.isSuccess, ActionResult.failed,
      hLoses.isLate]
  · exact
      ⟨_, dispatch_of_kept hLeads hTask hRule hReport hLoses,
        (reported_counts engine scope last rule task context start
          report).concludedAlong branches⟩

/-
  A run that an action starts counts for the action when it completes and
  is over before its deadline, while a direct action counts when it is over
  by the deadline.
-/
theorem punctuality
    (hLeads : Leads engine.patterns context branches action last)
    (hTask :
      Task.ofConfig last.kind
        (filledConfig last context) = .ok (.rule task))
    (hRule : engine.chainedRule scope task.rule = .ok rule)
    (start : Nat) :
    ∃ report finished,
      (engine.chainedRun scope rule task context start).ending =
          .returned report ∧
        engine.Punctuality scope action context start
          (engine.chainedJob scope rule task context start) report
          finished := by
  rcases chainedRun_returned engine scope rule task context
      start with
    ⟨report, hReport, _, _⟩
  rcases exists_counts hLeads hTask hRule hReport with
    ⟨finished, hFinished, hCounts⟩
  have hBudgeted :=
    chainedJob_isBudgeted engine scope rule task context start
  refine
    ⟨report, finished, hReport, hFinished, hCounts,
      inTime_of_not_late hBudgeted, ?_, ?_, ?_⟩
  · intro hCompleted _ hFinish
    rw [hCounts.isSuccess_iff, and_iff_right hCompleted, IsLate]
    omega
  · intro inner hInvolves hLate
    rw [hCounts.isFailed_eq, Bool.not_eq_true',
      ← Bool.not_eq_true, hCounts.isSuccess_iff]
    rintro ⟨_, hTime⟩
    exact (hInvolves.not_late hBudgeted hTime).2 hLate
  · intro branches other last left time hOther hDirect hFinish
    exact dispatch_of_direct hOther hDirect hFinish

end Chained

/- The limits leave just as much time as the model takes. -/
def punctualEngine : Engine :=
  unhurried 1000 1
    [("inner", ruleOf "inner" .sequential [asks "model"])]

def punctualScope : Scope := .root startingRule 1000 0

def punctualContext : Context :=
  punctualEngine.freshContext startingRule .null .manual

/- The run of a rule that asks the model. -/
def punctualJob : Job :=
  punctualEngine.chainedJob punctualScope
    (ruleOf "inner" .sequential [asks "model"]) ⟨"inner", none⟩
    punctualContext 0

theorem punctualRun_punctuality :
    ∃ report finished,
      (punctualEngine.chainedRun punctualScope
            (ruleOf "inner" .sequential [asks "model"])
            ⟨"inner", none⟩ punctualContext 0).ending =
          .returned report ∧
        punctualEngine.Punctuality punctualScope (starts "inner")
          punctualContext 0 punctualJob report finished ∧
        finished.1.isSuccess = false := by
  have hPunctual :
      ∃ report finished,
        (punctualEngine.chainedRun punctualScope
              (ruleOf "inner" .sequential [asks "model"])
              ⟨"inner", none⟩ punctualContext 0).ending =
            .returned report ∧
          punctualEngine.Punctuality punctualScope
            (starts "inner") punctualContext 0 punctualJob report
            finished :=
    punctuality .here rfl rfl 0
  rcases hPunctual with ⟨report, finished, hReport, hPunctual⟩
  refine ⟨report, finished, hReport, hPunctual, ?_⟩
  rw [← Bool.not_eq_true, hPunctual.counts.isSuccess_iff]
  rintro ⟨_, hTime⟩
  exact hTime (by unfold IsLate; decide)

theorem punctualJob_inTime :
    punctualEngine.InTime punctualJob := by
  have hCalm : punctualEngine.Calm punctualJob := by
    refine .of_actions rfl rfl ?_
    intro inner hStarts
    cases hStarts with
    | next hMode hMet hReaches =>
        rcases (reaches_cons_iff.mp hReaches).2 with
          ⟨rfl, rfl, rfl⟩ | ⟨_, _, _, _, hLater⟩
        · refine .of_execution rfl (.of_task rfl ?_ ?_)
          · intro other hOther
            cases hOther
          · intro other hOther
            cases hOther
        · exact absurd hLater not_reaches_nil
    | beside hMode => cases hMode
  exact hCalm.inTime

/-
  The run completes in time and is over at the deadline, but the action
  that starts it fails.  Asking the model directly, it would not.
-/
theorem punctualRun_not_counted :
    ∃ report above beside,
      (punctualEngine.chainedRun punctualScope
            (ruleOf "inner" .sequential [asks "model"])
            ⟨"inner", none⟩ punctualContext 0).ending =
          .returned report ∧
        report.isCompleted = true ∧
        punctualEngine.InTime punctualJob ∧
        punctualEngine.finish punctualJob =
          punctualJob.scope.deadline ∧
        (punctualEngine.dispatch punctualEngine.runBelow
              punctualScope (starts "inner") punctualContext
              0).ending =
          .returned above ∧
        above.1.isSuccess = false ∧
        (punctualEngine.dispatch punctualEngine.runBelow
              punctualScope (asks "model") punctualContext
              0).ending =
          .returned beside ∧
        punctualEngine.finish
            (.action (asks "model") punctualContext punctualScope
              0) =
          punctualScope.deadline ∧
        beside.1.isSuccess = true :=
  ⟨_, _, _, rfl, by decide, punctualJob_inTime, by decide, rfl,
    by decide, rfl, by decide, by decide⟩

end Engine

end Automation
