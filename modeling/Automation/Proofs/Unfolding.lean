import Automation.Engine.Run
import Automation.Proofs.Forward
import Automation.Proofs.Tasks

/-
  How runs unfold.

  The steps of a run are told apart by the parts of the run they belong
  to.  An action does nothing, makes one call, or starts one other run;
  its run allows it what can be done by the deadline.  Actions in order
  are carried out before the deadline only, and actions side by side start
  in turn.

  Key definitions include:
    * `Unfolds`, the steps that the parts of a run may take
    * `RunChild.Sound`, other runs that unfold and end in a report

  Key theorems include:
    * `Unfolds.forward`, steps that go forward in time
    * `Engine.execute_unfolds`, the steps of an action
    * `Engine.runWithin_unfolds`, the steps of a run
    * `Engine.run_spec`, the steps and the report of an outermost run
-/

namespace Automation

------------------------------------------------------------
-- The Parts Of A Run
------------------------------------------------------------

inductive Part where
  /- An action without a deadline. -/
  | execution
  | action
  /- Actions one after the other. -/
  | sequence
  | run (rule : Rule)

/- The steps that a part of a run may take under a scope from a time on. -/
inductive Unfolds
    (engine : Engine) :
    Part → Scope → Nat → List Step → Prop
  | idle
      {scope : Scope}
      {time : Nat} :
      Unfolds engine .execution scope time []
  | call
      {scope : Scope}
      {time : Nat}
      (call : Call)
      (delay : Nat) :
      Unfolds engine .execution scope time
        [.call time call (time + delay)
          (if delay = 0 then none
            else some ⟨time + delay, false⟩)]
  | chained
      {scope : Scope}
      {time : Nat}
      {id : String}
      {rule : Rule}
      {steps : List Step}
      (hRule : engine.chainedRule scope id = .ok rule)
      (hRun :
        Unfolds engine (.run rule)
          (scope.child rule engine.settings.runTimeout time)
          time steps) :
      Unfolds engine .execution scope time
        (announcedSteps rule.id
          (scope.child rule engine.settings.runTimeout time)
          time steps)
  | within
      {scope : Scope}
      {time : Nat}
      {steps : List Step}
      (hExecution :
        Unfolds engine .execution scope time steps) :
      Unfolds engine .action scope time
        (stepsBy scope.deadline steps)
  | finished
      {scope : Scope}
      {time : Nat} :
      Unfolds engine .sequence scope time []
  | next
      {scope : Scope}
      {time : Nat}
      {first rest : List Step}
      (hTime : time < scope.deadline)
      (hFirst : Unfolds engine .action scope time first)
      (hRest :
        Unfolds engine .sequence scope
          (finishOf time first) rest) :
      Unfolds engine .sequence scope time (first ++ rest)
  | still
      {scope : Scope}
      {rule : Rule}
      {time : Nat} :
      Unfolds engine (.run rule) scope time []
  | sequential
      {scope : Scope}
      {rule : Rule}
      {time : Nat}
      {steps : List Step}
      (hSteps : Unfolds engine .sequence scope time steps) :
      Unfolds engine (.run rule) scope time steps
  | parallel
      {scope : Scope}
      {rule : Rule}
      {time permits last : Nat}
      {branches : List (Nat × List Step)}
      (hMode : rule.mode = .parallel)
      (hPermits :
        permits =
          permitsFor engine.settings.maxParallelActions
            branches.length)
      (hSome : branches ≠ [])
      (hAdmitted : Admitted [time] branches)
      (hBranches :
        ∀ branch ∈ branches,
          Unfolds engine .action scope branch.1 branch.2)
      (hFinish :
        ∀ branch ∈ branches,
          finishOf branch.1 branch.2 ≤ last)
      (hLast :
        last = time ∨
          ∃ branch ∈ branches,
            last = finishOf branch.1 branch.2) :
      Unfolds engine (.run rule) scope time
        [.fan time permits scope.deadline branches
          ⟨last, false⟩]

/- The steps of every part of a run go forward. -/
theorem Unfolds.forward
    {engine : Engine}
    {part : Part}
    {scope : Scope}
    {time : Nat}
    {steps : List Step}
    (hUnfolds : Unfolds engine part scope time steps) :
    Forward time steps := by
  induction hUnfolds with
  | idle => exact .nil
  | call call delay =>
      refine .cons rfl ?_ .nil
      by_cases hDelay : delay = 0 <;>
        simp [Step.overAt, Step.resume?, Step.time, hDelay]
  | chained _ _ ih => exact ih.announced _ _
  | within _ ih => exact ih.stepsBy _
  | finished => exact .nil
  | next _ _ _ ihFirst ihRest => exact ihFirst.append ihRest
  | still => exact .nil
  | sequential _ ih => exact ih
  | @parallel _ _ time _ _ branches _ _ hSome hAdmitted _ hFinish
      _ ih =>
      refine .cons rfl ?_ .nil
      cases hAdmitted with
      | nil => exact absurd rfl hSome
      | @cons _ start steps _ hStart _ =>
          cases List.mem_singleton.mp hStart
          exact
            Nat.le_trans (ih _ (.head _)).le_finishOf
              (hFinish _ (.head _))

/- The steps of other runs unfold, and they end in a report. -/
structure RunChild.Sound
    (engine : Engine)
    (runChild : RunChild) : Prop where
  unfolds :
    ∀ rule input scope start,
      Unfolds engine (.run rule) scope start
        (runChild rule input scope start).steps
  returns :
    ∀ rule input scope start,
      ∃ report,
        (runChild rule input scope start).ending =
          .returned report

------------------------------------------------------------
-- Actions
------------------------------------------------------------

namespace Engine

variable {engine : Engine}
variable {runChild : RunChild}
variable {scope : Scope}

theorem perform_unfolds
    {α : Type}
    (call : Call)
    (replyAt : Nat → Reply α)
    (start : Nat) :
    Unfolds engine .execution scope start
      (Activity.perform call replyAt start).steps :=
  .call call (replyAt start).delay

theorem runModel_unfolds
    (task : ModelTask)
    (context : Context)
    (start : Nat) :
    Unfolds engine .execution scope start
      (engine.runModel scope task context start).steps := by
  unfold runModel
  cases task.model?.filter
      fun model => !Text.isBlankText model with
  | none => exact .idle
  | some model =>
      dsimp only
      rw [Activity.bind_eq_andThen,
        Activity.andThen_steps_of_still]
      · exact perform_unfolds _ _ _
      · intro answer time
        cases answer <;> rfl

theorem runNotice_unfolds
    (task : NoticeTask)
    (start : Nat) :
    Unfolds engine .execution scope start
      (engine.runNotice scope task start).steps := by
  unfold runNotice
  rw [Activity.bind_eq_andThen,
    Activity.andThen_steps_of_still]
  · exact perform_unfolds _ _ _
  · intro answer time
    rfl

theorem runWebhook_unfolds
    (request : WebhookRequest)
    (start : Nat) :
    Unfolds engine .execution scope start
      (engine.runWebhook request start).steps := by
  unfold runWebhook
  split
  · exact .idle
  · rw [Activity.bind_eq_andThen,
      Activity.andThen_steps_of_still]
    · exact perform_unfolds _ _ _
    · intro answer time
      cases answer with
      | error fault => rfl
      | ok response =>
          dsimp only
          split <;> rfl

theorem runRule_unfolds
    (hChild : runChild.Sound engine)
    (task : RuleTask)
    (context : Context)
    (start : Nat) :
    Unfolds engine .execution scope start
      (engine.runRule runChild scope task context
        start).steps := by
  cases hRule : engine.chainedRule scope task.rule with
  | error fault =>
      rw [runRule_of_fault hRule]
      exact .idle
  | ok rule =>
      rcases hChild.returns rule
          (task.input?.getD context.input)
          (scope.child rule engine.settings.runTimeout start)
          start with ⟨report, hReport⟩
      rw [runRule_of_report hRule hReport]
      exact .chained hRule (hChild.unfolds _ _ _ _)

theorem runBranch_unfolds
    {patterns : PatternLibrary}
    {execute :
      Action → Context → Activity (ActionResult × Context)}
    (hExecute :
      ∀ action context start,
        Unfolds engine .execution scope start
          (execute action context start).steps)
    (task : BranchTask)
    (context : Context)
    (start : Nat) :
    Unfolds engine .execution scope start
      (runBranch patterns execute task context start).steps := by
  cases hSelected : task.selected? patterns context with
  | none =>
      rw [runBranch_of_none hSelected]
      exact .idle
  | some action =>
      rw [runBranch_of_selected hSelected,
        Activity.andThen_steps_of_still]
      · exact hExecute _ _ _
      · intro finished time
        rfl

theorem runTask_unfolds
    (hChild : runChild.Sound engine)
    {execute :
      Action → Context → Activity (ActionResult × Context)}
    (hExecute :
      ∀ action context start,
        Unfolds engine .execution scope start
          (execute action context start).steps)
    (task : Task)
    (context : Context)
    (start : Nat) :
    Unfolds engine .execution scope start
      (engine.runTask runChild scope execute task context
        start).steps := by
  cases task with
  | model task =>
      rw [runTask, keeping_steps]
      exact runModel_unfolds task context start
  | notice task =>
      rw [runTask, keeping_steps]
      exact runNotice_unfolds task start
  | webhook request =>
      rw [runTask, keeping_steps]
      exact runWebhook_unfolds request start
  | store task => exact .idle
  | transform task => exact .idle
  | branch task =>
      exact runBranch_unfolds hExecute task context start
  | rule task =>
      rw [runTask, keeping_steps]
      exact runRule_unfolds hChild task context start
  | unsupported type => exact .idle

theorem executeWithin_unfolds
    (hChild : runChild.Sound engine)
    (depth : Nat)
    (action : Action)
    (context : Context)
    (start : Nat) :
    Unfolds engine .execution scope start
      (engine.executeWithin runChild scope depth action context
        start).steps := by
  induction depth generalizing action context start with
  | zero => exact .idle
  | succ depth ih =>
      cases hTask :
          Task.ofConfig action.kind
            (filledConfig action context) with
      | error fault =>
          rw [executeWithin_of_fault depth hTask]
          exact .idle
      | ok task =>
          rw [executeWithin_of_task depth hTask,
            Activity.andThen_steps_of_still]
          · exact runTask_unfolds hChild ih task context start
          · intro finished time
            rfl

theorem execute_unfolds
    (hChild : runChild.Sound engine)
    (action : Action)
    (context : Context)
    (start : Nat) :
    Unfolds engine .execution scope start
      (engine.execute runChild scope action context
        start).steps :=
  executeWithin_unfolds hChild _ action context start

theorem dispatch_unfolds
    (hChild : runChild.Sound engine)
    (action : Action)
    (context : Context)
    (start : Nat) :
    Unfolds engine .action scope start
      (engine.dispatch runChild scope action context
        start).steps := by
  rw [dispatch_steps]
  exact .within (execute_unfolds hChild action context start)

------------------------------------------------------------
-- Actions In Order
------------------------------------------------------------

/- Before an action is carried out, the deadline is looked at. -/
theorem runSequential_cons
    {dispatch :
      Action → Context → Activity (ActionResult × Context)}
    (action : Action)
    (rest : List Action)
    (context : Context)
    (start : Nat) :
    runSequential dispatch scope (action :: rest) context
        start =
      if scope.deadline ≤ start then
        ⟨[], .returned ([], some (budgetError scope))⟩
      else
        (dispatch action context).andThen (fun finished =>
          if finished.1.isFailed && action.stopsOnFailure then
            Activity.done ([finished.1], none)
          else
            (runSequential dispatch scope rest
              finished.2).andThen fun later =>
                Activity.done
                  (finished.1 :: later.1, later.2)) start := by
  by_cases hExpired : scope.deadline ≤ start
  · simp [runSequential, Activity.now, Activity.andThen,
      Scope.isExpired, hExpired]
  · simp [runSequential, Activity.now, Activity.andThen,
      Scope.isExpired, hExpired]

theorem runSequential_unfolds
    {dispatch :
      Action → Context → Activity (ActionResult × Context)}
    (hDispatch :
      ∀ action context start,
        Unfolds engine .action scope start
          (dispatch action context start).steps)
    (actions : List Action)
    (context : Context)
    (start : Nat) :
    Unfolds engine .sequence scope start
      (runSequential dispatch scope actions context
        start).steps := by
  induction actions generalizing context start with
  | nil => exact .finished
  | cons action rest ih =>
      rw [runSequential_cons]
      split
      · exact .finished
      · rename_i hTime
        have hFirst := hDispatch action context start
        have hOnly :
            Unfolds engine .sequence scope start
              ((dispatch action context start).steps ++ []) :=
          .next (Nat.lt_of_not_le hTime) hFirst .finished
        rcases Activity.andThen_steps
            (dispatch action context) _ start with
          hSteps | ⟨finished, _, hSteps⟩
        · rw [hSteps]
          simpa using hOnly
        · rw [hSteps]
          split
          · exact hOnly
          · refine .next (Nat.lt_of_not_le hTime) hFirst ?_
            rw [Activity.andThen_steps_of_still]
            · exact ih _ _
            · intro later time
              rfl

------------------------------------------------------------
-- Actions Side By Side
------------------------------------------------------------

theorem fanOut_unfolds
    {α : Type}
    {rule : Rule}
    {permits : Nat}
    (activities : List (Activity α))
    (hMode : rule.mode = .parallel)
    (hPermits :
      permits =
        permitsFor engine.settings.maxParallelActions
          activities.length)
    (hActivities :
      ∀ activity ∈ activities,
        ∀ start,
          Unfolds engine .action scope start
            (activity start).steps)
    (start : Nat) :
    Unfolds engine (.run rule) scope start
      (Activity.fanOut permits scope.deadline activities
        start).steps := by
  cases activities with
  | nil => exact .still
  | cons first rest =>
      have hFree : List.replicate permits start ≠ [] := by
        rw [hPermits, Ne, List.replicate_eq_nil_iff]
        exact permitsFor_ne_zero _ _
      have hGiven : List.replicate permits start ⊆ [start] := by
        intro time hTime
        simp [List.eq_of_mem_replicate hTime]
      rcases Activity.lastFinish_spec start
          (Activity.schedule (List.replicate permits start)
            (first :: rest)) with ⟨_, hFinish, hLast⟩
      refine .parallel hMode ?_ (List.cons_ne_nil _ _)
        (Activity.admitted_schedule (first :: rest) hFree
          hGiven) ?_ ?_ ?_
      · rw [List.length_map, Activity.length_schedule]
        exact hPermits
      · intro branch hBranch
        rcases List.mem_map.mp hBranch with
          ⟨episode, hEpisode, rfl⟩
        rcases Activity.episode_of_mem_schedule hEpisode with
          ⟨activity, hActivity, hSteps⟩
        dsimp only
        rw [hSteps]
        exact hActivities activity hActivity episode.1
      · intro branch hBranch
        rcases List.mem_map.mp hBranch with
          ⟨episode, hEpisode, rfl⟩
        exact hFinish episode hEpisode
      · rcases hLast with hStart | ⟨episode, hEpisode, hLast⟩
        · exact Or.inl hStart
        · exact Or.inr
            ⟨_, List.mem_map_of_mem hEpisode, hLast⟩

theorem runParallel_unfolds
    {dispatch :
      Action → Context → Activity (ActionResult × Context)}
    {rule : Rule}
    (hMode : rule.mode = .parallel)
    (hDispatch :
      ∀ action context start,
        Unfolds engine .action scope start
          (dispatch action context start).steps)
    (actions : List Action)
    (context : Context)
    (start : Nat) :
    Unfolds engine (.run rule) scope start
      (runParallel engine.settings.maxParallelActions dispatch
        scope actions context start).steps := by
  unfold runParallel
  rw [Activity.bind_eq_andThen,
    Activity.andThen_steps_of_still]
  · apply fanOut_unfolds _ hMode (by rw [List.length_map]; rfl)
    intro activity hActivity time
    rcases List.mem_map.mp hActivity with ⟨action, _, rfl⟩
    exact hDispatch action context time
  · intro endings time
    rfl

------------------------------------------------------------
-- Runs
------------------------------------------------------------

theorem evaluateAndAct_unfolds
    (hChild : runChild.Sound engine)
    (rule : Rule)
    (context : Context)
    (start : Nat) :
    Unfolds engine (.run rule) scope start
      (engine.evaluateAndAct runChild rule context scope
        start).steps := by
  unfold evaluateAndAct
  dsimp only
  split
  · exact .still
  · cases hMode : rule.mode with
    | sequential =>
        dsimp only
        rw [Activity.bind_eq_andThen,
          Activity.andThen_steps_of_still]
        · exact .sequential
            (runSequential_unfolds (dispatch_unfolds hChild)
              _ _ _)
        · intro outcome time
          rfl
    | parallel =>
        dsimp only
        rw [Activity.bind_eq_andThen,
          Activity.andThen_steps_of_still]
        · exact runParallel_unfolds hMode
            (dispatch_unfolds hChild) _ _ _
        · intro outcome time
          rfl

/- A run ends in a report, even when its actions crash. -/
theorem runWithin_apply
    (rule : Rule)
    (input : Document)
    (trigger : TriggerKind)
    (start : Nat) :
    ∃ report,
      engine.runWithin runChild rule input trigger scope start =
        ⟨(engine.evaluateAndAct runChild rule
            (.forRun rule input trigger engine.stamp.startedAt)
            scope start).steps,
          .returned report⟩ := by
  cases hEnding :
      (engine.evaluateAndAct runChild rule
        (.forRun rule input trigger engine.stamp.startedAt)
        scope start).ending <;>
    simp [runWithin, Activity.andThen, Activity.settled,
      hEnding]

theorem runWithin_of_returned
    {rule : Rule}
    {input : Document}
    {trigger : TriggerKind}
    {start : Nat}
    {outcome : RunOutcome}
    (hEnding :
      (engine.evaluateAndAct runChild rule
        (.forRun rule input trigger engine.stamp.startedAt)
        scope start).ending = .returned outcome) :
    engine.runWithin runChild rule input trigger scope start =
      ⟨(engine.evaluateAndAct runChild rule
          (.forRun rule input trigger engine.stamp.startedAt)
          scope start).steps,
        .returned
          (engine.reportOf rule input trigger outcome)⟩ := by
  simp [runWithin, Activity.andThen, Activity.settled, hEnding]

theorem runWithin_of_crashed
    {rule : Rule}
    {input : Document}
    {trigger : TriggerKind}
    {start : Nat}
    {crash : Crash}
    (hEnding :
      (engine.evaluateAndAct runChild rule
        (.forRun rule input trigger engine.stamp.startedAt)
        scope start).ending = .crashed crash) :
    engine.runWithin runChild rule input trigger scope start =
      ⟨(engine.evaluateAndAct runChild rule
          (.forRun rule input trigger engine.stamp.startedAt)
          scope start).steps,
        .returned
          (engine.reportOf rule input trigger
            ⟨false, [], [], some crash.runError⟩)⟩ := by
  simp [runWithin, Activity.andThen, Activity.settled, hEnding]

theorem runWithin_unfolds
    (hChild : runChild.Sound engine)
    (rule : Rule)
    (input : Document)
    (trigger : TriggerKind)
    (start : Nat) :
    Unfolds engine (.run rule) scope start
      (engine.runWithin runChild rule input trigger scope
        start).steps := by
  rcases runWithin_apply rule input trigger start with
    ⟨report, hRun⟩
  rw [hRun]
  exact evaluateAndAct_unfolds hChild rule _ start

theorem runChained_sound
    (engine : Engine)
    (depth : Nat) :
    (engine.runChained depth).Sound engine := by
  induction depth with
  | zero =>
      exact
        { unfolds := fun _ _ _ _ => .still
          returns := fun _ _ _ _ => ⟨_, rfl⟩ }
  | succ depth ih =>
      refine { unfolds := ?_, returns := ?_ }
      · intro rule input scope start
        exact runWithin_unfolds ih rule input .chained start
      · intro rule input scope start
        rcases runWithin_apply rule input .chained start with
          ⟨report, hRun⟩
        exact ⟨report, congrArg Episode.ending hRun⟩

theorem runBelow_sound
    (engine : Engine) :
    engine.runBelow.Sound engine :=
  runChained_sound engine _

theorem dispatch_runChained_forward
    (engine : Engine)
    (depth : Nat)
    (scope : Scope)
    (action : Action)
    (context : Context)
    (start : Nat) :
    Forward start
      (engine.dispatch (engine.runChained depth) scope action
        context start).steps :=
  (dispatch_unfolds (runChained_sound engine depth) action
    context start).forward

theorem dispatch_runBelow_forward
    (engine : Engine)
    (scope : Scope)
    (action : Action)
    (context : Context)
    (start : Nat) :
    Forward start
      (engine.dispatch engine.runBelow scope action context
        start).steps :=
  dispatch_runChained_forward engine _ scope action context start

/- A run of an active rule is carried out. -/
theorem exists_run
    {rule : Rule}
    (hActive : rule.active = true)
    (input : Document)
    (trigger : TriggerKind) :
    ∃ activity, engine.run rule input trigger = .ok activity := by
  unfold run
  rw [hActive]
  exact ⟨_, rfl⟩

theorem active_of_run
    {rule : Rule}
    {input : Document}
    {trigger : TriggerKind}
    {activity : Activity Report}
    (hRun : engine.run rule input trigger = .ok activity) :
    rule.active = true := by
  cases hActive : rule.active with
  | true => rfl
  | false =>
      unfold run at hRun
      rw [hActive] at hRun
      cases hRun

/- An outermost run is a run within the scope it starts with. -/
theorem run_apply
    {rule : Rule}
    {input : Document}
    {trigger : TriggerKind}
    {activity : Activity Report}
    (hRun : engine.run rule input trigger = .ok activity)
    (start : Nat) :
    activity start =
      Activity.announced rule.id
        (.root rule engine.settings.runTimeout start)
        (engine.runWithin engine.runBelow rule input trigger
          (.root rule engine.settings.runTimeout start))
        start := by
  unfold run at hRun
  split at hRun
  · cases hRun
  · cases hRun
    rfl

/- An outermost run comes to what the run within its scope comes to. -/
theorem run_of_runWithin
    {rule : Rule}
    {input : Document}
    {trigger : TriggerKind}
    {activity : Activity Report}
    (hRun : engine.run rule input trigger = .ok activity)
    (start : Nat) :
    let scope := Scope.root rule engine.settings.runTimeout start
    ∃ report,
      (engine.runWithin engine.runBelow rule input trigger scope
          start).ending = .returned report ∧
        (activity start).ending = .returned report ∧
        finishOf start (activity start).steps =
          finishOf start
            (engine.runWithin engine.runBelow rule input trigger
              scope start).steps := by
  dsimp only
  rcases runWithin_apply rule input trigger start with
    ⟨report, hWithin⟩
  have hReport := congrArg Episode.ending hWithin
  refine ⟨report, hReport, ?_, ?_⟩
  · rw [run_apply hRun, Activity.announced_apply hReport]
  · rw [run_apply hRun, Activity.announced_apply hReport,
      finishOf_announcedSteps]

/-
  An outermost run unfolds between its milestones, under the scope it
  starts with, and ends in a report.
-/
theorem run_spec
    {rule : Rule}
    {input : Document}
    {trigger : TriggerKind}
    {activity : Activity Report}
    (hRun : engine.run rule input trigger = .ok activity)
    (start : Nat) :
    ∃ steps report,
      activity start =
          ⟨announcedSteps rule.id
              (.root rule engine.settings.runTimeout start)
              start steps,
            .returned report⟩ ∧
        Unfolds engine (.run rule)
          (.root rule engine.settings.runTimeout start)
          start steps := by
  rcases run_of_runWithin hRun start with
    ⟨report, hReport, _, _⟩
  have hActivity :=
    (run_apply hRun start).trans
      (Activity.announced_apply hReport)
  refine ⟨_, report, hActivity, ?_⟩
  apply runWithin_unfolds
  exact runChained_sound engine engine.settings.maxChainDepth

end Engine

end Automation
