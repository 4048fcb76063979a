import Automation.Proofs.Branches
import Automation.Proofs.Forward
import Automation.Proofs.Unfolding

/-
  Where crashes come from.

  An action crashes when a call that it makes crashes, or one made by the
  action that its branch selects.  Nothing else does: a run that an action
  starts always returns a report, so the crashes below it stay there.

  Key definitions include:
    * `Engine.TaskRaises`, a call of a task that crashes
    * `Engine.Raises`, a call of an action that crashes

  Key theorems include:
    * `Engine.execute_crashed_iff`, the crashes of an action
    * `Engine.dispatch_of_raises`, those before its deadline
-/

namespace Automation

------------------------------------------------------------
-- Activities That Crash
------------------------------------------------------------

namespace Activity

variable {α β : Type}

/- What cannot crash later crashes first. -/
theorem andThen_crashed_iff
    {first : Activity α}
    {next : α → Activity β}
    {start : Nat}
    {crash : Crash}
    (hNext :
      ∀ a time, ∃ b, (next a time).ending = .returned b) :
    (first.andThen next start).ending = .crashed crash ↔
      (first start).ending = .crashed crash := by
  cases hFirst : (first start).ending with
  | crashed other =>
      rw [andThen_apply_of_crashed hFirst]
      simp
  | returned a =>
      rw [andThen_apply_of_returned hFirst]
      rcases hNext a (finishOf start (first start).steps) with
        ⟨b, hReturned⟩
      rw [hReturned]
      simp

theorem andThen_done_crashed_iff
    {first : Activity α}
    {f : α → β}
    {start : Nat}
    {crash : Crash} :
    (first.andThen (fun a => done (f a)) start).ending =
        .crashed crash ↔
      (first start).ending = .crashed crash :=
  andThen_crashed_iff fun a _ => ⟨f a, rfl⟩

theorem perform_crashed_iff
    {call : Call}
    {replyAt : Nat → Reply α}
    {start : Nat}
    {crash : Crash} :
    (perform call replyAt start).ending = .crashed crash ↔
      (replyAt start).outcome = .crashed crash := by
  unfold perform
  dsimp only
  cases (replyAt start).outcome <;> simp

end Activity

namespace Engine

------------------------------------------------------------
-- Calls That Crash
------------------------------------------------------------

/- A call that a task makes itself at some time crashes. -/
inductive TaskRaises
    (engine : Engine)
    (scope : Scope)
    (context : Context)
    (time : Nat) :
    Task → Crash → Prop
  | model
      {task : ModelTask}
      {model : String}
      {crash : Crash}
      (hModel :
        task.model?.filter
          (fun model => !Text.isBlankText model) = some model)
      (hReply :
        (engine.collaborators.model time
          { model := model
            input := task.input?.getD context.input
            rule := scope.rule
            user := scope.user }).outcome = .crashed crash) :
      TaskRaises engine scope context time (.model task) crash
  | notice
      {task : NoticeTask}
      {crash : Crash}
      (hReply :
        (engine.collaborators.notify time
          { recipients := task.recipients.addresses
            subject? := task.subject?
            message := task.message
            channel? := task.channel?
            rule := scope.rule
            user := scope.user }).outcome = .crashed crash) :
      TaskRaises engine scope context time (.notice task) crash
  | webhook
      {request : WebhookRequest}
      {crash : Crash}
      (hUrl : Text.isBlankText request.url = false)
      (hReply :
        (engine.collaborators.webhook time request).outcome =
          .crashed crash) :
      TaskRaises engine scope context time (.webhook request) crash

/-
  A call crashes that an action makes at some time, or one that is made by
  an action inside its branches.  Calls below another run do not count.
-/
def Raises
    (engine : Engine)
    (scope : Scope)
    (context : Context)
    (time : Nat)
    (action : Action)
    (crash : Crash) : Prop :=
  ∃ outer last task,
    Leads engine.patterns context outer action last ∧
      Task.ofConfig last.kind (filledConfig last context) =
        .ok task ∧
      engine.TaskRaises scope context time task crash

variable {engine : Engine}
variable {runChild : RunChild}
variable {scope : Scope}
variable {context : Context}
variable {action : Action}
variable {start : Nat}
variable {crash : Crash}

theorem runModel_crashed_iff
    {task : ModelTask} :
    (engine.runModel scope task context start).ending =
        .crashed crash ↔
      engine.TaskRaises scope context start (.model task) crash := by
  cases hModel :
      task.model?.filter
        fun model => !Text.isBlankText model with
  | none =>
      simp only [runModel, hModel, Activity.pure_eq_done,
        Activity.done_apply]
      refine ⟨(by simp), ?_⟩
      rintro ⟨hOther, _⟩
      rw [hModel] at hOther
      cases hOther
  | some model =>
      simp only [runModel, hModel, Activity.bind_eq_andThen]
      rw [Activity.andThen_crashed_iff,
        Activity.perform_crashed_iff]
      · refine ⟨.model hModel, ?_⟩
        rintro ⟨hOther, hReply⟩
        rw [hModel] at hOther
        cases hOther
        exact hReply
      · intro answer time
        cases answer <;> exact ⟨_, rfl⟩

theorem runNotice_crashed_iff
    {task : NoticeTask} :
    (engine.runNotice scope task start).ending =
        .crashed crash ↔
      engine.TaskRaises scope context start (.notice task) crash := by
  unfold runNotice
  simp only [Activity.bind_eq_andThen, Activity.pure_eq_done]
  rw [Activity.andThen_done_crashed_iff,
    Activity.perform_crashed_iff]
  refine ⟨.notice, ?_⟩
  rintro ⟨hReply⟩
  assumption

theorem runWebhook_crashed_iff
    {request : WebhookRequest} :
    (engine.runWebhook request start).ending =
        .crashed crash ↔
      engine.TaskRaises scope context start (.webhook request)
        crash := by
  cases hUrl : Text.isBlankText request.url with
  | true =>
      simp only [runWebhook, hUrl, if_true,
        Activity.pure_eq_done, Activity.done_apply]
      refine ⟨(by simp), ?_⟩
      rintro (_ | _ | ⟨hOther, _⟩)
      rw [hUrl] at hOther
      cases hOther
  | false =>
      simp only [runWebhook, hUrl, Bool.false_eq_true,
        if_false, Activity.bind_eq_andThen]
      rw [Activity.andThen_crashed_iff,
        Activity.perform_crashed_iff]
      · refine ⟨.webhook hUrl, ?_⟩
        rintro (_ | _ | ⟨_, hReply⟩)
        exact hReply
      · intro answer time
        cases answer with
        | error fault => exact ⟨_, rfl⟩
        | ok response =>
            dsimp only
            split <;> exact ⟨_, rfl⟩

/- The run of another rule does not crash. -/
theorem runRule_returned
    (hChild : runChild.Sound engine)
    (task : RuleTask)
    (start : Nat) :
    ∃ outcome,
      (engine.runRule runChild scope task context
        start).ending = .returned outcome := by
  cases hRule : engine.chainedRule scope task.rule with
  | error fault =>
      rw [runRule_of_fault hRule]
      exact ⟨_, rfl⟩
  | ok rule =>
      rcases hChild.returns rule
          (task.input?.getD context.input)
          (scope.child rule engine.settings.runTimeout start)
          start with
        ⟨report, hReport⟩
      rw [runRule_of_report hRule hReport]
      exact ⟨_, rfl⟩

/- A task crashes when its own call does, if it is not a branch. -/
theorem runTask_crashed_iff
    {execute :
      Action → Context → Activity (ActionResult × Context)}
    {task : Task}
    (hChild : runChild.Sound engine)
    (hTask : ∀ branch, task ≠ .branch branch) :
    (engine.runTask runChild scope execute task context
        start).ending = .crashed crash ↔
      engine.TaskRaises scope context start task crash := by
  cases task with
  | model task =>
      exact Activity.andThen_done_crashed_iff.trans
        runModel_crashed_iff
  | notice task =>
      exact Activity.andThen_done_crashed_iff.trans
        runNotice_crashed_iff
  | webhook request =>
      exact Activity.andThen_done_crashed_iff.trans
        runWebhook_crashed_iff
  | store task => exact ⟨nofun, nofun⟩
  | transform task => exact ⟨nofun, nofun⟩
  | branch task => exact absurd rfl (hTask task)
  | rule task =>
      refine Activity.andThen_done_crashed_iff.trans
        ⟨?_, nofun⟩
      rcases runRule_returned hChild task start with
        ⟨outcome, hReturned⟩
      rw [hReturned]
      exact nofun
  | unsupported type => exact ⟨nofun, nofun⟩

------------------------------------------------------------
-- Actions That Crash
------------------------------------------------------------

theorem Raises.of_task
    {task : Task}
    (hTask :
      Task.ofConfig action.kind
        (filledConfig action context) = .ok task)
    (hRaises : engine.TaskRaises scope context start task crash) :
    engine.Raises scope context start action crash :=
  ⟨[], action, task, .here, hTask, hRaises⟩

theorem Raises.of_selected
    {task : BranchTask}
    {chosen : Action}
    (hTask :
      Task.ofConfig action.kind
        (filledConfig action context) = .ok (.branch task))
    (hSelected : task.selected? engine.patterns context = some chosen)
    (hRaises : engine.Raises scope context start chosen crash) :
    engine.Raises scope context start action crash := by
  rcases hRaises with ⟨outer, last, inner, hLeads, hInner⟩
  exact ⟨_, last, inner, .into hTask hSelected hLeads, hInner⟩

/- A crash of an action is raised by a call of its own. -/
theorem raises_of_executeWithin
    {depth : Nat}
    (hChild : runChild.Sound engine)
    (hEnding :
      (engine.executeWithin runChild scope depth action context
        start).ending = .crashed crash) :
    engine.Raises scope context start action crash := by
  induction depth generalizing action start with
  | zero => cases hEnding
  | succ depth ih =>
      cases hTask :
          Task.ofConfig action.kind
            (filledConfig action context) with
      | error fault =>
          rw [executeWithin_of_fault depth hTask] at hEnding
          cases hEnding
      | ok task =>
          rw [executeWithin_of_task depth hTask,
            Activity.andThen_done_crashed_iff] at hEnding
          by_cases hBranch : ∃ branch, task = .branch branch
          · rcases hBranch with ⟨branch, rfl⟩
            cases hSelected : branch.selected? engine.patterns context with
            | none =>
                rw [runTask, runBranch_of_none hSelected]
                  at hEnding
                cases hEnding
            | some chosen =>
                rw [runTask, runBranch_of_selected hSelected,
                  Activity.andThen_done_crashed_iff] at hEnding
                exact .of_selected hTask hSelected (ih hEnding)
          · have hOther : ∀ branch, task ≠ .branch branch :=
              fun branch hEq => hBranch ⟨branch, hEq⟩
            exact .of_task hTask
              ((runTask_crashed_iff hChild hOther).mp hEnding)

/- An action crashes just when a call of its own does. -/
theorem execute_crashed_iff
    (hChild : runChild.Sound engine) :
    (engine.execute runChild scope action context
        start).ending = .crashed crash ↔
      engine.Raises scope context start action crash := by
  refine ⟨raises_of_executeWithin hChild, ?_⟩
  rintro ⟨outer, last, task, hLeads, hTask, hRaises⟩
  have hOther : ∀ branch, task ≠ .branch branch := by
    rintro branch rfl
    cases hRaises
  rw [execute_of_leads hLeads,
    Activity.andThen_done_crashed_iff, execute,
    executeWithin_of_task _ hTask,
    Activity.andThen_done_crashed_iff,
    runTask_crashed_iff hChild hOther]
  exact hRaises

/- A deadline can only hold a crash back. -/
theorem raises_of_dispatch
    (hChild : runChild.Sound engine)
    (hEnding :
      (engine.dispatch runChild scope action context
        start).ending = .crashed crash) :
    engine.Raises scope context start action crash := by
  cases hCut :
      cutSteps? scope.deadline
        (engine.execute runChild scope action context
          start).steps with
  | some left =>
      rw [dispatch_of_cut hCut] at hEnding
      cases hEnding
  | none =>
      rw [dispatch_of_uncut hCut] at hEnding
      exact (execute_crashed_iff hChild).mp hEnding

/- An action that is over before its deadline crashes with its call. -/
theorem dispatch_of_raises
    (hChild : runChild.Sound engine)
    (hRaises : engine.Raises scope context start action crash)
    (hTime :
      finishOf start
          (engine.dispatch runChild scope action context
            start).steps <
        scope.deadline) :
    (engine.dispatch runChild scope action context
      start).ending = .crashed crash := by
  cases hCut :
      cutSteps? scope.deadline
        (engine.execute runChild scope action context
          start).steps with
  | some left =>
      rw [dispatch_of_cut hCut] at hTime
      exact absurd hTime
        (Nat.not_lt_of_le (deadline_le_finishOf_of_cut hCut))
  | none =>
      rw [dispatch_of_uncut hCut]
      exact (execute_crashed_iff hChild).mpr hRaises

end Engine

end Automation
