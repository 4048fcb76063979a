import Automation.Engine.Dispatch
import Automation.Proofs.Activities

/-
  What tasks come to.

  A task that is a branch comes to what the selected action comes to, and
  a task that starts another rule comes to what the report of its run
  says.

  Key definitions include:
    * `BranchTask.selected?`, the action that a condition selects
    * `Engine.branchFinished`, a branch once its action is over
    * `Engine.concluded`, an action once its task is over
    * `Engine.offline`, an engine that nobody answers

  Key theorems include:
    * `Scope.checkChain_cases`, what the check of a chain comes to
    * `Engine.chainedRule_eq_ok`, what is known of a rule that is started
    * `Engine.runBranch_of_selected`, what a branch comes to
    * `Engine.runRule_of_report`, what a chained run comes to
    * `Engine.executeWithin_of_task`, what an action comes to
-/

namespace Automation

------------------------------------------------------------
-- Chains
------------------------------------------------------------

/- A rule is in the chain, or the chain is too long, or it may start. -/
theorem Scope.checkChain_cases
    (scope : Scope)
    (id : String)
    (maxDepth : Nat) :
    (id ∈ scope.chain ∧
      scope.checkChain id maxDepth =
        .error (.cycle id scope.chain)) ∨
      (id ∉ scope.chain ∧ maxDepth < scope.depth + 1 ∧
        scope.checkChain id maxDepth =
          .error (.tooDeep id maxDepth)) ∨
      (id ∉ scope.chain ∧ scope.depth + 1 ≤ maxDepth ∧
        scope.checkChain id maxDepth = .ok ()) := by
  by_cases hChain : id ∈ scope.chain
  · exact Or.inl ⟨hChain, by simp [checkChain, hChain]⟩
  · by_cases hDepth : maxDepth < scope.depth + 1
    · exact Or.inr (Or.inl
        ⟨hChain, hDepth, by simp [checkChain, hChain, hDepth]⟩)
    · exact Or.inr (Or.inr
        ⟨hChain, Nat.le_of_not_lt hDepth,
          by simp [checkChain, hChain, hDepth]⟩)

------------------------------------------------------------
-- Branches
------------------------------------------------------------

namespace BranchTask

/- Whether the condition of a branch holds. -/
def verdict
    (task : BranchTask)
    (patterns : PatternLibrary)
    (context : Context) :
    Bool :=
  (task.condition.evaluate patterns context).holds

/- The action that the condition of a branch selects. -/
def selected?
    (task : BranchTask)
    (patterns : PatternLibrary)
    (context : Context) :
    Option Action :=
  if task.verdict patterns context then task.thenAction?
  else task.elseAction?

end BranchTask

namespace Engine

variable {engine : Engine}
variable {runChild : RunChild}
variable {patterns : PatternLibrary}
variable {scope : Scope}
variable {context : Context}

/- The name of the side of a branch that a verdict selects. -/
def branchName
    (verdict : Bool) :
    String :=
  if verdict then "then" else "else"

/- What a branch has come to, from what its action has come to. -/
def branchFinished
    (verdict : Bool)
    (finished : ActionResult × Context) :
    TaskResult × Context :=
  (.ok
    (branchResult verdict (branchName verdict)
      (some finished.1)),
    finished.2)

theorem runBranch_of_none
    {execute :
      Action → Context → Activity (ActionResult × Context)}
    {task : BranchTask}
    (hSelected : task.selected? patterns context = none) :
    runBranch patterns execute task context =
      Activity.done
        (.ok
          (branchResult (task.verdict patterns context)
            (branchName (task.verdict patterns context)) none),
          context) := by
  unfold BranchTask.selected? at hSelected
  unfold runBranch
  rw [← BranchTask.verdict] at *
  simp only [hSelected]
  rfl

theorem runBranch_of_selected
    {execute :
      Action → Context → Activity (ActionResult × Context)}
    {task : BranchTask}
    {action : Action}
    (hSelected : task.selected? patterns context = some action) :
    runBranch patterns execute task context =
      (execute action context).andThen fun finished =>
        Activity.done
          (branchFinished (task.verdict patterns context) finished) := by
  unfold BranchTask.selected? at hSelected
  unfold runBranch
  rw [← BranchTask.verdict] at *
  simp only [hSelected]
  rfl

------------------------------------------------------------
-- Other Rules
------------------------------------------------------------

/- What has been checked of a rule that is started. -/
theorem chainedRule_eq_ok
    {id : String}
    {rule : Rule}
    (hRule : engine.chainedRule scope id = .ok rule) :
    id ∉ scope.chain ∧
      scope.depth + 1 ≤ engine.settings.maxChainDepth ∧
      engine.collaborators.rule id = .ok (some rule) ∧
      rule.active = true := by
  unfold chainedRule at hRule
  split at hRule
  · cases hRule
  · rcases scope.checkChain_cases id
        engine.settings.maxChainDepth with
      ⟨_, hCheck⟩ | ⟨_, _, hCheck⟩ | ⟨hChain, hDepth, hCheck⟩
    · rw [hCheck] at hRule
      cases hRule
    · rw [hCheck] at hRule
      cases hRule
    · rw [hCheck] at hRule
      cases hFind : engine.collaborators.rule id with
      | error fault =>
          rw [hFind] at hRule
          cases hRule
      | ok found =>
          rw [hFind] at hRule
          cases found with
          | none => cases hRule
          | some found =>
              dsimp only at hRule
              split at hRule
              · rename_i hActive
                cases hRule
                exact ⟨hChain, hDepth, rfl, hActive⟩
              · cases hRule

theorem runRule_of_fault
    {task : RuleTask}
    {fault : ActionFault}
    (hRule :
      engine.chainedRule scope task.rule = .error fault) :
    engine.runRule runChild scope task context =
      Activity.done (.error fault) := by
  simp [runRule, hRule]

/- What a run that is over before its deadline comes to. -/
def chainedOutcome
    (report : Report) :
    Achievement :=
  if report.isCompleted then .success report.document
  else
    .failed report.document
      (report.error?.getD
        ("Chained rule " ++ report.ruleId ++ " failed"))

theorem chainedResult_of_lt
    {finish : Nat}
    (report : Report)
    (hFinish : finish < scope.deadline) :
    chainedResult scope finish report =
      chainedOutcome report := by
  have hExpired : scope.isExpired finish = false := by
    simpa [Scope.isExpired] using hFinish
  simp [chainedResult, chainedOutcome, hExpired]

/- The run that a task starts is announced, and its report taken up. -/
theorem runRule_of_report
    {task : RuleTask}
    {start : Nat}
    {rule : Rule}
    {report : Report}
    (hRule : engine.chainedRule scope task.rule = .ok rule)
    (hReport :
      (runChild rule (task.input?.getD context.input)
        (scope.child rule engine.settings.runTimeout start)
        start).ending = .returned report) :
    engine.runRule runChild scope task context start =
      let child :=
        scope.child rule engine.settings.runTimeout start
      let steps :=
        announcedSteps rule.id child start
          (runChild rule (task.input?.getD context.input)
            child start).steps
      ⟨steps,
        .returned
          (.ok
            (chainedResult child (finishOf start steps)
              report))⟩ := by
  have hAnnounced :
      Activity.announced rule.id
        (scope.child rule engine.settings.runTimeout start)
        (runChild rule (task.input?.getD context.input)
          (scope.child rule engine.settings.runTimeout start))
        start = _ :=
    Activity.announced_apply hReport
  simp [runRule, hRule, Activity.andThen, Activity.now,
    hAnnounced]

------------------------------------------------------------
-- Tasks Without Variables
------------------------------------------------------------

theorem keeping_steps
    (activity : Activity TaskResult)
    (start : Nat) :
    (keeping context activity start).steps =
      (activity start).steps := by
  unfold keeping
  rw [Activity.bind_eq_andThen,
    Activity.andThen_steps_of_still]
  intro result time
  rfl

------------------------------------------------------------
-- Actions
------------------------------------------------------------

/- The result of an action and the variables, once its task is over. -/
def concluded
    (action : Action)
    (finished : TaskResult × Context) :
    ActionResult × Context :=
  (resultOf action finished.1,
    writeOutput action (resultOf action finished.1) finished.2)

theorem executeWithin_of_fault
    {action : Action}
    {fault : ActionFault}
    (depth : Nat)
    (hTask :
      Task.ofConfig action.kind
        (filledConfig action context) = .error fault) :
    engine.executeWithin runChild scope (depth + 1) action
        context =
      Activity.done (resultOf action (.error fault), context) := by
  simp [executeWithin, hTask]

theorem executeWithin_of_task
    {action : Action}
    {task : Task}
    (depth : Nat)
    (hTask :
      Task.ofConfig action.kind
        (filledConfig action context) = .ok task) :
    engine.executeWithin runChild scope (depth + 1) action
        context =
      (engine.runTask runChild scope
        (engine.executeWithin runChild scope depth) task
        context).andThen fun finished =>
          Activity.done (concluded action finished) := by
  rw [executeWithin]
  simp only [hTask]
  rfl

/- An action that starts another rule. -/
theorem executeWithin_of_rule
    {action : Action}
    {task : RuleTask}
    (depth : Nat)
    (hTask :
      Task.ofConfig action.kind
        (filledConfig action context) = .ok (.rule task)) :
    engine.executeWithin runChild scope (depth + 1) action
        context =
      (engine.runRule runChild scope task context).andThen
        fun outcome =>
          Activity.done (concluded action (outcome, context)) := by
  rw [executeWithin_of_task depth hTask]
  exact Activity.andThen_done_andThen _
    (fun outcome => (outcome, context)) _

/- What an action comes to is concluded from what its task comes to. -/
theorem executeWithin_returned
    {depth : Nat}
    {action : Action}
    {start : Nat}
    {finished : ActionResult × Context}
    (hEnding :
      (engine.executeWithin runChild scope depth action context
        start).ending = .returned finished) :
    ∃ outcome, finished = concluded action outcome := by
  cases depth with
  | zero =>
      cases hEnding
      exact ⟨(.error _, context), rfl⟩
  | succ depth =>
      cases hTask :
          Task.ofConfig action.kind
            (filledConfig action context) with
      | error fault =>
          rw [executeWithin_of_fault depth hTask] at hEnding
          cases hEnding
          exact ⟨(.error fault, context), rfl⟩
      | ok task =>
          rw [executeWithin_of_task depth hTask] at hEnding
          rcases Activity.returned_of_andThen_done hEnding with
            ⟨outcome, _, hFinished⟩
          exact ⟨outcome, hFinished⟩

/- An action takes the steps that its deadline leaves. -/
theorem dispatch_steps
    (action : Action)
    (start : Nat) :
    (engine.dispatch runChild scope action context
        start).steps =
      stepsBy scope.deadline
        (engine.execute runChild scope action context
          start).steps := by
  unfold dispatch
  rw [Activity.bind_eq_andThen,
    Activity.andThen_steps_of_still, Activity.within_steps]
  intro finished time
  cases finished <;> rfl

/- An action that the deadline cuts short fails. -/
theorem dispatch_of_cut
    {action : Action}
    {start : Nat}
    {steps : List Step}
    (hCut :
      cutSteps? scope.deadline
          (engine.execute runChild scope action context
            start).steps = some steps) :
    engine.dispatch runChild scope action context start =
      ⟨steps,
        .returned
          (resultOf action (.error (.timeout scope.budget)),
            context)⟩ := by
  unfold dispatch
  simp [Activity.andThen, Activity.within, hCut]

/- An action that the deadline does not cut short is carried out. -/
theorem dispatch_of_uncut
    {action : Action}
    {start : Nat}
    (hCut :
      cutSteps? scope.deadline
          (engine.execute runChild scope action context
            start).steps = none) :
    engine.dispatch runChild scope action context start =
      engine.execute runChild scope action context start := by
  cases hEpisode :
      engine.execute runChild scope action context start with
  | mk steps ending =>
      rw [hEpisode] at hCut
      unfold dispatch
      cases ending <;>
        simp [Activity.andThen, Activity.within, hEpisode, hCut]

/- A result is that of its action. -/
theorem resultOf_names
    (action : Action)
    (outcome : TaskResult) :
    (resultOf action outcome).actionId = action.id ∧
      (resultOf action outcome).actionType = action.type := by
  cases outcome <;> exact ⟨rfl, rfl⟩

theorem dispatch_names
    {action : Action}
    {start : Nat}
    {result : ActionResult}
    {after : Context}
    (hEnding :
      (engine.dispatch runChild scope action context
        start).ending = .returned (result, after)) :
    result.actionId = action.id ∧
      result.actionType = action.type := by
  cases hCut :
      cutSteps? scope.deadline
        (engine.execute runChild scope action context
          start).steps with
  | some steps =>
      rw [dispatch_of_cut hCut] at hEnding
      cases hEnding
      exact resultOf_names _ _
  | none =>
      rw [dispatch_of_uncut hCut] at hEnding
      rcases executeWithin_returned hEnding with
        ⟨outcome, hFinished⟩
      cases hFinished
      exact resultOf_names _ _

------------------------------------------------------------
-- An Engine Without Collaborators
------------------------------------------------------------

/- Nobody answers, and there are no other rules. -/
def offline : Engine where
  settings := .standard
  collaborators :=
    { model := Collaborators.noModel
      notify := fun _ _ => .fail (.notConfigured "notifier")
      webhook := fun _ _ => .fail (.notConfigured "webhook")
      rule := fun _ => .ok none }
  patterns := .standard
  stamp := default
  timely := by decide

end Engine

end Automation
