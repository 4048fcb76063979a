import Automation.Proofs.Containment
import Automation.Proofs.KeepingUp
import Mathlib.Logic.Relation

/-
  The jobs that a run is made of.

  A run starts actions, one after the other or side by side.  An action is
  carried out until its deadline; a branch carries out the action it
  selects, and an action may start the run of another rule.  A run below
  another is one level deeper, and a selected action is nested less deeply
  in its branch, so jobs do not start jobs forever.

  Key definitions include:
    * `Job`, a run, an action or its execution, at a time
    * `Engine.Starts`, the jobs that a job starts itself
    * `Engine.Involves`, those that it starts in the end
    * `Engine.Runs`, the runs of rules among them

  Key theorems include:
    * `Engine.starts_wellFounded`, jobs do not start jobs forever
    * `Engine.runs_of_occurs`, every run that is seen to start is a job
-/

namespace Automation

------------------------------------------------------------
-- Jobs
------------------------------------------------------------

/-
  The run of a rule, an action within its deadline, or the execution of an
  action, which nothing holds to a deadline.
-/
inductive Job where
  | run
      (rule : Rule)
      (input : Document)
      (trigger : TriggerKind)
      (scope : Scope)
      (start : Nat)
  | action
      (action : Action)
      (context : Context)
      (scope : Scope)
      (start : Nat)
  | execution
      (action : Action)
      (context : Context)
      (scope : Scope)
      (start : Nat)

namespace Job

def scope : Job → Scope
  | run _ _ _ scope _ => scope
  | action _ _ scope _ => scope
  | execution _ _ scope _ => scope

def start : Job → Nat
  | run _ _ _ _ start => start
  | action _ _ _ start => start
  | execution _ _ _ start => start

/- How far a run is from its executions. -/
def rank : Job → Nat
  | run .. => 2
  | action .. => 1
  | execution .. => 0

/- How deeply the branches of a job may be nested. -/
def nesting : Job → Nat
  | run .. => 0
  | action stated _ _ _ => stated.config.depth
  | execution stated _ _ _ => stated.config.depth

end Job

namespace Engine

variable {engine : Engine}

/- The permits that the actions of a parallel run share. -/
def permits
    (engine : Engine)
    (rule : Rule) :
    Nat :=
  max
    (min rule.logic.actions.length
      engine.settings.maxParallelActions) 1

/- The actions of a parallel run as they are carried out. -/
def branches
    (engine : Engine)
    (rule : Rule)
    (context : Context)
    (scope : Scope)
    (start : Nat) :
    List (Nat × Episode (ActionResult × Context)) :=
  Activity.schedule (List.replicate (engine.permits rule) start)
    (rule.logic.actions.map fun action =>
      engine.dispatch engine.runBelow scope action context)

/- The jobs that a job starts itself. -/
inductive Starts
    (engine : Engine) :
    Job → Job → Prop
  /- One action after the other. -/
  | next
      {rule : Rule}
      {input : Document}
      {trigger : TriggerKind}
      {scope : Scope}
      {start time : Nat}
      {action : Action}
      {left : Context}
      (hMode : rule.mode = .sequential)
      (hMet : engine.IsMet rule input trigger)
      (hReaches :
        Reaches (engine.dispatch engine.runBelow scope) scope
          (engine.freshContext rule input trigger) start
          rule.logic.actions action left time) :
      Starts engine (.run rule input trigger scope start)
        (.action action left scope time)
  /- Actions side by side, each when it has a permit. -/
  | beside
      {rule : Rule}
      {input : Document}
      {trigger : TriggerKind}
      {scope : Scope}
      {start time : Nat}
      {action : Action}
      (hMode : rule.mode = .parallel)
      (hMet : engine.IsMet rule input trigger)
      (hBranch :
        (time, action) ∈
          ((engine.branches rule
              (engine.freshContext rule input trigger) scope
              start).map (·.1)).zip rule.logic.actions) :
      Starts engine (.run rule input trigger scope start)
        (.action action (engine.freshContext rule input trigger)
          scope time)
  | carryOut
      {action : Action}
      {context : Context}
      {scope : Scope}
      {start : Nat} :
      Starts engine (.action action context scope start)
        (.execution action context scope start)
  | select
      {action chosen : Action}
      {context : Context}
      {scope : Scope}
      {start : Nat}
      {task : BranchTask}
      (hTask :
        Task.ofConfig action.kind
          (filledConfig action context) = .ok (.branch task))
      (hSelected : task.selected? engine.patterns context = some chosen) :
      Starts engine (.execution action context scope start)
        (.execution chosen context scope start)
  | chain
      {action : Action}
      {context : Context}
      {scope : Scope}
      {start : Nat}
      {task : RuleTask}
      {rule : Rule}
      (hTask :
        Task.ofConfig action.kind
          (filledConfig action context) = .ok (.rule task))
      (hRule : engine.chainedRule scope task.rule = .ok rule) :
      Starts engine (.execution action context scope start)
        (.run rule (task.input?.getD context.input) .chained
          (scope.child rule engine.settings.runTimeout start)
          start)

/- The jobs that a job starts in the end, itself included. -/
def Involves
    (engine : Engine) :
    Job → Job → Prop :=
  Relation.ReflTransGen engine.Starts

------------------------------------------------------------
-- Jobs Do Not Start Jobs Forever
------------------------------------------------------------

/-
  A job that is started is deeper below the outermost run, or comes later
  in the life of a run, or is nested less deeply in a branch.
-/
theorem Starts.descends
    {outer inner : Job}
    (hStarts : engine.Starts outer inner) :
    Prod.Lex (· < ·) (Prod.Lex (· < ·) (· < ·))
      (engine.settings.maxChainDepth - inner.scope.depth,
        inner.rank, inner.nesting)
      (engine.settings.maxChainDepth - outer.scope.depth,
        outer.rank, outer.nesting) := by
  cases hStarts with
  | next => exact .right _ (.left _ _ (Nat.lt_succ_self 1))
  | beside => exact .right _ (.left _ _ (Nat.lt_succ_self 1))
  | carryOut => exact .right _ (.left _ _ (Nat.lt_succ_self 0))
  | @select action chosen context _ _ _ hTask hSelected =>
      have hDepth :=
        BranchTask.depth_of_selected? hTask hSelected
      rw [depth_filledConfig] at hDepth
      have hLess : chosen.config.depth < action.config.depth := by
        omega
      exact .right _ (.right _ hLess)
  | @chain _ _ scope _ _ rule _ hRule =>
      have hDepth := (chainedRule_eq_ok hRule).2.1
      have hLess :
          engine.settings.maxChainDepth - (scope.depth + 1) <
            engine.settings.maxChainDepth - scope.depth := by
        omega
      exact .left _ _ hLess

/- Every job starts others only so often, whatever the limits are. -/
theorem starts_wellFounded
    (engine : Engine) :
    WellFounded fun inner outer => engine.Starts outer inner := by
  have hLex :=
    (Prod.lex Nat.lt_wfRel
      (Prod.lex Nat.lt_wfRel Nat.lt_wfRel)).wf
  exact Subrelation.wf Starts.descends
    (InvImage.wf _ hLex)

------------------------------------------------------------
-- Runs Are Jobs
------------------------------------------------------------

/- The steps that a job takes. -/
def stepsOf
    (engine : Engine) :
    Job → List Step
  | .run rule input trigger scope start =>
      (engine.runWithin engine.runBelow rule input trigger scope
        start).steps
  | .action action context scope start =>
      (engine.dispatch engine.runBelow scope action context
        start).steps
  | .execution action context scope start =>
      (engine.execute engine.runBelow scope action context
        start).steps

/- A job starts the run of a rule within a scope, in the end. -/
def Runs
    (engine : Engine)
    (job : Job)
    (id : String)
    (scope : Scope)
    (time : Nat) : Prop :=
  ∃ rule input,
    rule.id = id ∧
      engine.Involves job (.run rule input .chained scope time)

variable {job inner : Job}
variable {id : String}
variable {scope : Scope}
variable {time : Nat}

theorem Runs.of_starts
    (hStarts : engine.Starts job inner)
    (hRuns : engine.Runs inner id scope time) :
    engine.Runs job id scope time := by
  rcases hRuns with ⟨rule, input, hId, hInvolves⟩
  exact ⟨rule, input, hId, .head hStarts hInvolves⟩

/- What a sequence does is done by an action that it comes to. -/
theorem occurs_of_runSequential
    {dispatch :
      Action → Context → Activity (ActionResult × Context)}
    {within : Scope}
    {actions : List Action}
    {context : Context}
    {start : Nat}
    {step : Step}
    (hOccurs :
      step.Occurs
        (runSequential dispatch within actions context
          start).steps) :
    ∃ action left later,
      Reaches dispatch within context start actions action left
          later ∧
        step.Occurs (dispatch action left later).steps := by
  induction actions generalizing context start with
  | nil => exact absurd hOccurs Step.not_occurs_nil
  | cons action rest ih =>
      rw [runSequential_cons] at hOccurs
      split at hOccurs
      · exact absurd hOccurs Step.not_occurs_nil
      · rename_i hTime
        have hBefore := Nat.lt_of_not_le hTime
        rcases Activity.andThen_steps (dispatch action context)
            _ start with hSteps | ⟨finished, hEnding, hSteps⟩
        · rw [hSteps] at hOccurs
          exact ⟨_, _, _, .here hBefore, hOccurs⟩
        · rw [hSteps] at hOccurs
          rcases Step.occurs_append.mp hOccurs with
            hFirst | hRest
          · exact ⟨_, _, _, .here hBefore, hFirst⟩
          · split at hRest
            · exact absurd hRest Step.not_occurs_nil
            · rename_i hResult
              rw [Activity.andThen_done_steps] at hRest
              rcases ih hRest with
                ⟨other, left, later, hReaches, hOther⟩
              have hGoesOn :
                  halts action finished.1 = false := by
                simpa [halts] using hResult
              exact
                ⟨other, left, later,
                  .later hBefore hEnding hGoesOn hReaches,
                  hOther⟩

end Engine

namespace Activity

variable {α γ : Type}

/- What a schedule does is done by the work that is started then. -/
theorem mem_zip_of_mem_schedule
    {works : List γ}
    {activity : γ → Activity α}
    {free : List Nat}
    {branch : Nat × Episode α}
    (hBranch : branch ∈ schedule free (works.map activity)) :
    ∃ work,
      branch.2 = activity work branch.1 ∧
        (branch.1, work) ∈
          ((schedule free (works.map activity)).map (·.1)).zip
            works := by
  induction works generalizing free with
  | nil => cases hBranch
  | cons work rest ih =>
      rcases List.mem_cons.mp hBranch with rfl | hRest
      · exact ⟨work, rfl, List.mem_cons_self⟩
      · rcases ih hRest with ⟨other, hEpisode, hOther⟩
        exact ⟨other, hEpisode, List.mem_cons_of_mem _ hOther⟩

/- What activities side by side do is done in one of the branches. -/
theorem occurs_of_fanOut
    {permits deadline start time : Nat}
    {milestone : Milestone}
    {activities : List (Activity α)}
    (hOccurs :
      (Step.milestone time milestone).Occurs
        (fanOut permits deadline activities start).steps) :
    ∃ branch ∈
        schedule (List.replicate permits start) activities,
      (Step.milestone time milestone).Occurs branch.2.steps := by
  unfold fanOut at hOccurs
  split at hOccurs
  · exact absurd hOccurs Step.not_occurs_nil
  · cases hOccurs with
    | tail hRest => exact absurd hRest Step.not_occurs_nil
    | branch hBranch hInner =>
        rcases List.mem_map.mp hBranch with
          ⟨branch, hMember, rfl⟩
        exact ⟨branch, hMember, hInner⟩

/- A call is no milestone. -/
theorem Brief.not_milestone
    {activity : Activity α}
    {start : Nat}
    (hBrief : Brief start start activity)
    (milestone : Milestone)
    (time : Nat) :
    ¬ (Step.milestone time milestone).Occurs
      (activity start).steps := by
  intro hOccurs
  cases hBrief with
  | done a => exact Step.not_occurs_nil hOccurs
  | call call hAgree f =>
      rw [andThen_done_steps] at hOccurs
      cases hOccurs with
      | tail hRest => exact Step.not_occurs_nil hRest

end Activity

/- The run that starts between two milestones, or inside. -/
theorem started_of_announced
    {rule id : String}
    {outer scope : Scope}
    {start time : Nat}
    {steps : List Step}
    (hOccurs :
      (Step.milestone time (.started id scope)).Occurs
        (announcedSteps rule outer start steps)) :
    (time = start ∧ id = rule ∧ scope = outer) ∨
      (Step.milestone time (.started id scope)).Occurs
        steps := by
  cases hOccurs with
  | head => exact Or.inl ⟨rfl, rfl, rfl⟩
  | tail hRest =>
      rcases Step.occurs_append.mp hRest with hSteps | hLast
      · exact Or.inr hSteps
      · cases hLast with
        | tail hRest => exact absurd hRest Step.not_occurs_nil

namespace Engine

variable {engine : Engine}
variable {id : String}
variable {scope within : Scope}
variable {time start : Nat}

theorem runs_of_run_steps
    {rule : Rule}
    {input : Document}
    {trigger : TriggerKind}
    (hInner :
      ∀ inner,
        engine.Starts (.run rule input trigger within start)
            inner →
          (Step.milestone time (.started id scope)).Occurs
              (engine.stepsOf inner) →
            engine.Runs inner id scope time)
    (hOccurs :
      (Step.milestone time (.started id scope)).Occurs
        (engine.stepsOf
          (.run rule input trigger within start))) :
    engine.Runs (.run rule input trigger within start) id scope
      time := by
  rcases runWithin_apply rule input trigger start with
    ⟨report, hRun⟩
  have hActed :
      (Step.milestone time (.started id scope)).Occurs
        (engine.evaluateAndAct engine.runBelow rule
          (engine.freshContext rule input trigger) within
          start).steps := by
    rw [stepsOf, hRun] at hOccurs
    exact hOccurs
  cases hMet :
      (rule.logic.condition.evaluate engine.patterns
        (engine.freshContext rule input trigger)).holds with
  | false =>
      rw [evaluateAndAct_of_unmet hMet] at hActed
      exact absurd hActed Step.not_occurs_nil
  | true =>
      cases hMode : rule.mode with
      | sequential =>
          rw [evaluateAndAct_of_sequential hMode hMet,
            Activity.andThen_done_steps] at hActed
          rcases occurs_of_runSequential hActed with
            ⟨action, left, later, hReaches, hAction⟩
          have hStarts := Starts.next hMode hMet hReaches
          exact (hInner _ hStarts hAction).of_starts hStarts
      | parallel =>
          rw [evaluateAndAct_of_parallel hMode hMet,
            Activity.andThen_done_steps, runParallel_steps]
            at hActed
          rcases Activity.occurs_of_fanOut hActed with
            ⟨branch, hBranch, hAction⟩
          rcases Activity.mem_zip_of_mem_schedule hBranch with
            ⟨action, hEpisode, hMember⟩
          rw [hEpisode] at hAction
          have hStarts :
              engine.Starts
                (.run rule input trigger within start) _ :=
            .beside hMode hMet hMember
          exact (hInner _ hStarts hAction).of_starts hStarts

/- The run of another rule between its milestones. -/
theorem runRule_steps
    {task : RuleTask}
    {context : Context}
    {rule : Rule}
    (hRule : engine.chainedRule within task.rule = .ok rule) :
    (engine.runRule engine.runBelow within task context
        start).steps =
      announcedSteps rule.id
        (within.child rule engine.settings.runTimeout start)
        start
        (engine.chainedRun within rule task context
          start).steps := by
  rcases (runBelow_sound engine).returns rule
      (task.input?.getD context.input)
      (within.child rule engine.settings.runTimeout start)
      start with ⟨report, hReport⟩
  rw [runRule_of_report hRule hReport]
  dsimp only
  rw [runBelow_eq_chainedRun hRule]

theorem runs_of_execution_steps
    {action : Action}
    {context : Context}
    (hInner :
      ∀ inner,
        engine.Starts (.execution action context within start)
            inner →
          (Step.milestone time (.started id scope)).Occurs
              (engine.stepsOf inner) →
            engine.Runs inner id scope time)
    (hOccurs :
      (Step.milestone time (.started id scope)).Occurs
        (engine.stepsOf
          (.execution action context within start))) :
    engine.Runs (.execution action context within start) id
      scope time := by
  rw [stepsOf, execute] at hOccurs
  cases hTask :
      Task.ofConfig action.kind
        (filledConfig action context) with
  | error fault =>
      rw [executeWithin_of_fault _ hTask] at hOccurs
      exact absurd hOccurs Step.not_occurs_nil
  | ok task =>
      rw [executeWithin_of_task _ hTask,
        Activity.andThen_done_steps] at hOccurs
      have hAgree := engine.collaborators.agreeAt_self start
      cases task with
      | model task =>
          rw [runTask, keeping_steps] at hOccurs
          exact absurd hOccurs
            ((runModel_brief hAgree task).not_milestone _ _)
      | notice task =>
          rw [runTask, keeping_steps] at hOccurs
          exact absurd hOccurs
            ((runNotice_brief hAgree task).not_milestone _ _)
      | webhook request =>
          rw [runTask, keeping_steps] at hOccurs
          exact absurd hOccurs
            ((runWebhook_brief hAgree request).not_milestone _ _)
      | store task => exact absurd hOccurs Step.not_occurs_nil
      | transform task =>
          exact absurd hOccurs Step.not_occurs_nil
      | branch task =>
          rw [runTask] at hOccurs
          cases hSelected : task.selected? engine.patterns context with
          | none =>
              rw [runBranch_of_none hSelected] at hOccurs
              exact absurd hOccurs Step.not_occurs_nil
          | some chosen =>
              have hDepth :=
                BranchTask.depth_of_selected? hTask hSelected
              rw [depth_filledConfig] at hDepth
              rw [runBranch_of_selected hSelected,
                Activity.andThen_done_steps,
                executeWithin_eq_execute context (by omega)]
                at hOccurs
              have hStarts :
                  engine.Starts
                    (.execution action context within start) _ :=
                .select hTask hSelected
              exact (hInner _ hStarts hOccurs).of_starts hStarts
      | rule task =>
          rw [runTask, keeping_steps] at hOccurs
          cases hRule : engine.chainedRule within task.rule with
          | error fault =>
              rw [runRule_of_fault hRule] at hOccurs
              exact absurd hOccurs Step.not_occurs_nil
          | ok rule =>
              have hStarts :
                  engine.Starts
                    (.execution action context within start) _ :=
                .chain hTask hRule
              rw [runRule_steps hRule] at hOccurs
              rcases started_of_announced hOccurs with
                ⟨rfl, rfl, rfl⟩ | hInside
              · exact ⟨_, _, rfl, .single hStarts⟩
              · exact (hInner _ hStarts hInside).of_starts
                  hStarts
      | unsupported type =>
          exact absurd hOccurs Step.not_occurs_nil

/- Every run that a job is seen to start is a job that it starts. -/
theorem runs_of_occurs
    {job : Job}
    (hOccurs :
      (Step.milestone time (.started id scope)).Occurs
        (engine.stepsOf job)) :
    engine.Runs job id scope time := by
  induction job using (starts_wellFounded engine).induction with
  | _ job ih =>
      cases job with
      | run rule input trigger within start =>
          exact runs_of_run_steps ih hOccurs
      | action action context within start =>
          have hSteps :
              (Step.milestone time (.started id scope)).Occurs
                (engine.stepsOf
                  (.execution action context within start)) := by
            rw [stepsOf, dispatch_steps] at hOccurs
            exact milestone_occurs_of_stepsBy hOccurs
          exact (ih _ .carryOut hSteps).of_starts .carryOut
      | execution action context within start =>
          exact runs_of_execution_steps ih hOccurs

end Engine

end Automation
