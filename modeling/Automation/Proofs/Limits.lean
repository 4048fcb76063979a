import Automation.Proofs.Calm
import Automation.Proofs.KeepingUp

/-
  Limits are only limits.

  When no job of a run hits a limit, wider limits change nothing: each job
  comes to the same, started no later and over no later.  With a limit on
  the actions that are carried out at a time, this holds as a permit that
  is free no later makes every action start no later.  A call that is made
  sooner must get the same reply, so replies depend on the request only.

  What is left is the clock: a wider timeout can be too long for it.

  Key definitions include:
    * `Engine.Widens` and `Setup.Widens`, wider limits
    * `Scope.Loosens`, a job's scope under wider limits
    * `Engine.Follows`, a job that comes to the same under wider limits

  Key theorems include:
    * `Engine.runSequential_keepsUp`, actions one after the other
    * `Engine.follows_of_inner`, a job follows when the jobs it starts do
    * `Engine.run_eq_of_widens`, calm runs under wider limits
    * `Setup.run_setup`, an engine as a setup
    * `Setup.run_widened`, with any limit on the time of a run
-/

namespace Automation

------------------------------------------------------------
-- Wider Limits
------------------------------------------------------------

/- Limits that are at least as wide, and nothing else that is new. -/
structure Settings.Widens
    (narrow wide : Settings) : Prop where
  depth_le : narrow.maxChainDepth ≤ wide.maxChainDepth
  timeout_le : narrow.runTimeout ≤ wide.runTimeout
  actions_le :
    narrow.maxParallelActions ≤ wide.maxParallelActions
  cost_eq : wide.defaultBaseCost = narrow.defaultBaseCost
  webhook_eq : wide.webhookTimeout = narrow.webhookTimeout

/-
  The same collaborators, under wider limits.  What a report says of a run
  that the run does not decide is the same as well.
-/
structure Engine.Widens
    (narrow wide : Engine) : Prop where
  settings : narrow.settings.Widens wide.settings
  collaborators_eq : wide.collaborators = narrow.collaborators
  patterns_eq : wide.patterns = narrow.patterns
  stamp_eq : wide.stamp = narrow.stamp

/-
  The scope of a job that is started no later under wider limits, with a
  deadline that is no earlier.
-/
structure Scope.Loosens
    (timeout : Nat)
    (tight : Scope)
    (late : Nat)
    (loose : Scope)
    (early : Nat) : Prop where
  alike : Scope.AlikeUntil tight.deadline tight loose
  early_le : early ≤ late
  deadline_le : tight.deadline ≤ early + timeout

namespace Scope.Loosens

variable {timeout late early later sooner : Nat}
variable {tight loose : Scope}

theorem root
    {narrow wide : Settings}
    (hWidens : narrow.Widens wide)
    (rule : Rule)
    (start : Nat) :
    Loosens wide.runTimeout
      (Scope.root rule narrow.runTimeout start) start
      (Scope.root rule wide.runTimeout start) start where
  alike :=
    { rule_eq := rfl
      user_eq := rfl
      chain_eq := rfl
      depth_eq := rfl
      outer_deadline := Nat.le_refl _
      inner_deadline :=
        Nat.add_le_add_left hWidens.timeout_le start }
  early_le := Nat.le_refl _
  deadline_le := Nat.add_le_add_left hWidens.timeout_le start

/- The scope at later times. -/
theorem at_later
    (hLoosens : Loosens timeout tight late loose early)
    (hSooner : early ≤ sooner)
    (hLater : sooner ≤ later) :
    Loosens timeout tight later loose sooner where
  alike := hLoosens.alike
  early_le := hLater
  deadline_le := by
    have hDeadline := hLoosens.deadline_le
    omega

theorem child
    (hLoosens : Loosens timeout tight late loose early)
    (rule : Rule)
    (narrow : Nat) :
    Loosens timeout (tight.child rule narrow late) late
      (loose.child rule timeout early) early where
  alike :=
    { rule_eq := rfl
      user_eq := rfl
      chain_eq := by simp [Scope.child, hLoosens.alike.chain_eq]
      depth_eq := by simp [Scope.child, hLoosens.alike.depth_eq]
      outer_deadline := Nat.le_refl _
      inner_deadline := by
        have hDeadline := hLoosens.deadline_le
        have hInner := hLoosens.alike.inner_deadline
        simp only [Scope.child]
        omega }
  early_le := hLoosens.early_le
  deadline_le :=
    Nat.le_trans (Nat.min_le_left _ _) hLoosens.deadline_le

end Scope.Loosens

namespace Engine

open Activity

------------------------------------------------------------
-- Jobs Under Wider Limits
------------------------------------------------------------

/-
  A job that comes to the same under wider limits, when it is started no
  later.  Its scope may differ in its deadline and in its budget.
-/
def Follows
    (narrow wide : Engine) :
    Job → Prop
  | .run rule input trigger tight late =>
      ∀ loose early,
        tight.Loosens wide.settings.runTimeout late loose
            early →
          KeepsUp
            (narrow.runWithin narrow.runBelow rule input trigger
              tight) late
            (wide.runWithin wide.runBelow rule input trigger
              loose) early
  | .action action context tight late =>
      ∀ loose early,
        tight.Loosens wide.settings.runTimeout late loose
            early →
          KeepsUp
            (narrow.dispatch narrow.runBelow tight action
              context) late
            (wide.dispatch wide.runBelow loose action context)
            early
  | .execution action context tight late =>
      ∀ loose early,
        tight.Loosens wide.settings.runTimeout late loose
            early →
          Fits tight.deadline loose.deadline
            (narrow.execute narrow.runBelow tight action context)
            late
            (wide.execute wide.runBelow loose action context)
            early

section Widens

variable {narrow wide : Engine}
variable {tight loose : Scope}
variable {late early : Nat}

/- A rule that is not too deep under the one limit is checked alike. -/
theorem chainedRule_of_widens
    {id : String}
    (hWidens : narrow.Widens wide)
    (hScope : tight.AlikeUntil tight.deadline loose)
    (hDeep :
      ∀ other maxDepth,
        narrow.chainedRule tight id ≠
          .error (.chain (.tooDeep other maxDepth))) :
    wide.chainedRule loose id = narrow.chainedRule tight id := by
  unfold chainedRule at *
  rw [hWidens.collaborators_eq]
  cases hBlank : Text.isBlankText id with
  | true => rfl
  | false =>
      have hCheck :
          loose.checkChain id wide.settings.maxChainDepth =
            tight.checkChain id
              narrow.settings.maxChainDepth := by
        have hWide := hWidens.settings.depth_le
        rcases tight.checkChain_cases id
            narrow.settings.maxChainDepth with
          ⟨hChain, hCheck⟩ | ⟨_, _, hCheck⟩ |
            ⟨hChain, hDepth, hCheck⟩
        · rw [hCheck, Scope.checkChain, hScope.chain_eq]
          simp [hChain]
        · rw [hBlank, hCheck] at hDeep
          exact absurd rfl (hDeep _ _)
        · rw [hCheck, Scope.checkChain, hScope.chain_eq,
            hScope.depth_eq]
          simp [hChain]
          omega
      rw [hCheck]

------------------------------------------------------------
-- Executions
------------------------------------------------------------

/- The run of another rule, from the jobs that it is made of. -/
theorem runRule_fits
    {action : Action}
    {context : Context}
    {task : RuleTask}
    (hWidens : narrow.Widens wide)
    (hScope :
      tight.Loosens wide.settings.runTimeout late loose early)
    (hTask :
      Task.ofConfig action.kind
        (filledConfig action context) = .ok (.rule task))
    (hLimit :
      ¬ narrow.HitsLimit (.execution action context tight late))
    (hInner :
      ∀ inner,
        narrow.Starts (.execution action context tight late)
            inner →
          narrow.Follows wide inner) :
    Fits tight.deadline loose.deadline
      (narrow.runRule narrow.runBelow tight task context) late
      (wide.runRule wide.runBelow loose task context) early := by
  have hSame :
      wide.chainedRule loose task.rule =
        narrow.chainedRule tight task.rule := by
    apply chainedRule_of_widens hWidens hScope.alike
    intro id maxDepth hRule
    exact hLimit (.refused hTask hRule)
  cases hRule : narrow.chainedRule tight task.rule with
  | error fault =>
      rw [runRule_of_fault hRule,
        runRule_of_fault (hSame.trans hRule)]
      exact .done _ hScope.early_le
  | ok rule =>
      have hChild := hScope.child rule narrow.settings.runTimeout
      have hKeeps :
          KeepsUp
            (narrow.runWithin narrow.runBelow rule
              (task.input?.getD context.input) .chained
              (tight.child rule narrow.settings.runTimeout late))
            late
            (wide.runWithin wide.runBelow rule
              (task.input?.getD context.input) .chained
              (loose.child rule wide.settings.runTimeout early))
            early :=
        hInner _ (.chain hTask hRule) _ _ hChild
      rcases runWithin_apply rule
          (task.input?.getD context.input) .chained late with
        ⟨report, hRun⟩
      have hReport := congrArg Episode.ending hRun
      have hTime :=
        Nat.lt_of_not_le fun hLate =>
          hLimit (.overdue hTask hRule hLate)
      have hLoose := hChild.alike.inner_deadline
      have hFinish := hKeeps.finish_le
      have hSooner :
          finishOf early
              (wide.chainedRun loose rule task context
                early).steps <
            (loose.child rule wide.settings.runTimeout
              early).deadline :=
        Nat.lt_of_le_of_lt hFinish
          (Nat.lt_of_lt_of_le hTime hLoose)
      have hNarrow := runRule_of_chainedRun hRule hReport hTime
      have hWide :=
        runRule_of_chainedRun (hSame.trans hRule)
          (hKeeps.ending_eq.trans hReport) hSooner
      constructor
      case toKeepsUp =>
        constructor
        · rw [hNarrow, hWide]
        · rw [hNarrow, hWide, finishOf_announcedSteps,
            finishOf_announcedSteps]
          exact hFinish
      case uncut =>
        intro _
        have hForward :=
          runWithin_forward wide
            (loose.child rule wide.settings.runTimeout early)
            rule (task.input?.getD context.input) .chained early
        rw [hWide]
        apply (hForward.announced _ _).cutSteps?_eq_none
        rw [finishOf_announcedSteps]
        exact Nat.lt_of_lt_of_le hSooner (Nat.min_le_left _ _)

/- A task, from the jobs that its action starts. -/
theorem runTask_fits
    {action : Action}
    {context : Context}
    {task : Task}
    {bound : Nat}
    (hWidens : narrow.Widens wide)
    (hSteady : narrow.collaborators.Steady)
    (hScope :
      tight.Loosens wide.settings.runTimeout late loose early)
    (hTask :
      Task.ofConfig action.kind
        (filledConfig action context) = .ok task)
    (hBound : action.config.depth ≤ bound)
    (hLimit :
      ¬ narrow.HitsLimit (.execution action context tight late))
    (hInner :
      ∀ inner,
        narrow.Starts (.execution action context tight late)
            inner →
          narrow.Follows wide inner) :
    Fits tight.deadline loose.deadline
      (narrow.runTask narrow.runBelow tight
        (narrow.executeWithin narrow.runBelow tight bound) task
        context) late
      (wide.runTask wide.runBelow loose
        (wide.executeWithin wide.runBelow loose bound) task
        context) early := by
  have hEarly := hScope.early_le
  have hDeadline := hScope.alike.inner_deadline
  have hAgree := hSteady late early
  cases task with
  | model task =>
      have hSame :
          wide.runModel loose task context =
            narrow.runModel tight task context := by
        unfold runModel
        rw [hWidens.collaborators_eq, hScope.alike.rule_eq,
          hScope.alike.user_eq]
      simp only [runTask]
      rw [hSame]
      exact ((runModel_brief hAgree task).fits hEarly
        hDeadline).andThen_done _
  | notice task =>
      have hSame :
          wide.runNotice loose task =
            narrow.runNotice tight task := by
        unfold runNotice
        rw [hWidens.collaborators_eq, hScope.alike.rule_eq,
          hScope.alike.user_eq]
      simp only [runTask]
      rw [hSame]
      exact ((runNotice_brief hAgree task).fits hEarly
        hDeadline).andThen_done _
  | webhook request =>
      have hSame :
          wide.runWebhook request =
            narrow.runWebhook request := by
        unfold runWebhook
        rw [hWidens.collaborators_eq]
      simp only [runTask]
      rw [hSame]
      exact ((runWebhook_brief hAgree request).fits hEarly
        hDeadline).andThen_done _
  | store task => exact .done _ hEarly
  | transform task => exact .done _ hEarly
  | branch task =>
      simp only [runTask]
      rw [hWidens.patterns_eq]
      cases hSelected : task.selected? narrow.patterns context with
      | none =>
          rw [runBranch_of_none hSelected,
            runBranch_of_none hSelected]
          exact .done _ hEarly
      | some chosen =>
          have hDepth :=
            BranchTask.depth_of_selected? hTask hSelected
          rw [depth_filledConfig] at hDepth
          have hChosen : chosen.config.depth < bound := by omega
          rw [runBranch_of_selected hSelected,
            runBranch_of_selected hSelected,
            executeWithin_eq_execute context hChosen,
            executeWithin_eq_execute context hChosen]
          have hFits :
              Fits tight.deadline loose.deadline
                (narrow.execute narrow.runBelow tight chosen
                  context) late
                (wide.execute wide.runBelow loose chosen context)
                early :=
            hInner _ (.select hTask hSelected) _ _ hScope
          exact hFits.andThen_done _
  | rule task =>
      simp only [runTask]
      exact (runRule_fits hWidens hScope hTask hLimit
        hInner).andThen_done _
  | unsupported type => exact .done _ hEarly

theorem execution_follows
    {action : Action}
    {context : Context}
    (hWidens : narrow.Widens wide)
    (hSteady : narrow.collaborators.Steady)
    (hLimit :
      ¬ narrow.HitsLimit (.execution action context tight late))
    (hInner :
      ∀ inner,
        narrow.Starts (.execution action context tight late)
            inner →
          narrow.Follows wide inner) :
    narrow.Follows wide
      (.execution action context tight late) := by
  intro loose early hScope
  unfold execute
  cases hTask :
      Task.ofConfig action.kind
        (filledConfig action context) with
  | error fault =>
      rw [executeWithin_of_fault _ hTask,
        executeWithin_of_fault _ hTask]
      exact .done _ hScope.early_le
  | ok task =>
      rw [executeWithin_of_task _ hTask,
        executeWithin_of_task _ hTask]
      exact (runTask_fits hWidens hSteady hScope hTask
        (Nat.le_refl _) hLimit hInner).andThen_done _

------------------------------------------------------------
-- Actions
------------------------------------------------------------

theorem action_follows
    {action : Action}
    {context : Context}
    (hLimit :
      ¬ narrow.HitsLimit (.action action context tight late))
    (hInner :
      ∀ inner,
        narrow.Starts (.action action context tight late)
            inner →
          narrow.Follows wide inner) :
    narrow.Follows wide
      (.action action context tight late) := by
  intro loose early hScope
  have hFits :
      Fits tight.deadline loose.deadline
        (narrow.execute narrow.runBelow tight action context)
        late
        (wide.execute wide.runBelow loose action context)
        early :=
    hInner _ .carryOut _ _ hScope
  have hUncut :
      cutSteps? tight.deadline
        (narrow.execute narrow.runBelow tight action context
          late).steps = none := by
    cases hCut :
        cutSteps? tight.deadline
          (narrow.execute narrow.runBelow tight action context
            late).steps with
    | none => rfl
    | some steps => exact absurd (.timedOut hCut) hLimit
  have hNarrow := dispatch_of_uncut hUncut
  have hWide := dispatch_of_uncut (hFits.uncut hUncut)
  constructor
  · rw [hNarrow, hWide]
    exact hFits.ending_eq
  · rw [hNarrow, hWide]
    exact hFits.finish_le

end Widens

------------------------------------------------------------
-- One Action After The Other
------------------------------------------------------------

/-
  Actions in order, each of which keeps up when the sequence comes to it.
  The sequence must not stop on the first deadline.
-/
theorem runSequential_keepsUp
    {slow fast :
      Action → Context → Activity (ActionResult × Context)}
    {tight loose : Scope}
    {actions : List Action}
    {context : Context}
    {late early : Nat}
    (hDeadline : tight.deadline ≤ loose.deadline)
    (hForward :
      ∀ action context time,
        time ≤ finishOf time (fast action context time).steps)
    (hEarly : early ≤ late)
    (hKeeps :
      ∀ action left time,
        Reaches slow tight context late actions action left
            time →
          ∀ sooner,
            early ≤ sooner →
              sooner ≤ time →
                KeepsUp (slow action left) time
                  (fast action left) sooner)
    (hStop :
      ∀ results error,
        (runSequential slow tight actions context late).ending ≠
          .returned (results, some error)) :
    KeepsUp (runSequential slow tight actions context) late
      (runSequential fast loose actions context) early := by
  induction actions generalizing context late early with
  | nil => exact .done _ hEarly
  | cons action rest ih =>
      have hTime : late < tight.deadline := by
        by_cases hLate : tight.deadline ≤ late
        · have hOver :
              runSequential slow tight (action :: rest) context
                  late = _ :=
            runSequential_of_late hLate
          exact absurd (congrArg Episode.ending hOver)
            (hStop _ _)
        · exact Nat.lt_of_not_le hLate
      have hSooner : early < loose.deadline := by omega
      have hFirst :=
        hKeeps action context late (.here hTime) early
          (Nat.le_refl _) hEarly
      have hSlowRun :
          runSequential slow tight (action :: rest) context
            late = _ :=
        runSequential_cons action rest context late
      have hFastRun :
          runSequential fast loose (action :: rest) context
            early = _ :=
        runSequential_cons action rest context early
      rw [if_neg (Nat.not_le_of_lt hTime)] at hSlowRun
      rw [if_neg (Nat.not_le_of_lt hSooner)] at hFastRun
      refine KeepsUp.of_eq (hFirst.andThen ?_) hSlowRun hFastRun
      intro finished hEnding
      rw [← halts]
      split
      · exact .done _ hFirst.finish_le
      · rename_i hResult
        have hGoesOn : halts action finished.1 = false := by
          simpa using hResult
        refine (ih hFirst.finish_le ?_ ?_).andThen_done _
        · intro other left time hReaches sooner hLess hLe
          exact hKeeps other left time
            (.later hTime hEnding hGoesOn hReaches) sooner
            (Nat.le_trans (hForward _ _ _) hLess) hLe
        · intro results error hError
          have hNext :
              runSequential slow tight (action :: rest) context
                late = _ :=
            runSequential_of_next hTime hEnding hGoesOn
          apply hStop (finished.1 :: results) error
          rw [hNext]
          dsimp only
          rw [andThen_apply_of_returned hError]
          rfl

/- The one error of a sequence is that of its budget. -/
theorem runSequential_error
    {dispatch :
      Action → Context → Activity (ActionResult × Context)}
    {scope : Scope}
    {actions : List Action}
    {context : Context}
    {start : Nat}
    {results : List ActionResult}
    {error : String}
    (hEnding :
      (runSequential dispatch scope actions context
        start).ending = .returned (results, some error)) :
    error = budgetError scope := by
  have hInPlace :
      ∀ action context start,
        Course.ofEpisode context
            (dispatch action context start) =
          .ofEpisode context (dispatch action context start) :=
    fun _ _ _ => rfl
  have hSequenced :=
    (runSequential_spec hInPlace actions context start
      hEnding).2.2
  exact Option.some.inj (hSequenced.expired (by simp)).1

------------------------------------------------------------
-- Runs
------------------------------------------------------------

section Widens

variable {narrow wide : Engine}
variable {tight loose : Scope}
variable {late early : Nat}

theorem evaluateAndAct_keepsUp
    {rule : Rule}
    {input : Document}
    {trigger : TriggerKind}
    (hWidens : narrow.Widens wide)
    (hScope :
      tight.Loosens wide.settings.runTimeout late loose early)
    (hLimit :
      ¬ narrow.HitsLimit (.run rule input trigger tight late))
    (hInner :
      ∀ inner,
        narrow.Starts (.run rule input trigger tight late)
            inner →
          narrow.Follows wide inner) :
    KeepsUp
      (narrow.evaluateAndAct narrow.runBelow rule
        (narrow.freshContext rule input trigger) tight) late
      (wide.evaluateAndAct wide.runBelow rule
        (narrow.freshContext rule input trigger) loose)
      early := by
  have hPatterns := hWidens.patterns_eq
  cases hMet :
      (rule.logic.condition.evaluate narrow.patterns
        (narrow.freshContext rule input trigger)).holds with
  | false =>
      have hWide := hMet
      rw [← hPatterns] at hWide
      rw [evaluateAndAct_of_unmet hMet,
        evaluateAndAct_of_unmet hWide, hPatterns]
      exact .done _ hScope.early_le
  | true =>
      have hWide := hMet
      rw [← hPatterns] at hWide
      cases hMode : rule.mode with
      | sequential =>
          rw [evaluateAndAct_of_sequential hMode hMet,
            evaluateAndAct_of_sequential hMode hWide, hPatterns]
          apply KeepsUp.andThen_done
          apply runSequential_keepsUp
            hScope.alike.inner_deadline
            (fun action left time =>
              (dispatch_runBelow_forward wide loose action left
                time).le_finishOf)
            hScope.early_le
          · intro action left time hReaches sooner hLess hLe
            exact hInner _ (.next hMode hMet hReaches) _ _
              (hScope.at_later hLess hLe)
          · intro results error hError
            have hBudget := runSequential_error hError
            have hOutcome :
                ∃ outcome,
                  (narrow.evaluateAndAct narrow.runBelow rule
                    (narrow.freshContext rule input trigger)
                    tight late).ending = .returned outcome ∧
                    outcome.error? = some error := by
              rw [evaluateAndAct_of_sequential hMode hMet,
                andThen_apply_of_returned hError]
              exact ⟨_, rfl, rfl⟩
            rcases hOutcome with ⟨outcome, hEnding, hSome⟩
            exact hLimit
              (.stopped hEnding (hSome.trans (congrArg some hBudget)))
      | parallel =>
          rw [evaluateAndAct_of_parallel hMode hMet,
            evaluateAndAct_of_parallel hMode hWide, hPatterns]
          apply KeepsUp.andThen_done
          have hMore := hWidens.settings.actions_le
          refine KeepsUp.andThen_done
            (KeepsUp.fanOut (permits_ne_zero _ _) (by omega)
              hScope.early_le
              (fun action time =>
                (dispatch_runBelow_forward narrow tight action _
                  time).le_finishOf)
              (fun action time =>
                (dispatch_runBelow_forward wide loose action _
                  time).le_finishOf)
              ?_) _
          intro time action hBranch sooner hLess hLe
          exact hInner _ (.beside hMode hMet hBranch) _ _
            (hScope.at_later hLess hLe)

theorem run_follows
    {rule : Rule}
    {input : Document}
    {trigger : TriggerKind}
    (hWidens : narrow.Widens wide)
    (hLimit :
      ¬ narrow.HitsLimit (.run rule input trigger tight late))
    (hInner :
      ∀ inner,
        narrow.Starts (.run rule input trigger tight late)
            inner →
          narrow.Follows wide inner) :
    narrow.Follows wide
      (.run rule input trigger tight late) := by
  intro loose early hScope
  have hKeeps :=
    evaluateAndAct_keepsUp hWidens hScope hLimit hInner
  have hReports :
      wide.reportOf rule input trigger =
        narrow.reportOf rule input trigger := by
    funext outcome
    simp only [reportOf, hWidens.stamp_eq,
      hWidens.settings.cost_eq]
  unfold runWithin
  rw [hWidens.stamp_eq, hReports]
  refine hKeeps.settled.andThen ?_
  intro ending hEnding
  have hFinish := hKeeps.settled.finish_le
  cases ending with
  | returned outcome => exact .done _ hFinish
  | crashed crash => exact .done _ hFinish

/- A job follows when it hits no limit and the jobs it starts follow. -/
theorem follows_of_inner
    {job : Job}
    (hWidens : narrow.Widens wide)
    (hSteady : narrow.collaborators.Steady)
    (hLimit : ¬ narrow.HitsLimit job)
    (hInner :
      ∀ inner,
        narrow.Starts job inner → narrow.Follows wide inner) :
    narrow.Follows wide job := by
  cases job with
  | run rule input trigger scope start =>
      exact run_follows hWidens hLimit hInner
  | action action context scope start =>
      exact action_follows hLimit hInner
  | execution action context scope start =>
      exact execution_follows hWidens hSteady hLimit hInner

theorem Calm.follows
    {job : Job}
    (hCalm : narrow.Calm job)
    (hWidens : narrow.Widens wide)
    (hSteady : narrow.collaborators.Steady) :
    narrow.Follows wide job := by
  induction job using (starts_wellFounded narrow).induction with
  | _ job ih =>
      apply follows_of_inner hWidens hSteady hCalm.not_hitsLimit
      intro inner hStarts
      exact ih inner hStarts (hCalm.of_starts hStarts)

/-
  A run that hits no limit, at any depth, returns the same report under
  limits that are at least as wide.  Wider limits may start a call sooner,
  so the replies must not depend on the time of the call.
-/
theorem run_eq_of_widens
    {rule : Rule}
    {input : Document}
    {trigger : TriggerKind}
    {activity : Activity Report}
    {start : Nat}
    (hWidens : narrow.Widens wide)
    (hSteady : narrow.collaborators.Steady)
    (hRun : narrow.run rule input trigger = .ok activity)
    (hCalm :
      narrow.Calm
        (.run rule input trigger
          (.root rule narrow.settings.runTimeout start)
          start)) :
    ∃ wider report,
      wide.run rule input trigger = .ok wider ∧
        (activity start).ending = .returned report ∧
        (wider start).ending = .returned report := by
  rcases exists_run (active_of_run hRun) input trigger with
    ⟨wider, hWider⟩
  have hKeeps :=
    hCalm.follows hWidens hSteady _ _
      (Scope.Loosens.root hWidens.settings rule start)
  rcases runWithin_apply rule input trigger start with
    ⟨report, hNarrow⟩
  have hReport := congrArg Episode.ending hNarrow
  have hWide := hKeeps.ending_eq.trans hReport
  refine ⟨wider, report, hWider, ?_, ?_⟩
  · rw [run_apply hRun, announced_apply hReport]
  · rw [run_apply hWider, announced_apply hWide]

end Widens

end Engine

------------------------------------------------------------
-- Setups With Wider Limits
------------------------------------------------------------

/- The setup of an engine. -/
def Engine.setup
    (engine : Engine) :
    Setup :=
  ⟨engine.settings, engine.collaborators, engine.patterns,
    engine.stamp⟩

namespace Setup

/- A setup with wider limits, and nothing else that is new. -/
structure Widens
    (narrow wide : Setup) : Prop where
  settings : narrow.settings.Widens wide.settings
  collaborators_eq : wide.collaborators = narrow.collaborators
  patterns_eq : wide.patterns = narrow.patterns
  stamp_eq : wide.stamp = narrow.stamp

variable {setup narrow wide : Setup}
variable {rule : Rule}
variable {input : Document}
variable {trigger : TriggerKind}
variable {activity : Activity Report}
variable {start : Nat}

theorem Widens.engine
    (hWidens : narrow.Widens wide) :
    narrow.engine.Widens wide.engine where
  settings :=
    { depth_le := hWidens.settings.depth_le
      timeout_le := by
        have hTimeout := hWidens.settings.timeout_le
        simp only [Setup.engine]
        omega
      actions_le := hWidens.settings.actions_le
      cost_eq := hWidens.settings.cost_eq
      webhook_eq := hWidens.settings.webhook_eq }
  collaborators_eq := hWidens.collaborators_eq
  patterns_eq := hWidens.patterns_eq
  stamp_eq := hWidens.stamp_eq

/- An engine is that of its setup. -/
theorem engine_setup
    (engine : Engine) :
    engine.setup.engine = engine := by
  have hTimeout := Nat.min_eq_left engine.timely
  simp only [Setup.engine, Engine.setup, hTimeout]

theorem timed_of_le
    (hTime :
      start + setup.settings.runTimeout ≤ Clock.latest) :
    setup.timed activity start = activity start := by
  have hNot := Nat.not_lt_of_le hTime
  simp [timed, bind, Activity.andThen, Activity.now, finishOf,
    hNot]

theorem timed_of_lt
    (hTime :
      Clock.latest < start + setup.settings.runTimeout) :
    setup.timed activity start = ⟨[], .crashed .overflow⟩ := by
  simp [timed, bind, Activity.andThen, Activity.now, finishOf,
    Activity.crash, hTime]

/- An engine never adds up to a time that is too late for a clock. -/
theorem timed_setup
    (engine : Engine)
    (hStart : start ≤ Clock.horizon) :
    engine.setup.timed activity start = activity start :=
  timed_of_le (Clock.add_le_latest hStart engine.timely)

theorem run_eq_ok
    (hRun : setup.run rule input trigger = .ok activity) :
    ∃ inner,
      setup.engine.run rule input trigger = .ok inner ∧
        activity = setup.timed inner := by
  rw [run] at hRun
  cases hInner : setup.engine.run rule input trigger with
  | error rejection =>
      rw [hInner] at hRun
      cases hRun
  | ok inner =>
      rw [hInner] at hRun
      exact ⟨inner, rfl, (Except.ok.inj hRun).symm⟩

/-
  The setup of an engine runs as the engine does.  So what every run of an
  engine satisfies, every run of its setup does.
-/
theorem run_setup
    {engine : Engine}
    (hRun : engine.run rule input trigger = .ok activity) :
    ∃ checked,
      engine.setup.run rule input trigger = .ok checked ∧
        ∀ start, start ≤ Clock.horizon →
          checked start = activity start := by
  refine ⟨engine.setup.timed activity, ?_, ?_⟩
  · rw [run, engine_setup, hRun]
    rfl
  · intro start hStart
    exact timed_setup engine hStart

/-
  A run that hits no limit, at any depth, under limits that are at least as
  wide.  It returns the same report as long as a clock can tell the wider
  deadline of every run that is started before the narrow deadline.  A
  deadline that is too late for a clock from the start leaves no report.
-/
theorem run_widened
    (hWidens : narrow.Widens wide)
    (hSteady : narrow.collaborators.Steady)
    (hRun : narrow.run rule input trigger = .ok activity)
    (hCalm :
      narrow.engine.Calm
        (.run rule input trigger
          (.root rule narrow.engine.settings.runTimeout start)
          start)) :
    ∃ wider,
      wide.run rule input trigger = .ok wider ∧
        (start + narrow.settings.runTimeout +
              wide.settings.runTimeout ≤ Clock.latest →
          ∃ report,
            (activity start).ending = .returned report ∧
              (wider start).ending = .returned report) ∧
        (Clock.latest < start + wide.settings.runTimeout →
          wider start = ⟨[], .crashed .overflow⟩) := by
  rcases run_eq_ok hRun with ⟨inner, hInner, rfl⟩
  rcases Engine.run_eq_of_widens hWidens.engine hSteady hInner
      hCalm with
    ⟨other, report, hOther, hReport, hSame⟩
  refine ⟨wide.timed other, ?_, ?_, timed_of_lt⟩
  · rw [run, hOther]
    rfl
  · intro hTime
    refine ⟨report, ?_, ?_⟩
    · rw [timed_of_le (by omega)]
      exact hReport
    · rw [timed_of_le (by omega)]
      exact hSame

end Setup

namespace Engine

/- An engine with wider limits. -/
def relaxed
    (engine : Engine) :
    Engine :=
  { engine with
    settings :=
      { engine.settings with
        maxChainDepth := 7
        runTimeout := 9000
        maxParallelActions := 2 }
    timely := (by decide : 9000 ≤ Clock.longest) }

/- A rule that asks a model, for others to start. -/
def innerRule : Rule :=
  ruleOf "inner" .sequential [asks "second"]

/- A rule that asks a model and starts another rule beside. -/
def outerRule : Rule :=
  ruleOf "outer" .parallel [asks "first", starts "inner"]

/- One action at a time. -/
def single : Engine :=
  unhurried 5000 1 [("inner", innerRule)]

theorem single_widens :
    single.setup.Widens single.relaxed.setup where
  settings := by constructor <;> decide
  collaborators_eq := rfl
  patterns_eq := rfl
  stamp_eq := rfl

theorem innerRule_calm :
    single.Calm
      (.run innerRule .null .chained
        ((Scope.root outerRule 5000 0).child innerRule 5000
          1000) 1000) := by
  refine .of_actions rfl rfl ?_
  intro inner hStarts
  cases hStarts with
  | next hMode hMet hReaches =>
      rcases (reaches_cons_iff.mp hReaches).2 with
        ⟨rfl, rfl, rfl⟩ | ⟨_, _, _, _, hLater⟩
      · refine .of_execution rfl (.of_task rfl ?_ ?_)
        · intro other hOther
          cases hOther
        · intro other hOther
          cases hOther
      · exact absurd hLater not_reaches_nil
  | beside hMode => cases hMode

theorem outerRule_calm :
    single.Calm
      (.run outerRule .null .manual (.root outerRule 5000 0)
        0) := by
  refine .of_actions rfl rfl ?_
  intro inner hStarts
  cases hStarts with
  | next hMode => cases hMode
  | @beside _ _ _ _ _ time action hMode hMet hBranch =>
      have hStarts :
          (time, action) ∈
            [(0, asks "first"), (1000, starts "inner")] :=
        hBranch
      rcases List.mem_cons.mp hStarts with hFirst | hRest
      · cases hFirst
        refine .of_execution rfl (.of_task rfl ?_ ?_)
        · intro other hOther
          cases hOther
        · intro other hOther
          cases hOther
      · cases List.mem_singleton.mp hRest
        exact .of_execution rfl
          (.of_run rfl rfl (by decide) innerRule_calm)

/-
  Both actions at a time come to what one at a time comes to, in half the
  time.
-/
theorem single_run_relaxed :
    ∃ activity wider report,
      single.setup.run outerRule .null .manual =
          .ok activity ∧
        single.relaxed.setup.run outerRule .null .manual =
          .ok wider ∧
        (activity 0).ending = .returned report ∧
        (wider 0).ending = .returned report ∧
        report.results.map (·.status) = [.success, .success] ∧
        finishOf 0 (activity 0).steps = 2000 ∧
        finishOf 0 (wider 0).steps = 1000 := by
  have hRun :
      ∃ activity,
        single.setup.run outerRule .null .manual =
          .ok activity := ⟨_, rfl⟩
  rcases hRun with ⟨activity, hRun⟩
  rcases Setup.run_widened single_widens
      (unhurried_steady 5000 1 _) hRun outerRule_calm with
    ⟨wider, hWider, hSame, _⟩
  rcases hSame (by decide) with ⟨report, hReport, hWide⟩
  refine ⟨activity, wider, report, hRun, hWider, hReport,
    hWide, ?_⟩
  have hSlow := Except.ok.inj hRun
  have hFast := Except.ok.inj hWider
  subst hSlow hFast
  refine ⟨?_, rfl, rfl⟩
  rw [← Ending.returned.inj hReport]
  rfl

/- The longest timeout that an environment can name. -/
def boundless : Setup :=
  let named :=
    Settings.ofEnvironment
      (Table.find?
        [("RULEFLOW_RUN_TIMEOUT_SECS",
          "18446744073709551615")])
  { single.setup with
    settings :=
      { single.settings with runTimeout := named.runTimeout } }

theorem boundless_timeout :
    boundless.settings.runTimeout = (UInt64.size - 1) * 1000 :=
  rfl

theorem single_widens_boundless :
    single.setup.Widens boundless where
  settings :=
    { depth_le := Nat.le_refl _
      timeout_le := by
        rw [boundless_timeout]
        decide
      actions_le := Nat.le_refl _
      cost_eq := rfl
      webhook_eq := rfl }
  collaborators_eq := rfl
  patterns_eq := rfl
  stamp_eq := rfl

/- A run that no limit changes has no report under the longest timeout. -/
theorem single_run_not_boundless :
    ∃ activity wider report,
      single.setup.Widens boundless ∧
        single.collaborators.Steady ∧
        single.setup.run outerRule .null .manual =
          .ok activity ∧
        single.Calm
          (.run outerRule .null .manual
            (.root outerRule 5000 0) 0) ∧
        (activity 0).ending = .returned report ∧
        boundless.run outerRule .null .manual = .ok wider ∧
        ∀ other, (wider 0).ending ≠ .returned other := by
  refine ⟨_, _, _, single_widens_boundless,
    unhurried_steady 5000 1 _, rfl, outerRule_calm, rfl, rfl,
    ?_⟩
  have hLate :
      Clock.latest < 0 + boundless.settings.runTimeout := by
    rw [boundless_timeout]
    decide
  intro other hOther
  rw [Setup.timed_of_lt hLate] at hOther
  cases hOther

end Engine

end Automation
