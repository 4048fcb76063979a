import Automation.Proofs.Containment

/-
  What the results of the actions make of a run.

  Whatever holds of the result of every action, as long as the contexts are
  of some kind and stay so, holds of all the results that a run reports: in
  both modes, on every way that a run can end, and of actions that crash.

  Key definitions include:
    * `Activity.Yields`, what holds of the values of an activity
    * `Engine.Carries`, what holds of the results of all actions
    * `Engine.EachResult`, the same for the results of a run

  Key theorems include:
    * `Engine.execute_yields_each`, from tasks to actions
    * `Engine.carries_dispatch`, from actions without a deadline
    * `Engine.runSequential_yields_each` and `runParallel_yields_each`
    * `Engine.runWithin_yields_each`, from actions to runs
-/

namespace Automation

------------------------------------------------------------
-- The Values Of Activities
------------------------------------------------------------

namespace Activity

variable {α β : Type}

/- What holds of every value that an activity ends with. -/
structure Yields
    (holds : α → Prop)
    (activity : Activity α) : Prop where
  of_returned :
    ∀ start a,
      (activity start).ending = .returned a → holds a

namespace Yields

variable {holds : α → Prop}
variable {later : β → Prop}
variable {activity : Activity α}

theorem done
    {a : α}
    (hValue : holds a) :
    (Activity.done a).Yields holds := by
  constructor
  intro _ _ hEnding
  cases hEnding
  exact hValue

theorem any
    (activity : Activity α) :
    activity.Yields fun _ => True :=
  ⟨fun _ _ _ => True.intro⟩

/- A value that an activity ends with, it has ended with at a time. -/
theorem reached
    (activity : Activity α) :
    activity.Yields fun a =>
      ∃ start, (activity start).ending = .returned a :=
  ⟨fun start _ hEnding => ⟨start, hEnding⟩⟩

theorem andThen
    {next : α → Activity β}
    (hFirst : activity.Yields holds)
    (hNext : ∀ a, holds a → (next a).Yields later) :
    (activity.andThen next).Yields later := by
  constructor
  intro start b hEnding
  cases hValue : (activity start).ending with
  | crashed crash =>
      rw [andThen_apply_of_crashed hValue] at hEnding
      cases hEnding
  | returned a =>
      rw [andThen_apply_of_returned hValue] at hEnding
      have hLater := hNext a (hFirst.of_returned start a hValue)
      exact hLater.of_returned _ b hEnding

theorem announced
    (rule : String)
    (scope : Scope)
    (hYields : activity.Yields holds) :
    (Activity.announced rule scope activity).Yields holds := by
  unfold Activity.announced
  apply andThen (any _)
  intro _ _
  apply andThen hYields
  intro a hValue
  apply andThen (any _)
  intro _ _
  exact done hValue

end Yields

/- Activities side by side end as each does that starts at some time. -/
theorem fanOut_yields
    (permits deadline : Nat)
    (activities : List (Activity α)) :
    (fanOut permits deadline activities).Yields fun endings =>
      endings.length = activities.length ∧
        ∀ (i : Nat) (ending : Ending α),
          endings[i]? = some ending →
            ∃ activity time,
              activities[i]? = some activity ∧
                ending = (activity time).ending := by
  constructor
  intro start endings hEnding
  rw [fanOut_ending] at hEnding
  cases hEnding
  refine ⟨by rw [List.length_map, length_schedule], ?_⟩
  intro i ending hEnding
  rw [List.getElem?_map] at hEnding
  rcases Option.map_eq_some_iff.mp hEnding with
    ⟨branch, hBranch, rfl⟩
  rcases getElem?_schedule hBranch with
    ⟨activity, hActivity, hEpisode⟩
  exact ⟨activity, branch.1, hActivity, by rw [hEpisode]⟩

end Activity

namespace Engine

------------------------------------------------------------
-- Results Of Actions
------------------------------------------------------------

/- What holds of each of the results of the first actions. -/
structure EachResult
    (holds : Action → ActionResult → Prop)
    (actions : List Action)
    (results : List ActionResult) : Prop where
  length_le : results.length ≤ actions.length
  each :
    ∀ (i : Nat) (action : Action) (result : ActionResult),
      actions[i]? = some action →
        results[i]? = some result →
          holds action result

/-
  What holds of the result of every action that is carried out in a context
  of some kind, and that leaves one.
-/
structure Carries
    (dispatch :
      Action → Context → Activity (ActionResult × Context))
    (allowed : Context → Prop)
    (holds : Action → ActionResult → Prop) : Prop where
  returned :
    ∀ action context,
      allowed context →
        (dispatch action context).Yields fun finished =>
          holds action finished.1 ∧ allowed finished.2
  crashed :
    ∀ action context start crash,
      allowed context →
        (dispatch action context start).ending =
            .crashed crash →
          holds action
            (.failed action.id action.type crash.actionError)

variable {holds : Action → ActionResult → Prop}
variable {allowed : Context → Prop}
variable {dispatch :
  Action → Context → Activity (ActionResult × Context)}
variable {engine : Engine}
variable {runChild : RunChild}
variable {scope : Scope}
variable {context : Context}
variable {rule : Rule}

namespace EachResult

theorem nil
    (actions : List Action) :
    EachResult holds actions [] :=
  ⟨Nat.zero_le _, nofun⟩

theorem cons
    {action : Action}
    {result : ActionResult}
    {actions : List Action}
    {results : List ActionResult}
    (hFirst : holds action result)
    (hRest : EachResult holds actions results) :
    EachResult holds (action :: actions)
      (result :: results) := by
  refine ⟨Nat.succ_le_succ hRest.length_le, ?_⟩
  intro i other otherResult hAction hResult
  cases i with
  | zero =>
      cases hAction
      cases hResult
      exact hFirst
  | succ i =>
      exact hRest.each i other otherResult hAction hResult

/- Every result is the result of an action. -/
theorem of_mem
    {actions : List Action}
    {results : List ActionResult}
    {result : ActionResult}
    (hEach : EachResult holds actions results)
    (hResult : result ∈ results) :
    ∃ action ∈ actions, holds action result := by
  rcases List.getElem?_of_mem hResult with ⟨i, hI⟩
  rcases List.getElem?_eq_some_iff.mp hI with ⟨hLess, _⟩
  have hBound : i < actions.length :=
    Nat.lt_of_lt_of_le hLess hEach.length_le
  have hAction : actions[i]? = some actions[i] :=
    List.getElem?_eq_getElem hBound
  exact
    ⟨actions[i], List.getElem_mem hBound,
      hEach.each i _ _ hAction hI⟩

end EachResult

------------------------------------------------------------
-- Actions
------------------------------------------------------------

/-
  A rule that is started gives its report, before anything is made of it.
-/
theorem runRule_yields_report
    (task : RuleTask) :
    (engine.runRule runChild scope task context).Yields
      fun outcome =>
        (∃ fault, outcome = .error fault) ∨
          ∃ rule child start finish report,
            engine.collaborators.rule task.rule =
                .ok (some rule) ∧
              (runChild rule (task.input?.getD context.input)
                child start).ending = .returned report ∧
              outcome =
                .ok (chainedResult child finish report) := by
  cases hRule : engine.chainedRule scope task.rule with
  | error fault =>
      rw [runRule_of_fault hRule]
      exact .done (Or.inl ⟨fault, rfl⟩)
  | ok rule =>
      have hFound := (chainedRule_eq_ok hRule).2.2.1
      unfold runRule
      rw [hRule]
      apply Activity.Yields.andThen (.any _)
      intro time _
      apply
        (Activity.Yields.announced _ _ (.reached _)).andThen
      rintro report ⟨start, hReport⟩
      apply Activity.Yields.andThen (.any _)
      intro finish _
      exact .done (Or.inr
        ⟨rule, _, start, finish, report, hFound, hReport, rfl⟩)

/-
  What holds of actions in a context: of those that are not understood, of
  branches when it holds of the action that is selected, and of all others
  by what their tasks come to.
-/
structure Concludes
    (engine : Engine)
    (runChild : RunChild)
    (scope : Scope)
    (context : Context)
    (holds : Action → ActionResult × Context → Prop) :
    Prop where
  fault :
    ∀ action fault,
      Task.ofConfig action.kind
          (filledConfig action context) = .error fault →
        holds action
          (concluded action (.error fault, context))
  idle :
    ∀ action task,
      Task.ofConfig action.kind
          (filledConfig action context) =
            .ok (.branch task) →
        task.selected? engine.patterns context = none →
          holds action
            (concluded action
              (.ok
                (branchResult (task.verdict engine.patterns context)
                  (branchName
                    (task.verdict engine.patterns context))
                  none),
                context))
  chosen :
    ∀ action task selected finished,
      Task.ofConfig action.kind
          (filledConfig action context) =
            .ok (.branch task) →
        task.selected? engine.patterns context = some selected →
          holds selected finished →
            holds action
              (concluded action
                (branchFinished (task.verdict engine.patterns context)
                  finished))
  task :
    ∀ action task execute,
      Task.ofConfig action.kind
          (filledConfig action context) = .ok task →
        task.kind ≠ .branch →
          (engine.runTask runChild scope execute task
            context).Yields fun finished =>
              holds action (concluded action finished)

/- By induction on the nesting, as branches hold further actions. -/
theorem execute_yields_each
    {holds : Action → ActionResult × Context → Prop}
    (hHolds :
      engine.Concludes runChild scope context holds)
    (action : Action) :
    (engine.execute runChild scope action context).Yields
      (holds action) := by
  induction hDepth : action.config.depth
    using Nat.strongRecOn generalizing action with
  | _ depth ih =>
      subst hDepth
      cases hTask :
          Task.ofConfig action.kind
            (filledConfig action context) with
      | error fault =>
          rw [execute, executeWithin_of_fault _ hTask]
          exact .done (hHolds.fault action fault hTask)
      | ok task =>
          by_cases hBranch : task.kind = .branch
          · cases task with
            | branch task =>
                cases hSelected :
                    task.selected? engine.patterns context with
                | none =>
                    rw [execute_of_unselected hTask hSelected]
                    exact .done
                      (hHolds.idle action task hTask hSelected)
                | some selected =>
                    have hLess :=
                      BranchTask.depth_of_selected? hTask
                        hSelected
                    rw [depth_filledConfig] at hLess
                    rw [execute_of_selected hTask hSelected]
                    apply
                      (ih _ (by omega) selected rfl).andThen
                    intro finished hInner
                    exact .done
                      (hHolds.chosen action task selected
                        finished hTask hSelected hInner)
            | _ => cases hBranch
          · rw [execute, executeWithin_of_task _ hTask]
            apply
              (hHolds.task action task _ hTask hBranch).andThen
            intro finished hFinished
            exact .done hFinished

/-
  An action that is cut short fails without an output, as an action does
  that crashes beside others.
-/
theorem carries_dispatch
    (hExecute :
      ∀ action context,
        allowed context →
          (engine.execute runChild scope action context).Yields
            fun finished =>
              holds action finished.1 ∧ allowed finished.2)
    (hFailed :
      ∀ (action : Action) (error : String),
        holds action (.failed action.id action.type error)) :
    Carries (engine.dispatch runChild scope) allowed
      holds where
  returned := by
    intro action context hContext
    constructor
    intro start finished hEnding
    cases hCut :
        cutSteps? scope.deadline
          (engine.execute runChild scope action context
            start).steps with
    | none =>
        rw [dispatch_of_uncut hCut] at hEnding
        exact
          (hExecute action context hContext).of_returned start
            finished hEnding
    | some steps =>
        rw [dispatch_of_cut hCut] at hEnding
        cases hEnding
        exact ⟨hFailed action _, hContext⟩
  crashed := fun action _ _ _ _ _ => hFailed action _

------------------------------------------------------------
-- Runs
------------------------------------------------------------

theorem runSequential_yields_each
    (hDispatch : Carries dispatch allowed holds)
    (actions : List Action)
    (hContext : allowed context) :
    (runSequential dispatch scope actions context).Yields
      fun later => EachResult holds actions later.1 := by
  induction actions generalizing context with
  | nil => exact .done (.nil [])
  | cons action rest ih =>
      unfold runSequential
      apply Activity.Yields.andThen (.any _)
      intro time _
      split
      · exact .done (.nil _)
      · apply
          (hDispatch.returned action context hContext).andThen
        rintro ⟨result, left⟩ ⟨hFirst, hLeft⟩
        dsimp only
        split
        · exact .done (.cons hFirst (.nil rest))
        · apply (ih hLeft).andThen
          intro later hRest
          exact .done (.cons hFirst hRest)

/- Beside others an action has a result even when it crashes. -/
theorem runParallel_yields_each
    (hDispatch : Carries dispatch allowed holds)
    (cap : Nat)
    (actions : List Action)
    (hContext : allowed context) :
    (runParallel cap dispatch scope actions context).Yields
      fun results =>
        EachResult holds actions results ∧
          results.length = actions.length := by
  unfold runParallel
  apply (Activity.fanOut_yields _ _ _).andThen
  rintro endings ⟨hEndings, hEach⟩
  have hLength :
      (List.zipWith parallelResult actions endings).length =
        actions.length := by
    rw [List.length_zipWith, hEndings, List.length_map,
      Nat.min_self]
  refine .done ⟨⟨Nat.le_of_eq hLength, ?_⟩, hLength⟩
  intro i action result hAction hResult
  rcases List.getElem?_zipWith_eq_some.mp hResult with
    ⟨other, ending, hOther, hEnding, rfl⟩
  rw [hAction] at hOther
  cases hOther
  rcases hEach i ending hEnding with
    ⟨activity, time, hActivity, rfl⟩
  rw [List.getElem?_map, hAction] at hActivity
  cases hActivity
  cases hEnds : (dispatch action context time).ending with
  | returned finished =>
      have hYields := hDispatch.returned action context hContext
      exact (hYields.of_returned time finished hEnds).1
  | crashed crash =>
      exact
        hDispatch.crashed action context time crash hContext
          hEnds

/- What a run has come to, with what holds of its results. -/
structure EachOutcome
    (holds : Action → ActionResult → Prop)
    (rule : Rule)
    (outcome : RunOutcome) : Prop where
  unmet :
    outcome.conditionsMet = false → outcome.results = []
  results : EachResult holds rule.logic.actions outcome.results
  length_eq :
    rule.mode = .parallel →
      outcome.conditionsMet = true →
        outcome.results.length = rule.logic.actions.length

theorem EachOutcome.of_unmet
    {outcome : RunOutcome}
    (hMet : outcome.conditionsMet = false)
    (hResults : outcome.results = []) :
    EachOutcome holds rule outcome where
  unmet := fun _ => hResults
  results := hResults ▸ .nil _
  length_eq := fun _ hOther => by
    rw [hMet] at hOther
    cases hOther

theorem evaluateAndAct_yields_each
    (hDispatch :
      Carries (engine.dispatch runChild scope) allowed holds)
    (rule : Rule)
    (hContext : allowed context) :
    (engine.evaluateAndAct runChild rule context scope).Yields
      (EachOutcome holds rule) := by
  cases hHolds :
      (rule.logic.condition.evaluate engine.patterns context).holds with
  | false =>
      rw [evaluateAndAct_of_unmet hHolds]
      exact .done (.of_unmet rfl rfl)
  | true =>
      cases hMode : rule.mode with
      | sequential =>
          rw [evaluateAndAct_of_sequential hMode hHolds]
          apply
            (runSequential_yields_each hDispatch _
              hContext).andThen
          intro later hResults
          exact .done
            { unmet := nofun
              results := hResults
              length_eq := fun hOther => by
                rw [hMode] at hOther
                cases hOther }
      | parallel =>
          rw [evaluateAndAct_of_parallel hMode hHolds]
          apply
            (runParallel_yields_each hDispatch _ _
              hContext).andThen
          rintro results ⟨hResults, hLength⟩
          exact .done
            { unmet := nofun
              results := hResults
              length_eq := fun _ _ => hLength }

/- A run that crashes reports what a run does that is not met. -/
theorem runWithin_yields_each
    (hDispatch :
      Carries (engine.dispatch runChild scope) allowed holds)
    (rule : Rule)
    (input : Document)
    (trigger : TriggerKind)
    (hContext :
      allowed (engine.freshContext rule input trigger)) :
    (engine.runWithin runChild rule input trigger scope).Yields
      fun report =>
        ∃ outcome,
          EachOutcome holds rule outcome ∧
            report =
              engine.reportOf rule input trigger outcome := by
  constructor
  intro start report hEnding
  cases hActs :
      (engine.evaluateAndAct runChild rule
        (engine.freshContext rule input trigger) scope
        start).ending with
  | returned outcome =>
      rw [runWithin_of_returned hActs] at hEnding
      cases hEnding
      have hYields :=
        evaluateAndAct_yields_each hDispatch rule hContext
      exact
        ⟨outcome, hYields.of_returned start outcome hActs, rfl⟩
  | crashed crash =>
      rw [runWithin_of_crashed hActs] at hEnding
      cases hEnding
      exact
        ⟨⟨false, [], [], some crash.runError⟩,
          .of_unmet rfl rfl, rfl⟩

end Engine

end Automation
