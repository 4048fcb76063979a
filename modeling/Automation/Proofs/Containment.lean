import Automation.Proofs.Crashes
import Automation.Proofs.Isolation
import Automation.Proofs.Recursion
import Automation.Proofs.Sequences

/-
  Crashes stay where they are raised.

  A crash of an action ends the run that carries it out, if the actions of
  the run are carried out one after the other, and only the action itself
  if they are carried out side by side.  The run still returns a report.
  For the run that has started it, this is the report of a run that has
  failed, and makes the action fail that has started it.

  Key definitions include:
    * `Engine.Reaches`, the actions that a sequence comes to
    * `Engine.runParallelInstead`, a parallel run with one other engine
    * `Engine.SparesOthers`, what the other actions come to
    * `Engine.ContainsCrashes`, what crashes come to

  Key theorems include:
    * `Engine.runSequential_crashed_iff`, crashes in a sequence
    * `Engine.dispatch_of_chainedRun`, what a chained run comes to
    * `Engine.runParallelInstead_alone`, the other actions
    * `Engine.containsCrashes`, all of them together
-/

namespace Automation

namespace Engine

------------------------------------------------------------
-- Crashes In A Sequence
------------------------------------------------------------

/-
  An action that a sequence comes to before the deadline, with the context
  and the time.
-/
def Reaches
    (dispatch :
      Action → Context → Activity (ActionResult × Context))
    (scope : Scope)
    (context : Context)
    (start : Nat)
    (actions : List Action)
    (action : Action)
    (left : Context)
    (time : Nat) : Prop :=
  ∃ i : Nat,
    actions[i]? = some action ∧
      Comes dispatch scope context start actions i left time ∧
      time < scope.deadline

section Sequence

variable {dispatch :
  Action → Context → Activity (ActionResult × Context)}
variable {scope : Scope}
variable {context : Context}
variable {start : Nat}
variable {crash : Crash}

theorem Reaches.here
    {action : Action}
    {rest : List Action}
    (hTime : start < scope.deadline) :
    Reaches dispatch scope context start (action :: rest) action
      context start :=
  ⟨0, rfl, .first, hTime⟩

theorem Reaches.later
    {left after : Context}
    {time : Nat}
    {first action : Action}
    {result : ActionResult}
    {rest : List Action}
    (hTime : start < scope.deadline)
    (hFirst :
      (dispatch first context start).ending =
        .returned (result, left))
    (hResult : halts first result = false)
    (hLater :
      Reaches dispatch scope left
        (finishOf start (dispatch first context start).steps)
        rest action after time) :
    Reaches dispatch scope context start (first :: rest) action
      after time := by
  rcases hLater with ⟨i, hAction, hComes, hBefore⟩
  exact
    ⟨i + 1, hAction, .next hTime hFirst hResult hComes, hBefore⟩

theorem not_reaches_nil
    {action : Action}
    {left : Context}
    {time : Nat} :
    ¬ Reaches dispatch scope context start [] action left
        time := by
  rintro ⟨i, hAction, _⟩
  cases hAction

/- A sequence comes to its first action, and to those after it. -/
theorem reaches_cons_iff
    {action other : Action}
    {rest : List Action}
    {left : Context}
    {time : Nat} :
    Reaches dispatch scope context start (action :: rest) other
        left time ↔
      start < scope.deadline ∧
        ((other = action ∧ left = context ∧ time = start) ∨
          ∃ result after,
            (dispatch action context start).ending =
                .returned (result, after) ∧
              halts action result = false ∧
              Reaches dispatch scope after
                (finishOf start
                  (dispatch action context start).steps)
                rest other left time) := by
  constructor
  · rintro ⟨i, hAction, hComes, hBefore⟩
    cases hComes with
    | first =>
        cases hAction
        exact ⟨hBefore, Or.inl ⟨rfl, rfl, rfl⟩⟩
    | next hTime hFirst hResult hLater =>
        exact
          ⟨hTime, Or.inr
            ⟨_, _, hFirst, hResult, _, hAction, hLater,
              hBefore⟩⟩
  · rintro ⟨hTime, ⟨rfl, rfl, rfl⟩ |
      ⟨result, after, hFirst, hResult, hLater⟩⟩
    · exact .here hTime
    · exact .later hTime hFirst hResult hLater

theorem runSequential_of_reaches
    {actions : List Action}
    {action : Action}
    {left : Context}
    {time : Nat}
    (hReaches :
      Reaches dispatch scope context start actions action left
        time)
    (hCrash :
      (dispatch action left time).ending = .crashed crash) :
    (runSequential dispatch scope actions context
      start).ending = .crashed crash := by
  rcases hReaches with ⟨i, hAction, hComes, hBefore⟩
  induction hComes with
  | @first _ _ actions =>
      cases actions with
      | nil => cases hAction
      | cons first rest =>
          cases hAction
          rw [runSequential_of_crash hBefore hCrash]
  | next hTime hFirst hResult _ ih =>
      rw [runSequential_of_next hTime hFirst hResult]
      exact Activity.andThen_done_crashed_iff.mpr
        (ih hCrash hAction hBefore)

/- A sequence crashes when an action does that it comes to. -/
theorem runSequential_crashed_iff
    {actions : List Action} :
    (runSequential dispatch scope actions context
        start).ending = .crashed crash ↔
      ∃ action left time,
        Reaches dispatch scope context start actions action left
            time ∧
          (dispatch action left time).ending =
            .crashed crash := by
  constructor
  · intro hEnding
    induction actions generalizing context start with
    | nil => cases hEnding
    | cons action rest ih =>
        rcases Nat.lt_or_ge start scope.deadline with
          hTime | hTime
        · cases hFirst :
              (dispatch action context start).ending with
          | crashed other =>
              rw [runSequential_of_crash hTime hFirst]
                at hEnding
              cases hEnding
              exact ⟨action, context, start, .here hTime, hFirst⟩
          | returned finished =>
              rcases finished with ⟨result, left⟩
              rcases Bool.eq_false_or_eq_true
                  (halts action result) with hResult | hResult
              · rw [runSequential_of_halt hTime hFirst hResult]
                  at hEnding
                cases hEnding
              · rw [runSequential_of_next hTime hFirst hResult]
                  at hEnding
                rcases ih
                    (Activity.andThen_done_crashed_iff.mp
                      hEnding) with
                  ⟨other, after, time, hReaches, hCrash⟩
                exact ⟨other, after, time,
                  .later hTime hFirst hResult hReaches, hCrash⟩
        · rw [runSequential_of_late hTime] at hEnding
          cases hEnding
  · rintro ⟨action, left, time, hReaches, hCrash⟩
    exact runSequential_of_reaches hReaches hCrash

end Sequence

------------------------------------------------------------
-- Runs That Crash
------------------------------------------------------------

variable {engine : Engine}
variable {runChild : RunChild}
variable {scope : Scope}
variable {rule : Rule}
variable {context : Context}
variable {start : Nat}
variable {crash : Crash}

theorem evaluateAndAct_of_parallel
    (hMode : rule.mode = .parallel)
    (hHolds :
      (rule.logic.condition.evaluate engine.patterns
        context).holds = true) :
    engine.evaluateAndAct runChild rule context scope =
      (runParallel engine.settings.maxParallelActions
        (engine.dispatch runChild scope) scope
        rule.logic.actions context).andThen fun results =>
          Activity.done
            ⟨true, results,
              (rule.logic.condition.evaluate engine.patterns
                context).diagnostics.map (·.text),
              none⟩ := by
  unfold evaluateAndAct
  simp only [hHolds, hMode]
  rfl

theorem evaluateAndAct_of_unmet
    (hHolds :
      (rule.logic.condition.evaluate engine.patterns
        context).holds = false) :
    engine.evaluateAndAct runChild rule context scope =
      Activity.done
        ⟨false, [],
          (rule.logic.condition.evaluate engine.patterns
            context).diagnostics.map (·.text),
          none⟩ := by
  unfold evaluateAndAct
  simp only [hHolds]
  rfl

theorem evaluateAndAct_of_results
    {results : List ActionResult}
    (hMode : rule.mode = .parallel)
    (hHolds :
      (rule.logic.condition.evaluate engine.patterns context).holds = true)
    (hResults :
      (runParallel engine.settings.maxParallelActions
        (engine.dispatch runChild scope) scope
        rule.logic.actions context start).ending =
          .returned results) :
    engine.evaluateAndAct runChild rule context scope start =
      ⟨(runParallel engine.settings.maxParallelActions
          (engine.dispatch runChild scope) scope
          rule.logic.actions context start).steps,
        .returned
          ⟨true, results,
            (rule.logic.condition.evaluate engine.patterns
              context).diagnostics.map (·.text),
            none⟩⟩ := by
  rw [evaluateAndAct_of_parallel hMode hHolds,
    Activity.andThen_apply_of_returned hResults]
  simp

/- What crashes a run is a crash of one action after the other. -/
theorem evaluateAndAct_crashed
    (hEnding :
      (engine.evaluateAndAct runChild rule context scope
        start).ending = .crashed crash) :
    rule.mode = .sequential ∧
      ∃ action left time,
        Reaches (engine.dispatch runChild scope) scope context
            start rule.logic.actions action left time ∧
          (engine.dispatch runChild scope action left
            time).ending = .crashed crash := by
  cases hHolds :
      (rule.logic.condition.evaluate engine.patterns context).holds with
  | false =>
      rw [evaluateAndAct_of_unmet hHolds] at hEnding
      cases hEnding
  | true =>
      cases hMode : rule.mode with
      | sequential =>
          rw [evaluateAndAct_of_sequential hMode hHolds,
            Activity.andThen_done_crashed_iff] at hEnding
          exact ⟨rfl, runSequential_crashed_iff.mp hEnding⟩
      | parallel =>
          rw [evaluateAndAct_of_results hMode hHolds
            (runParallel_ending _ _ _ _ _)] at hEnding
          cases hEnding

------------------------------------------------------------
-- Runs That Other Runs Start
------------------------------------------------------------

theorem runWithin_forward
    (engine : Engine)
    (scope : Scope)
    (rule : Rule)
    (input : Document)
    (trigger : TriggerKind)
    (start : Nat) :
    Forward start
      (engine.runWithin engine.runBelow rule input trigger scope
        start).steps :=
  (runWithin_unfolds (runChained_sound engine _) rule input
    trigger start).forward

/- The run that an action starts. -/
def chainedRun
    (engine : Engine)
    (scope : Scope)
    (rule : Rule)
    (task : RuleTask)
    (context : Context)
    (start : Nat) :
    Episode Report :=
  engine.runWithin engine.runBelow rule
    (task.input?.getD context.input) .chained
    (scope.child rule engine.settings.runTimeout start) start

section Chained

variable {task : RuleTask}
variable {report : Report}

/- The bound on nested runs plays no part in the run. -/
theorem runBelow_eq_chainedRun
    (hRule : engine.chainedRule scope task.rule = .ok rule) :
    engine.runBelow rule (task.input?.getD context.input)
        (scope.child rule engine.settings.runTimeout start)
        start =
      engine.chainedRun scope rule task context start :=
  congrFun
    (runBelow_eq (Nat.succ_pos _) (chainedRule_eq_ok hRule).2.1
      _ _) start

/- The run is carried out in full, and its report taken up. -/
theorem runRule_of_chainedRun
    (hRule : engine.chainedRule scope task.rule = .ok rule)
    (hReport :
      (engine.chainedRun scope rule task context
        start).ending = .returned report)
    (hTime :
      finishOf start
          (engine.chainedRun scope rule task context
            start).steps <
        (scope.child rule engine.settings.runTimeout
          start).deadline) :
    engine.runRule engine.runBelow scope task context start =
      ⟨announcedSteps rule.id
          (scope.child rule engine.settings.runTimeout start)
          start
          (engine.chainedRun scope rule task context
            start).steps,
        .returned (.ok (chainedOutcome report))⟩ := by
  have hChild :
      engine.runBelow rule (task.input?.getD context.input)
          (scope.child rule engine.settings.runTimeout start)
          start =
        engine.chainedRun scope rule task context start :=
    runBelow_eq_chainedRun hRule
  have hBelow := hChild ▸ hReport
  rw [runRule_of_report hRule hBelow]
  dsimp only
  rw [hChild, finishOf_announcedSteps,
    chainedResult_of_lt report hTime]

/-
  An action that starts another rule takes up the report of the run, if the
  run is over before its deadline.  Branches around the action make no
  difference.
-/
theorem dispatch_of_chainedRun
    {action : Action}
    (hTask :
      Task.ofConfig action.kind
        (filledConfig action context) = .ok (.rule task))
    (hRule : engine.chainedRule scope task.rule = .ok rule)
    (hReport :
      (engine.chainedRun scope rule task context
        start).ending = .returned report)
    (hTime :
      finishOf start
          (engine.chainedRun scope rule task context
            start).steps <
        (scope.child rule engine.settings.runTimeout
          start).deadline) :
    (engine.dispatch engine.runBelow scope action context
          start).ending =
        .returned
          (concluded action
            (.ok (chainedOutcome report), context)) ∧
      ∀ depth,
        (engine.executeWithin engine.runBelow scope (depth + 1)
              action context start).ending =
          .returned
            (concluded action
              (.ok (chainedOutcome report), context)) := by
  have hRun := runRule_of_chainedRun hRule hReport hTime
  have hEnding :
      (engine.runRule engine.runBelow scope task context
        start).ending = _ := congrArg Episode.ending hRun
  have hExecute := fun depth =>
    (congrFun (executeWithin_of_rule depth hTask) start).trans
      (Activity.andThen_apply_of_returned hEnding)
  have hForward :
      Forward start
        (engine.chainedRun scope rule task context
          start).steps :=
    runWithin_forward _ _ _ _ _ _
  have hDeadline :
      (scope.child rule engine.settings.runTimeout
        start).deadline ≤ scope.deadline :=
    Nat.min_le_left _ _
  have hCut :
      cutSteps? scope.deadline
        (engine.execute engine.runBelow scope action context
          start).steps = none := by
    unfold execute
    rw [hExecute, hRun]
    simp only [Activity.done_apply, List.append_nil]
    apply (hForward.announced _ _).cutSteps?_eq_none
    rw [finishOf_announcedSteps]
    exact Nat.lt_of_lt_of_le hTime hDeadline
  refine ⟨?_, ?_⟩
  · rw [dispatch_of_uncut hCut, execute, hExecute]
    rfl
  · intro depth
    rw [hExecute]
    rfl

end Chained

------------------------------------------------------------
-- Actions Beside One That Crashes
------------------------------------------------------------

section Instead

variable (engine other : Engine)
variable (scope : Scope)
variable (actions : List Action)
variable (context : Context)
variable (i : Nat)
variable (action : Action)

/- The actions of a run, one of which another engine carries out. -/
def activitiesInstead :
    List (Activity (ActionResult × Context)) :=
  (actions.map fun action =>
      engine.dispatch engine.runBelow scope action context).set i
    (other.dispatch other.runBelow scope action context)

def runParallelInstead :
    Activity (List ActionResult) := do
  let cap := engine.settings.maxParallelActions
  let permits := max (min actions.length cap) 1
  let endings ←
    Activity.fanOut permits scope.deadline
      (engine.activitiesInstead other scope actions context i
        action)
  return List.zipWith parallelResult actions endings

/- The times at which the actions of such a run start. -/
def startsInstead
    (start : Nat) :
    List Nat :=
  let cap := engine.settings.maxParallelActions
  let permits := max (min actions.length cap) 1
  (Activity.schedule (List.replicate permits start)
    (engine.activitiesInstead other scope actions context i
      action)).map (·.1)

end Instead

theorem getElem?_activitiesInstead
    {other : Engine}
    {actions : List Action}
    {i j : Nat}
    {action next : Action}
    (hApart : j ≠ i)
    (hNext : actions[j]? = some next) :
    (engine.activitiesInstead other scope actions context i
        action)[j]? =
      some (engine.dispatch engine.runBelow scope next context) := by
  rw [activitiesInstead, List.getElem?_set_ne (Ne.symm hApart),
    List.getElem?_map, hNext]
  rfl

/- The others come to what each comes to by itself from its start on. -/
theorem runParallelInstead_alone
    (engine other : Engine)
    (scope : Scope)
    (actions : List Action)
    (context : Context)
    (start i : Nat)
    (action : Action) :
    ∃ results,
      (engine.runParallelInstead other scope actions context i
          action start).ending = .returned results ∧
        ∀ (j time : Nat) next,
          j ≠ i →
            actions[j]? = some next →
              (engine.startsInstead other scope actions context i
                  action start)[j]? = some time →
                results[j]? =
                  some
                    (engine.aloneResult scope context time
                      next) := by
  unfold runParallelInstead
  simp only [Activity.bind_eq_andThen]
  rw [Activity.andThen_apply_of_returned
    (Activity.fanOut_ending _ _ _ _)]
  refine ⟨_, rfl, ?_⟩
  intro j time next hApart hNext hStart
  rw [startsInstead, List.getElem?_map] at hStart
  rcases Option.map_eq_some_iff.mp hStart with
    ⟨branch, hBranch, rfl⟩
  rcases Activity.getElem?_schedule hBranch with
    ⟨activity, hActivity, hEpisode⟩
  rw [getElem?_activitiesInstead hApart hNext] at hActivity
  cases hActivity
  rw [List.getElem?_zipWith, List.getElem?_map, hNext, hBranch]
  simp only [Option.map_some]
  rw [hEpisode]
  rfl

/- The other actions come to the same. -/
theorem runParallelInstead_others
    {other : Engine}
    {actions : List Action}
    {i : Nat}
    {action : Action}
    (hSteady : engine.collaborators.Steady)
    (hOther : other.collaborators.Steady)
    (hSettings : other.settings = engine.settings)
    (hTime :
      finishOf start
          (engine.runParallelInstead other scope actions context
            i action start).steps <
        scope.limit engine.settings.runTimeout start) :
    ∃ results,
      (engine.runParallelInstead other scope actions context i
          action start).ending = .returned results ∧
        ∀ j,
          j ≠ i →
            results[j]? =
              (actions.map
                (engine.aloneResult scope context start))[j]? := by
  unfold runParallelInstead activitiesInstead at *
  simp only [Activity.bind_eq_andThen] at *
  rw [Activity.andThen_steps_of_still (fun _ _ => rfl)] at hTime
  have hHastens :
      ∀ activity ∈
          (actions.map fun action =>
            engine.dispatch engine.runBelow scope action
              context).set i
            (other.dispatch other.runBelow scope action context),
        Activity.Hastens engine.settings.runTimeout
          (scope.limit engine.settings.runTimeout start)
          activity activity := by
    intro activity hActivity
    rcases List.mem_or_eq_of_mem_set hActivity with
      hActivity | rfl
    · exact dispatch_hastens hSteady scope actions context start
        activity hActivity
    · have hOtherHastens := Hastens.of_steady hOther
      rw [← hSettings]
      exact hOtherHastens.dispatch hOtherHastens.runBelow
        (scope.alikeUntil_limit _ _) action context
  have hEndings :=
    (Activity.fanOut_alone hHastens
      (permits_ne_zero _ actions) (Nat.min_le_right _ _)
      hTime).1
  rw [Activity.andThen_apply_of_returned hEndings]
  refine ⟨_, rfl, ?_⟩
  intro j hApart
  rw [List.getElem?_zipWith, List.getElem?_map,
    List.getElem?_set_ne (Ne.symm hApart)]
  cases hAction : actions[j]? <;> simp [hAction, aloneResult]

/- The action that crashes fails. -/
theorem aloneResult_of_raises
    {action : Action}
    (hRaises : engine.Raises scope context start action crash)
    (hTime :
      finishOf start
          (engine.dispatch engine.runBelow scope action context
            start).steps <
        scope.deadline) :
    engine.aloneResult scope context start action =
      .failed action.id action.type crash.actionError := by
  unfold aloneResult
  rw [dispatch_of_raises (runBelow_sound engine) hRaises hTime]
  rfl

------------------------------------------------------------
-- Containment
------------------------------------------------------------

/- The time at which an action starts that is carried out beside others. -/
def startOf?
    (engine : Engine)
    (scope : Scope)
    (actions : List Action)
    (context : Context)
    (start i : Nat) :
    Option Nat :=
  ((parallelBranches engine.settings.maxParallelActions
    (engine.dispatch engine.runBelow scope) actions context
    start)[i]?).map (·.1)

/- The results of a parallel run do not depend on one of its actions. -/
structure SparesOthers
    (engine : Engine)
    (scope : Scope)
    (actions : List Action)
    (context : Context)
    (start i : Nat)
    (action : Action)
    (results : List ActionResult) : Prop where
  /-
    The others come to what each comes to by itself from the time on at
    which it starts.
  -/
  alone :
    ∀ (j : Nat) other time,
      actions[j]? = some other →
        engine.startOf? scope actions context start j =
            some time →
          results[j]? =
            some (engine.aloneResult scope context time other)
  /- The same goes when another engine carries out that one action. -/
  aloneInstead :
    ∀ other : Engine,
      ∃ others,
        (engine.runParallelInstead other scope actions context i
            action start).ending = .returned others ∧
          ∀ (j time : Nat) next,
            j ≠ i →
              actions[j]? = some next →
                (engine.startsInstead other scope actions context
                    i action start)[j]? = some time →
                  others[j]? =
                    some
                      (engine.aloneResult scope context time next)
  /-
    Where replies depend on the request only, the others come to the same
    both times, whenever they start.
  -/
  unchanged :
    engine.collaborators.Steady →
      ∀ other : Engine,
        other.collaborators.Steady →
          other.settings = engine.settings →
            finishOf start
                (engine.runParallelInstead other scope actions
                  context i action start).steps <
                scope.limit engine.settings.runTimeout start →
              ∃ others,
                (engine.runParallelInstead other scope actions
                    context i action start).ending =
                  .returned others ∧
                  ∀ j, j ≠ i → others[j]? = results[j]?

/-
  Wherever a call crashes, the crash stays in the action or in the run that
  it is raised in.
-/
structure ContainsCrashes
    (engine : Engine) : Prop where
  /- A run of an active rule returns a report. -/
  returns
    (rule : Rule)
    (input : Document)
    (trigger : TriggerKind)
    (start : Nat)
    (hActive : rule.active = true) :
    ∃ activity report,
      engine.run rule input trigger = .ok activity ∧
        (activity start).ending = .returned report
  /- Only a call of its own crashes an action, none of a run below. -/
  raised
    (scope : Scope)
    (action : Action)
    (context : Context)
    (start : Nat)
    (crash : Crash)
    (hCrash :
      (engine.dispatch engine.runBelow scope action context
        start).ending = .crashed crash) :
    engine.Raises scope context start action crash
  /- Only one action after the other crashes a run. -/
  crashed
    (rule : Rule)
    (context : Context)
    (scope : Scope)
    (start : Nat)
    (crash : Crash)
    (hCrash :
      (engine.evaluateAndAct engine.runBelow rule context scope
        start).ending = .crashed crash) :
    rule.mode = .sequential ∧
      ∃ action left time,
        Reaches (engine.dispatch engine.runBelow scope) scope
            context start rule.logic.actions action left time ∧
          engine.Raises scope left time action crash
  /- Side by side, an action that crashes fails by itself. -/
  parallel
    (rule : Rule)
    (input : Document)
    (trigger : TriggerKind)
    (scope : Scope)
    (start i time : Nat)
    (action : Action)
    (crash : Crash)
    (hMode : rule.mode = .parallel)
    (hMet : engine.IsMet rule input trigger)
    (hAction : rule.logic.actions[i]? = some action)
    (hStart :
      engine.startOf? scope rule.logic.actions
        (engine.freshContext rule input trigger) start i =
          some time)
    (hRaises :
      engine.Raises scope
        (engine.freshContext rule input trigger) time action
        crash)
    (hTime :
      finishOf start
          (engine.runWithin engine.runBelow rule input trigger
            scope start).steps <
        scope.limit engine.settings.runTimeout start) :
    ∃ report,
      (engine.runWithin engine.runBelow rule input trigger scope
          start).ending = .returned report ∧
        report.status = .completed ∧
        report.results[i]? =
          some
            (.failed action.id action.type crash.actionError) ∧
        engine.SparesOthers scope rule.logic.actions
          (engine.freshContext rule input trigger) start i
          action report.results
  /- One after the other, an action that crashes fails its run. -/
  sequential
    (rule : Rule)
    (input : Document)
    (trigger : TriggerKind)
    (scope : Scope)
    (start : Nat)
    (action : Action)
    (left : Context)
    (time : Nat)
    (crash : Crash)
    (hMode : rule.mode = .sequential)
    (hMet : engine.IsMet rule input trigger)
    (hReaches :
      Reaches (engine.dispatch engine.runBelow scope) scope
        (engine.freshContext rule input trigger) start
        rule.logic.actions action left time)
    (hRaises : engine.Raises scope left time action crash)
    (hTime :
      finishOf time
          (engine.dispatch engine.runBelow scope action left
            time).steps <
        scope.deadline) :
    ∃ report,
      (engine.runWithin engine.runBelow rule input trigger scope
          start).ending = .returned report ∧
        report.status = .failed ∧
        report.error? =
          some
            ("Rule run panicked: " ++
              crash.message?.getD "unknown panic")
  /-
    A run that has failed fails the action that has started it, in a branch
    or not, and whether this stops the run above is up to the action.
  -/
  chained
    (scope : Scope)
    (action : Action)
    (task : RuleTask)
    (rule : Rule)
    (context : Context)
    (start : Nat)
    (report : Report)
    (error : String)
    (hTask :
      Task.ofConfig action.kind
        (filledConfig action context) = .ok (.rule task))
    (hRule : engine.chainedRule scope task.rule = .ok rule)
    (hReport :
      (engine.chainedRun scope rule task context
        start).ending = .returned report)
    (hStatus : report.status = .failed)
    (hError : report.error? = some error)
    (hTime :
      finishOf start
          (engine.chainedRun scope rule task context
            start).steps <
        (scope.child rule engine.settings.runTimeout
          start).deadline) :
    (engine.dispatch engine.runBelow scope action context
          start).ending =
        .returned
          (⟨action.id, action.type, .failed, report.document,
              some error⟩,
            context) ∧
      (∀ depth,
        (engine.executeWithin engine.runBelow scope (depth + 1)
              action context start).ending =
          .returned
            (⟨action.id, action.type, .failed, report.document,
                some error⟩,
              context)) ∧
      halts action
          ⟨action.id, action.type, .failed, report.document,
            some error⟩ =
        action.stopsOnFailure

theorem run_returned
    (engine : Engine)
    (rule : Rule)
    (input : Document)
    (trigger : TriggerKind)
    (start : Nat)
    (hActive : rule.active = true) :
    ∃ activity report,
      engine.run rule input trigger = .ok activity ∧
        (activity start).ending = .returned report := by
  rcases exists_run hActive input trigger with
    ⟨activity, hRun⟩
  rcases run_spec hRun start with ⟨steps, report, hActivity, _⟩
  exact ⟨activity, report, hRun, by rw [hActivity]⟩

variable {input : Document}
variable {trigger : TriggerKind}
variable {action : Action}

theorem runWithin_of_parallel_raises
    {i time : Nat}
    (hMode : rule.mode = .parallel)
    (hMet : engine.IsMet rule input trigger)
    (hAction : rule.logic.actions[i]? = some action)
    (hStart :
      engine.startOf? scope rule.logic.actions
        (engine.freshContext rule input trigger) start i =
          some time)
    (hRaises :
      engine.Raises scope
        (engine.freshContext rule input trigger) time action
        crash)
    (hTime :
      finishOf start
          (engine.runWithin engine.runBelow rule input trigger
            scope start).steps <
        scope.limit engine.settings.runTimeout start) :
    ∃ report,
      (engine.runWithin engine.runBelow rule input trigger scope
          start).ending = .returned report ∧
        report.status = .completed ∧
        report.results[i]? =
          some
            (.failed action.id action.type crash.actionError) ∧
        engine.SparesOthers scope rule.logic.actions
          (engine.freshContext rule input trigger) start i
          action report.results := by
  have hReturned :
      (runParallel engine.settings.maxParallelActions
          (engine.dispatch engine.runBelow scope) scope
          rule.logic.actions
          (engine.freshContext rule input trigger)
          start).ending = _ :=
    runParallel_ending _ _ _ _ _
  have hRun :=
    evaluateAndAct_of_results hMode hMet hReturned
  have hEnding := congrArg Episode.ending hRun
  rw [runWithin_of_returned hEnding] at hTime ⊢
  rw [← freshContext, hRun] at hTime
  rcases getElem?_parallelResults hAction hStart with
    ⟨hBranch, hResult⟩
  refine ⟨_, rfl, rfl, ?_, ⟨?_, ?_, ?_⟩⟩
  · have hFinish := hTime
    dsimp only at hFinish
    rw [finishOf_runParallel] at hFinish
    have hInTime :
        finishOf time
            (engine.dispatch engine.runBelow scope action
              (engine.freshContext rule input trigger)
              time).steps <
          scope.deadline := by
      have hLast :=
        (Activity.lastFinish_spec start
          (parallelBranches engine.settings.maxParallelActions
            (engine.dispatch engine.runBelow scope)
            rule.logic.actions
            (engine.freshContext rule input trigger)
            start)).2.1 _ (List.mem_of_getElem? hBranch)
      exact
        Nat.lt_of_le_of_lt hLast
          (Nat.lt_of_lt_of_le hFinish (Nat.min_le_left _ _))
    exact
      hResult.trans
        (congrArg some (aloneResult_of_raises hRaises hInTime))
  · intro j other later hOther hLater
    exact (getElem?_parallelResults hOther hLater).2
  · exact fun other =>
      runParallelInstead_alone engine other scope rule.logic.actions
        (engine.freshContext rule input trigger) start i action
  · intro hSteady other hOtherSteady hSettings hOther
    rcases runParallel_alone hSteady hTime with ⟨hResults, _⟩
    rw [hReturned] at hResults
    rw [reportOf, Ending.returned.inj hResults]
    exact
      runParallelInstead_others hSteady hOtherSteady hSettings
        hOther

theorem runWithin_of_reached_raises
    {left : Context}
    {time : Nat}
    (hMode : rule.mode = .sequential)
    (hMet : engine.IsMet rule input trigger)
    (hReaches :
      Reaches (engine.dispatch engine.runBelow scope) scope
        (engine.freshContext rule input trigger) start
        rule.logic.actions action left time)
    (hRaises : engine.Raises scope left time action crash)
    (hTime :
      finishOf time
          (engine.dispatch engine.runBelow scope action left
            time).steps <
        scope.deadline) :
    ∃ report,
      (engine.runWithin engine.runBelow rule input trigger scope
          start).ending = .returned report ∧
        report.status = .failed ∧
        report.error? = some crash.runError := by
  have hCrash :=
    dispatch_of_raises (runBelow_sound engine) hRaises hTime
  have hEnding :
      (engine.evaluateAndAct engine.runBelow rule
        (engine.freshContext rule input trigger) scope
        start).ending = .crashed crash := by
    rw [evaluateAndAct_of_sequential hMode hMet]
    exact Activity.andThen_done_crashed_iff.mpr
      (runSequential_of_reaches hReaches hCrash)
  rw [runWithin_of_crashed hEnding]
  exact ⟨_, rfl, rfl, rfl⟩

theorem dispatch_of_failed_run
    {task : RuleTask}
    {report : Report}
    {error : String}
    (hTask :
      Task.ofConfig action.kind
        (filledConfig action context) = .ok (.rule task))
    (hRule : engine.chainedRule scope task.rule = .ok rule)
    (hReport :
      (engine.chainedRun scope rule task context
        start).ending = .returned report)
    (hStatus : report.status = .failed)
    (hError : report.error? = some error)
    (hTime :
      finishOf start
          (engine.chainedRun scope rule task context
            start).steps <
        (scope.child rule engine.settings.runTimeout
          start).deadline) :
    (engine.dispatch engine.runBelow scope action context
          start).ending =
        .returned
          (⟨action.id, action.type, .failed, report.document,
              some error⟩,
            context) ∧
      ∀ depth,
        (engine.executeWithin engine.runBelow scope (depth + 1)
              action context start).ending =
          .returned
            (⟨action.id, action.type, .failed, report.document,
                some error⟩,
              context) := by
  have hOutcome :
      chainedOutcome report = .failed report.document error := by
    simp [chainedOutcome, Report.isCompleted, hStatus, hError]
  have hTaken := dispatch_of_chainedRun hTask hRule hReport hTime
  rw [hOutcome] at hTaken
  exact hTaken

/- Every engine contains the crashes of its collaborators. -/
theorem containsCrashes
    (engine : Engine) :
    engine.ContainsCrashes := by
  have hChild := runBelow_sound engine
  refine
    { returns := run_returned engine
      raised := fun _ _ _ _ _ hCrash =>
        raises_of_dispatch hChild hCrash
      crashed := ?_
      parallel := ?_
      sequential := ?_
      chained := ?_ }
  · intro rule context scope start crash hCrash
    rcases evaluateAndAct_crashed hCrash with
      ⟨hMode, action, left, time, hReaches, hRaised⟩
    exact
      ⟨hMode, action, left, time, hReaches,
        raises_of_dispatch hChild hRaised⟩
  · intro rule input trigger scope start i time action crash
      hMode hMet hAction hStart hRaises hTime
    exact runWithin_of_parallel_raises hMode hMet hAction
      hStart hRaises hTime
  · intro rule input trigger scope start action left time crash
      hMode hMet hReaches hRaises hTime
    exact runWithin_of_reached_raises hMode hMet hReaches
      hRaises hTime
  · intro scope action task rule context start report error
      hTask hRule hReport hStatus hError hTime
    rcases dispatch_of_failed_run hTask hRule hReport hStatus
        hError hTime with ⟨hEnding, hInside⟩
    exact
      ⟨hEnding, hInside, by simp [halts, ActionResult.isFailed]⟩

/- A rule that asks for a crash, and the scope of a run above it. -/
def fragileRule : Rule :=
  ruleOf "fragile" .sequential [asks "bad"]

def fragileEngine : Engine :=
  volatile 5000 1 [("fragile", fragileRule)]

def fragileScope : Scope :=
  .root (ruleOf "outer" .sequential [starts "fragile"]) 5000 0

theorem fragileEngine_containsCrashes :
    (∃ report,
      (fragileEngine.runWithin fragileEngine.runBelow mixedRule
          .null .manual mixedScope 0).ending =
          .returned report ∧
        report.results[0]? =
          some
            (.failed "bad" "trigger-model"
              (Crash.actionError ⟨some "model exploded"⟩)) ∧
        report.results[1]? =
          some
            ⟨"calm", "trigger-model", .success,
              .record
                [("modelId", .text "calm"), ("output", .null)],
              none⟩) ∧
      ∃ report,
        (fragileEngine.chainedRun fragileScope fragileRule
            ⟨"fragile", none⟩ (.ofFixed []) 0).ending =
            .returned report ∧
          (fragileEngine.dispatch fragileEngine.runBelow
              fragileScope (starts "fragile") (.ofFixed [])
              0).ending =
            .returned
              (⟨"fragile", "trigger-rule", .failed,
                  report.document,
                  some "Rule run panicked: model exploded"⟩,
                .ofFixed []) := by
  have hContains := containsCrashes fragileEngine
  constructor
  · rcases hContains.parallel mixedRule .null .manual mixedScope
        0 0 0 (asks "bad") ⟨some "model exploded"⟩ rfl rfl rfl
        rfl (.of_task rfl (.model rfl rfl)) (by decide) with
      ⟨report, hReport, _, hResult, hSpares⟩
    -- The other action gets the permit when the call has crashed.
    have hOther := hSpares.alone 1 (asks "calm") 10 rfl rfl
    exact ⟨report, hReport, hResult, hOther⟩
  · rcases hContains.sequential fragileRule .null .chained
        (fragileScope.child fragileRule 5000 0) 0 (asks "bad")
        (fragileEngine.freshContext fragileRule .null .chained)
        0 ⟨some "model exploded"⟩ rfl rfl (.here (by decide))
        (.of_task rfl (.model rfl rfl)) (by decide) with
      ⟨report, hReport, hStatus, hError⟩
    rcases hContains.chained fragileScope (starts "fragile")
        ⟨"fragile", none⟩ fragileRule (.ofFixed []) 0 report _
        rfl rfl hReport hStatus hError (by decide) with
      ⟨hDispatch, _⟩
    exact ⟨report, hReport, hDispatch⟩

/- The crash of an inner run fails one action of the outer run. -/
example :
    ∃ activity report,
      fragileEngine.run
          (ruleOf "outer" .sequential
            [{ starts "fragile" with strategy := .continue },
              asks "calm"])
          .null .manual = .ok activity ∧
        (activity 0).ending = .returned report ∧
        report.status = .completed ∧
        report.results.map (·.error?) =
          [some (Crash.runError ⟨some "model exploded"⟩),
            none] :=
  ⟨_, _, rfl, rfl, rfl, rfl⟩

end Engine

end Automation
