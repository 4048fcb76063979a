import Automation.Proofs.Deadlines
import Automation.Proofs.InPlace

/-
  Actions one after the other.

  The actions of a sequential run are carried out in order, each on the
  context that the one before has left and as soon as it is over.  The run
  goes on until there are no more actions, one has failed that stops the
  run, or the deadline is reached; only in the last case it fails.  The
  actions that are left then take no step and write nothing.

  Key definitions include:
    * `Engine.CarriedOut`, actions carried out in order
    * `Engine.halts` and `Engine.Halted`, failures that stop a run
    * `Engine.Comes`, where a sequence stands before an action
    * `Engine.Sequenced`, how far a sequence of actions goes
    * `Engine.freshContext` and `Engine.IsMet`, how a run starts
    * `Engine.RunsInOrder`, what a sequential run comes to

  Key theorems include:
    * `Engine.runSequential_spec`, the loop over the actions
    * `Engine.runWithin_runsInOrder`, sequential runs
-/

namespace Automation

namespace Engine

------------------------------------------------------------
-- Actions In Order
------------------------------------------------------------

/-
  Actions that are carried out in order from a context and a time on, with
  their results, the steps they take and the context that the last leaves.
-/
inductive CarriedOut
    (dispatch :
      Action → Context → Activity (ActionResult × Context)) :
    Context → Nat → List Action → List ActionResult →
      List Step → Context → Prop
  | nil
      {context : Context}
      {start : Nat} :
      CarriedOut dispatch context start [] [] [] context
  | cons
      {context left after : Context}
      {start : Nat}
      {action : Action}
      {result : ActionResult}
      {rest : List Action}
      {results : List ActionResult}
      {steps : List Step}
      (hFirst :
        (dispatch action context start).ending =
          .returned (result, left))
      (hRest :
        CarriedOut dispatch left
          (finishOf start (dispatch action context start).steps)
          rest results steps after) :
      CarriedOut dispatch context start (action :: rest)
        (result :: results)
        ((dispatch action context start).steps ++ steps) after

/- A failure that stops a sequential run. -/
def halts
    (action : Action)
    (result : ActionResult) :
    Bool :=
  result.isFailed && action.stopsOnFailure

/-
  Where a sequence stands: before the action at a position, with the
  context that is left and at a time.  The actions before it were started
  in time and are over, and none of them has stopped the run.
-/
inductive Comes
    (dispatch :
      Action → Context → Activity (ActionResult × Context))
    (scope : Scope) :
    Context → Nat → List Action → Nat → Context → Nat → Prop
  | first
      {context : Context}
      {start : Nat}
      {actions : List Action} :
      Comes dispatch scope context start actions 0 context start
  | next
      {context left after : Context}
      {start time i : Nat}
      {action : Action}
      {result : ActionResult}
      {rest : List Action}
      (hTime : start < scope.deadline)
      (hFirst :
        (dispatch action context start).ending =
          .returned (result, left))
      (hResult : halts action result = false)
      (hLater :
        Comes dispatch scope left
          (finishOf start (dispatch action context start).steps)
          rest i after time) :
      Comes dispatch scope context start (action :: rest)
        (i + 1) after time

/- The last of some results is a failure that stops the run. -/
def Halted
    (actions : List Action)
    (results : List ActionResult) : Prop :=
  ∃ last,
    (actions.zip results).getLast? = some last ∧
      halts last.1 last.2 = true

/-
  How far a sequence of actions goes: the first so many are carried out,
  none but the last of them is a failure that stops the run, and there is
  an error just when the deadline is reached before the next.
-/
structure Sequenced
    (dispatch :
      Action → Context → Activity (ActionResult × Context))
    (scope : Scope)
    (context : Context)
    (start : Nat)
    (actions : List Action)
    (results : List ActionResult)
    (error? : Option String)
    (steps : List Step)
    (after : Context) : Prop where
  carriedOut :
    CarriedOut dispatch context start
      (actions.take results.length) results steps after
  length_le : results.length ≤ actions.length
  unhalted :
    ∀ (i : Nat) (action : Action) (result : ActionResult),
      actions[i]? = some action →
        results[i]? = some result →
          i + 1 < results.length →
            halts action result = false
  completed :
    error? = none →
      results.length = actions.length ∨ Halted actions results
  expired :
    error? ≠ none →
      error? = some (budgetError scope) ∧
        results.length < actions.length ∧
        ¬ Halted actions results ∧
        scope.deadline ≤ finishOf start steps

variable {dispatch :
  Action → Context → Activity (ActionResult × Context)}
variable {scope : Scope}
variable {context left after : Context}
variable {start : Nat}
variable {action : Action}
variable {result : ActionResult}
variable {rest : List Action}
variable {results : List ActionResult}
variable {steps : List Step}
variable {error? : Option String}

theorem comes_zero_iff
    {actions : List Action}
    {time : Nat} :
    Comes dispatch scope context start actions 0 left time ↔
      left = context ∧ time = start := by
  constructor
  · intro hComes
    cases hComes
    exact ⟨rfl, rfl⟩
  · rintro ⟨rfl, rfl⟩
    exact .first

/- Behind its first action, a sequence stands as the rest of it does. -/
theorem comes_succ_iff
    {time i : Nat} :
    Comes dispatch scope context start (action :: rest) (i + 1)
        left time ↔
      start < scope.deadline ∧
        ∃ result after,
          (dispatch action context start).ending =
              .returned (result, after) ∧
            halts action result = false ∧
            Comes dispatch scope after
              (finishOf start
                (dispatch action context start).steps)
              rest i left time := by
  constructor
  · intro hComes
    cases hComes with
    | next hTime hFirst hResult hLater =>
        exact ⟨hTime, _, _, hFirst, hResult, hLater⟩
  · rintro ⟨hTime, _, _, hFirst, hResult, hLater⟩
    exact .next hTime hFirst hResult hLater

/- A sequence stands before a position at one time only. -/
theorem Comes.unique
    {actions : List Action}
    {other : Context}
    {time otherTime i : Nat}
    (hComes :
      Comes dispatch scope context start actions i left time)
    (hOther :
      Comes dispatch scope context start actions i other
        otherTime) :
    other = left ∧ otherTime = time := by
  induction hComes with
  | first => exact comes_zero_iff.mp hOther
  | next hTime hFirst hResult _ ih =>
      rcases comes_succ_iff.mp hOther with
        ⟨_, _, _, hAgain, _, hLater⟩
      rw [hFirst] at hAgain
      cases hAgain
      exact ih hLater

theorem not_halted_nil
    (actions : List Action) :
    ¬ Halted actions [] := by
  rintro ⟨last, hLast, _⟩
  simp at hLast

/- Of one result, the last is the first. -/
theorem halted_singleton
    (rest : List Action) :
    Halted (action :: rest) [result] ↔
      halts action result = true := by
  simp [Halted]

/- Results before the last do not count. -/
theorem halted_cons
    (hResult : halts action result = false) :
    Halted (action :: rest) (result :: results) ↔
      Halted rest results := by
  unfold Halted
  rw [List.zip_cons_cons]
  cases rest.zip results with
  | nil => simp [hResult]
  | cons next later => rw [List.getLast?_cons_cons]

namespace Sequenced

/- No actions are left. -/
theorem finished :
    Sequenced dispatch scope context start [] [] none []
      context where
  carriedOut := .nil
  length_le := Nat.le_refl _
  unhalted _ _ _ hAction := by cases hAction
  completed _ := Or.inl rfl
  expired hError := absurd rfl hError

/- The deadline is reached. -/
theorem late
    (hTime : scope.deadline ≤ start) :
    Sequenced dispatch scope context start (action :: rest) []
      (some (budgetError scope)) [] context where
  carriedOut := .nil
  length_le := Nat.zero_le _
  unhalted _ _ _ _ hResult := by cases hResult
  completed hError := by cases hError
  expired _ :=
    ⟨rfl, Nat.succ_pos _, not_halted_nil _, hTime⟩

/- An action has failed that stops the run. -/
theorem halt
    (hFirst :
      (dispatch action context start).ending =
        .returned (result, left))
    (hResult : halts action result = true) :
    Sequenced dispatch scope context start (action :: rest)
      [result] none
      ((dispatch action context start).steps ++ []) left where
  carriedOut := .cons hFirst .nil
  length_le := by simp
  unhalted i _ _ _ _ hLast := by
    simp at hLast
  completed _ := Or.inr ((halted_singleton rest).mpr hResult)
  expired hError := absurd rfl hError

/- An action is over, and the run goes on. -/
theorem next
    (hFirst :
      (dispatch action context start).ending =
        .returned (result, left))
    (hResult : halts action result = false)
    (hRest :
      Sequenced dispatch scope left
        (finishOf start (dispatch action context start).steps)
        rest results error? steps after) :
    Sequenced dispatch scope context start (action :: rest)
      (result :: results) error?
      ((dispatch action context start).steps ++ steps)
      after where
  carriedOut := .cons hFirst hRest.carriedOut
  length_le := Nat.succ_le_succ hRest.length_le
  unhalted i other otherResult hOther hOtherResult hLast := by
    cases i with
    | zero =>
        cases hOther
        cases hOtherResult
        exact hResult
    | succ i =>
        exact hRest.unhalted i other otherResult hOther
          hOtherResult (Nat.lt_of_succ_lt_succ hLast)
  completed hError := by
    rw [halted_cons hResult]
    rcases hRest.completed hError with hAll | hHalted
    · exact Or.inl (congrArg Nat.succ hAll)
    · exact Or.inr hHalted
  expired hError := by
    rw [halted_cons hResult, finishOf_append]
    rcases hRest.expired hError with
      ⟨hBudget, hLength, hHalted, hTime⟩
    exact
      ⟨hBudget, Nat.succ_lt_succ hLength, hHalted, hTime⟩

section Exits

variable {actions : List Action}

theorem error_eq_none_iff
    (hSequenced :
      Sequenced dispatch scope context start actions results
        error? steps after) :
    error? = none ↔
      results.length = actions.length ∨
        Halted actions results := by
  refine ⟨hSequenced.completed, ?_⟩
  intro hOver
  cases error? with
  | none => rfl
  | some error =>
      rcases hSequenced.expired (by simp) with
        ⟨_, hLength, hHalted, _⟩
      rcases hOver with hAll | hStopped
      · omega
      · exact absurd hStopped hHalted

theorem error_eq_budget_iff
    (hSequenced :
      Sequenced dispatch scope context start actions results
        error? steps after) :
    error? = some (budgetError scope) ↔
      results.length < actions.length ∧
        ¬ Halted actions results ∧
        scope.deadline ≤ finishOf start steps := by
  constructor
  · rintro rfl
    exact (hSequenced.expired (by simp)).2
  · rintro ⟨hLength, hHalted, _⟩
    refine (hSequenced.expired ?_).1
    intro hError
    rcases hSequenced.completed hError with hAll | hStopped
    · omega
    · exact hHalted hStopped

/- A result that is no failure to stop for does not end the run. -/
theorem goesOn
    {last : Action × ActionResult}
    (hSequenced :
      Sequenced dispatch scope context start actions results
        error? steps after)
    (hLast : (actions.zip results).getLast? = some last)
    (hResult :
      last.2.status = .unsupported ∨
        last.1.strategy = .continue) :
    results.length = actions.length ∨
      scope.deadline ≤ finishOf start steps := by
  have hGoesOn : halts last.1 last.2 = false := by
    unfold halts ActionResult.isFailed Action.stopsOnFailure
    rcases hResult with hStatus | hStrategy
    · simp [hStatus]
    · simp [hStrategy]
  cases hError : error? with
  | some error =>
      exact Or.inr
        (hSequenced.expired (by simp [hError])).2.2.2
  | none =>
      rcases hSequenced.completed hError with
        hAll | ⟨other, hOther, hHalts⟩
      · exact Or.inl hAll
      · rw [hLast] at hOther
        cases hOther
        rw [hGoesOn] at hHalts
        cases hHalts

end Exits

end Sequenced

------------------------------------------------------------
-- The Loop Over The Actions
------------------------------------------------------------

/- What a sequence comes to with the result of its first action. -/
def proceeding
    (result : ActionResult)
    (later : List ActionResult × Option String) :
    List ActionResult × Option String :=
  (result :: later.1, later.2)

theorem runSequential_of_late
    (hTime : scope.deadline ≤ start) :
    runSequential dispatch scope (action :: rest) context start =
      ⟨[], .returned ([], some (budgetError scope))⟩ := by
  rw [runSequential_cons, if_pos hTime]

theorem runSequential_of_crash
    {crash : Crash}
    (hTime : start < scope.deadline)
    (hFirst :
      (dispatch action context start).ending = .crashed crash) :
    runSequential dispatch scope (action :: rest) context start =
      ⟨(dispatch action context start).steps,
        .crashed crash⟩ := by
  rw [runSequential_cons, if_neg (Nat.not_le_of_lt hTime),
    Activity.andThen_apply_of_crashed hFirst]

theorem runSequential_of_halt
    (hTime : start < scope.deadline)
    (hFirst :
      (dispatch action context start).ending =
        .returned (result, left))
    (hResult : halts action result = true) :
    runSequential dispatch scope (action :: rest) context start =
      ⟨(dispatch action context start).steps ++ [],
        .returned ([result], none)⟩ := by
  rw [runSequential_cons, if_neg (Nat.not_le_of_lt hTime),
    Activity.andThen_apply_of_returned hFirst]
  dsimp only
  rw [← halts, if_pos hResult]
  rfl

theorem runSequential_of_next
    (hTime : start < scope.deadline)
    (hFirst :
      (dispatch action context start).ending =
        .returned (result, left))
    (hResult : halts action result = false) :
    runSequential dispatch scope (action :: rest) context start =
      let later :=
        (runSequential dispatch scope rest left).andThen
          (fun later =>
            Activity.done (proceeding result later))
          (finishOf start (dispatch action context start).steps)
      ⟨(dispatch action context start).steps ++ later.steps,
        later.ending⟩ := by
  rw [runSequential_cons, if_neg (Nat.not_le_of_lt hTime),
    Activity.andThen_apply_of_returned hFirst]
  dsimp only
  rw [← halts, if_neg (ne_true_of_eq_false hResult)]
  rfl

section Shared

variable {inPlace : Action → InPlace ActionResult}

/- On a shared context, the deadline is looked at as well. -/
theorem runSequentialInPlace_cons
    (action : Action)
    (rest : List Action)
    (context : Context)
    (start : Nat) :
    runSequentialInPlace inPlace scope (action :: rest) context
        start =
      if scope.deadline ≤ start then
        ⟨[], .returned ([], some (budgetError scope)), context⟩
      else
        (inPlace action).andThen (fun result =>
          if halts action result then
            InPlace.done ([result], none)
          else
            (runSequentialInPlace inPlace scope rest).andThen
              fun later =>
                InPlace.done (proceeding result later))
          context start := by
  rw [runSequentialInPlace]
  simp only [InPlace.bind_eq_andThen, InPlace.now_andThen,
    Scope.isExpired, decide_eq_true_eq]
  split <;> rfl

/-
  A sequence of actions that does not crash goes as far as it should.  On
  a shared context it takes the same steps and ends the same way, and it
  leaves the context that the last action leaves that is carried out.
-/
theorem runSequential_spec
    (hInPlace :
      ∀ action context start,
        inPlace action context start =
          .ofEpisode context (dispatch action context start))
    (actions : List Action)
    (context : Context)
    (start : Nat)
    {results : List ActionResult}
    {error? : Option String}
    (hEnding :
      (runSequential dispatch scope actions context
        start).ending = .returned (results, error?)) :
    (runSequentialInPlace inPlace scope actions context
          start).steps.map Prod.fst =
        (runSequential dispatch scope actions context
          start).steps ∧
      (runSequentialInPlace inPlace scope actions context
          start).ending = .returned (results, error?) ∧
      Sequenced dispatch scope context start actions results
        error?
        (runSequential dispatch scope actions context
          start).steps
        (runSequentialInPlace inPlace scope actions context
          start).context := by
  induction actions generalizing context start results with
  | nil =>
      cases hEnding
      exact ⟨rfl, rfl, .finished⟩
  | cons action rest ih =>
      rw [runSequentialInPlace_cons]
      rcases Nat.lt_or_ge start scope.deadline with
        hTime | hTime
      · rw [if_neg (Nat.not_le_of_lt hTime)]
        cases hFirst : (dispatch action context start).ending with
        | crashed crash =>
            rw [runSequential_of_crash hTime hFirst] at hEnding
            cases hEnding
        | returned finished =>
            rcases finished with ⟨result, left⟩
            rw [InPlace.andThen_apply_of_returned
              (hInPlace action context start) hFirst]
            rcases Bool.eq_false_or_eq_true
                (halts action result) with hResult | hResult
            · rw [runSequential_of_halt hTime hFirst hResult]
                at hEnding ⊢
              rw [if_pos hResult]
              cases hEnding
              exact
                ⟨by simp [Function.comp_def, InPlace.done],
                  rfl, .halt hFirst hResult⟩
            · rw [runSequential_of_next hTime hFirst hResult]
                at hEnding ⊢
              rw [if_neg (ne_true_of_eq_false hResult)]
              rcases Activity.returned_of_andThen_done hEnding
                with ⟨later, hLater, hOutcome⟩
              cases hOutcome
              rcases ih left _ hLater with
                ⟨hSteps, hRest, hSequenced⟩
              rw [InPlace.andThen_done_of_returned hRest]
              dsimp only
              rw [Activity.andThen_steps_of_still
                (fun _ _ => rfl)]
              exact
                ⟨by simp [Function.comp_def, hSteps],
                  rfl, .next hFirst hResult hSequenced⟩
      · rw [if_pos hTime]
        rw [runSequential_of_late hTime] at hEnding ⊢
        cases hEnding
        exact ⟨rfl, rfl, .late hTime⟩

end Shared

------------------------------------------------------------
-- Sequential Runs
------------------------------------------------------------

/- The context that a run starts with. -/
def freshContext
    (engine : Engine)
    (rule : Rule)
    (input : Document)
    (trigger : TriggerKind) :
    Context :=
  .forRun rule input trigger engine.stamp.startedAt

/- A rule whose condition holds when a run of it starts. -/
def IsMet
    (engine : Engine)
    (rule : Rule)
    (input : Document)
    (trigger : TriggerKind) : Prop :=
  (rule.logic.condition.evaluate engine.patterns
    (engine.freshContext rule input trigger)).holds = true

variable {engine : Engine}
variable {runChild : RunChild}
variable {rule : Rule}
variable {input : Document}
variable {trigger : TriggerKind}

theorem CarriedOut.names
    {actions : List Action}
    (hCarriedOut :
      CarriedOut (engine.dispatch runChild scope) context start
        actions results steps after) :
    ∀ (i : Nat) (action : Action) (result : ActionResult),
      actions[i]? = some action →
        results[i]? = some result →
          result.actionId = action.id ∧
            result.actionType = action.type := by
  induction hCarriedOut with
  | nil =>
      intro i action result hAction
      cases hAction
  | cons hFirst _ ih =>
      intro i action result hAction hResult
      cases i with
      | zero =>
          cases hAction
          cases hResult
          exact dispatch_names hFirst
      | succ i => exact ih i action result hAction hResult

theorem evaluateAndAct_of_sequential
    (hMode : rule.mode = .sequential)
    (hHolds :
      (rule.logic.condition.evaluate engine.patterns
        context).holds = true) :
    engine.evaluateAndAct runChild rule context scope =
      (runSequential (engine.dispatch runChild scope) scope
        rule.logic.actions context).andThen fun later =>
          Activity.done
            ⟨true, later.1,
              (rule.logic.condition.evaluate engine.patterns
                context).diagnostics.map (·.text),
              later.2⟩ := by
  unfold evaluateAndAct
  simp only [hHolds, hMode]
  rfl

/- What a sequential run of some actions comes to. -/
structure RunsInOrder
    (engine : Engine)
    (runChild : RunChild)
    (scope : Scope)
    (context : Context)
    (start : Nat)
    (actions : List Action)
    (steps : List Step)
    (report : Report) : Prop where
  conditionsMet : report.conditionsMet = true
  length_le : report.results.length ≤ actions.length
  /-
    The actions with results are carried out in order.  These are all the
    steps that the run takes, and what the last of them leaves is what the
    run leaves: the others take no step and write nothing.
  -/
  carriedOut :
    CarriedOut (engine.dispatch runChild scope) context start
      (actions.take report.results.length) report.results steps
      (runSequentialInPlace
        (engine.dispatchInPlace runChild scope) scope actions
        context start).context
  inPlace_steps :
    (runSequentialInPlace
      (engine.dispatchInPlace runChild scope) scope actions
      context start).steps.map Prod.fst = steps
  inPlace_ending :
    (runSequentialInPlace
      (engine.dispatchInPlace runChild scope) scope actions
      context start).ending =
        .returned (report.results, report.error?)
  names :
    ∀ (i : Nat) (action : Action) (result : ActionResult),
      actions[i]? = some action →
        report.results[i]? = some result →
          result.actionId = action.id ∧
            result.actionType = action.type
  unhalted :
    ∀ (i : Nat) (action : Action) (result : ActionResult),
      actions[i]? = some action →
        report.results[i]? = some result →
          i + 1 < report.results.length →
            halts action result = false
  completed_iff :
    report.status = .completed ↔
      report.results.length = actions.length ∨
        Halted actions report.results
  failed_iff :
    report.status = .failed ∧
        report.error? = some (budgetError scope) ↔
      report.results.length < actions.length ∧
        ¬ Halted actions report.results ∧
        scope.deadline ≤ finishOf start steps
  /- Other results do not end a run before its deadline. -/
  goesOn :
    ∀ last,
      (actions.zip report.results).getLast? = some last →
        last.2.status = .unsupported ∨
            last.1.strategy = .continue →
          report.results.length = actions.length ∨
            scope.deadline ≤ finishOf start steps

/- A report of what a sequence of actions has come to. -/
theorem runsInOrder_of_returned
    {actions : List Action}
    {report : Report}
    (hEnding :
      (runSequential (engine.dispatch runChild scope) scope
        actions context start).ending =
          .returned (results, error?))
    (hConditions : report.conditionsMet = true)
    (hResults : report.results = results)
    (hError : report.error? = error?)
    (hStatus :
      report.status =
        if error?.isSome then .failed else .completed) :
    RunsInOrder engine runChild scope context start actions
      (runSequential (engine.dispatch runChild scope) scope
        actions context start).steps
      report := by
  subst hResults
  rcases runSequential_spec dispatchInPlace_apply actions context
      start hEnding with
    ⟨hSteps, hInPlace, hSequenced⟩
  have hNames :
      ∀ (i : Nat) (action : Action) (result : ActionResult),
        actions[i]? = some action →
          report.results[i]? = some result →
            result.actionId = action.id ∧
              result.actionType = action.type := by
    intro i action result hAction hResult
    refine hSequenced.carriedOut.names i action result ?_ hResult
    rcases List.getElem?_eq_some_iff.mp hResult with ⟨hLess, _⟩
    rw [List.getElem?_take_of_lt hLess, hAction]
  have hCompleted :
      report.status = .completed ↔ error? = none := by
    rw [hStatus]
    cases error? <;> simp
  have hFailed :
      report.status = .failed ∧
          report.error? = some (budgetError scope) ↔
        error? = some (budgetError scope) := by
    rw [hStatus, hError]
    cases error? <;> simp
  exact
    { conditionsMet := hConditions
      length_le := hSequenced.length_le
      carriedOut := hSequenced.carriedOut
      inPlace_steps := hSteps
      inPlace_ending := by rw [hInPlace, hError]
      names := hNames
      unhalted := hSequenced.unhalted
      completed_iff :=
        hCompleted.trans hSequenced.error_eq_none_iff
      failed_iff := hFailed.trans hSequenced.error_eq_budget_iff
      goesOn := fun _ hLast hResult =>
        hSequenced.goesOn hLast hResult }

/-
  A sequential run that does not crash comes to what its actions come to in
  order.
-/
theorem runWithin_runsInOrder
    (hMode : rule.mode = .sequential)
    (hMet : engine.IsMet rule input trigger)
    (hCalm :
      ∀ crash,
        (engine.evaluateAndAct runChild rule
          (engine.freshContext rule input trigger) scope
          start).ending ≠ .crashed crash) :
    ∃ report,
      (engine.runWithin runChild rule input trigger scope
          start).ending = .returned report ∧
        RunsInOrder engine runChild scope
          (engine.freshContext rule input trigger) start
          rule.logic.actions
          (engine.runWithin runChild rule input trigger scope
            start).steps
          report := by
  cases hEnding :
      (engine.evaluateAndAct runChild rule
        (engine.freshContext rule input trigger) scope
        start).ending with
  | crashed crash => exact absurd hEnding (hCalm crash)
  | returned outcome =>
      rw [runWithin_of_returned hEnding]
      refine ⟨_, rfl, ?_⟩
      rw [← freshContext]
      rw [evaluateAndAct_of_sequential hMode hMet] at hEnding ⊢
      rcases Activity.returned_of_andThen_done hEnding with
        ⟨later, hLater, rfl⟩
      rw [Activity.andThen_steps_of_still (fun _ _ => rfl)]
      exact runsInOrder_of_returned hLater rfl rfl rfl rfl

/- A rule whose second action is cut short, and whose third is due then. -/
def overdueRule : Rule :=
  ruleOf "overdue" .sequential
    [asks "first", { asks "second" with strategy := .continue },
      asks "third"]

def overdueRun : Activity Report :=
  (unhurried 1500 1 []).runWithin (unhurried 1500 1 []).runBelow
    overdueRule .null .manual (.root overdueRule 1500 0)

theorem overdueRun_runsInOrder :
    overdueRule.mode = .sequential ∧
      ∃ report,
        (overdueRun 0).ending = .returned report ∧
          RunsInOrder (unhurried 1500 1 [])
            (unhurried 1500 1 []).runBelow
            (.root overdueRule 1500 0)
            ((unhurried 1500 1 []).freshContext overdueRule
              .null .manual)
            0 overdueRule.logic.actions (overdueRun 0).steps
            report :=
  ⟨rfl,
    runWithin_runsInOrder rfl rfl fun _ hCrash => by
      cases hCrash⟩

example :
    ∃ report,
      (overdueRun 0).ending = .returned report ∧
        report.results.length = 2 ∧
        report.status = .failed :=
  ⟨_, rfl, rfl, rfl⟩

end Engine

end Automation
