import Automation.Proofs.Containment
import Automation.Proofs.FixedPaths

/-
  One rule in both modes.

  Actions that only read what a run starts with come to the same whether
  they are carried out one after the other or side by side.  So a run of
  such a rule in order has the first so many of the results that there are
  side by side, and all of them unless a failure stops it.  Calls are made
  at other times in the other mode, so answers depend on the request only.

  Key definitions include:
    * `Rule.inMode` and `Engine.withActions`
    * `Collaborators.NeverCrash`

  Key theorems include:
    * `Engine.result_eq_alone`, an action after others
    * `Engine.CarriedOut.results_eq_alone`, actions in order
    * `Engine.run_inOrder_isPrefix`, one rule in both modes
-/

namespace Automation

/- The rule with its actions carried out in a mode. -/
def Rule.inMode
    (rule : Rule)
    (mode : Mode) :
    Rule :=
  { rule with mode := mode }

/- Collaborators that answer or fail, but do not crash. -/
structure Collaborators.NeverCrash
    (collaborators : Collaborators) : Prop where
  model :
    ∀ time request crash,
      (collaborators.model time request).outcome ≠
        .crashed crash
  notify :
    ∀ time notification crash,
      (collaborators.notify time notification).outcome ≠
        .crashed crash
  webhook :
    ∀ time request crash,
      (collaborators.webhook time request).outcome ≠
        .crashed crash

namespace Engine

/- The engine with at most so many actions at a time. -/
def withActions
    (engine : Engine)
    (cap : Nat) :
    Engine :=
  { engine with
    settings :=
      { engine.settings with maxParallelActions := cap } }

/- Answers without delays come sooner, with more actions at a time. -/
theorem hastens_withActions
    {engine : Engine}
    {cap : Nat}
    (hAnswers : engine.collaborators.AnswersByRequest)
    (hCap : engine.settings.maxParallelActions ≤ cap) :
    engine.Hastens (engine.instant.withActions cap) :=
  { (AnswersLike.of_answersByRequest hAnswers).hastens_instant with
    actions_le := hCap }

variable {engine fast : Engine}
variable {scope : Scope}
variable {base context left after : Context}
variable {action : Action}
variable {actions : List Action}
variable {result : ActionResult}
variable {results : List ActionResult}
variable {steps : List Step}
variable {start time : Nat}

------------------------------------------------------------
-- Crashes
------------------------------------------------------------

theorem not_raises
    {crash : Crash}
    (hCalm : engine.collaborators.NeverCrash) :
    ¬ engine.Raises scope context time action crash := by
  rintro ⟨_, _, _, _, _, hRaises⟩
  cases hRaises with
  | model _ hReply => exact hCalm.model _ _ _ hReply
  | notice hReply => exact hCalm.notify _ _ _ hReply
  | webhook _ hReply => exact hCalm.webhook _ _ _ hReply

theorem evaluateAndAct_returned
    (hCalm : engine.collaborators.NeverCrash)
    (rule : Rule)
    (context : Context)
    (scope : Scope)
    (start : Nat) :
    ∃ outcome,
      (engine.evaluateAndAct engine.runBelow rule context scope
        start).ending = .returned outcome := by
  cases hEnding :
      (engine.evaluateAndAct engine.runBelow rule context scope
        start).ending with
  | returned outcome => exact ⟨outcome, rfl⟩
  | crashed crash =>
      rcases evaluateAndAct_crashed hEnding with
        ⟨_, action, left, time, _, hCrash⟩
      exact absurd
        (raises_of_dispatch (runBelow_sound engine) hCrash)
        (not_raises hCalm)

------------------------------------------------------------
-- Actions By Themselves
------------------------------------------------------------

/-
  Actions side by side come to what each of them comes to by itself when
  things go faster.
-/
theorem parallelResults_eq_alone
    {cap : Nat}
    (hHastens : engine.Hastens fast)
    (hTime :
      Activity.lastFinish start
          (parallelBranches cap
            (engine.dispatch engine.runBelow scope) actions base
            start) <
        scope.limit engine.settings.runTimeout start) :
    parallelResults cap (engine.dispatch engine.runBelow scope)
        actions base start =
      actions.map (fast.aloneResult scope base start) := by
  have hBranches :=
    forall₂_parallelBranches engine cap scope actions base start
  have hFinish :
      ∀ branch ∈
          parallelBranches cap
            (engine.dispatch engine.runBelow scope) actions base
            start,
        finishOf branch.1 branch.2.steps <
          scope.limit engine.settings.runTimeout start :=
    fun branch hBranch =>
      Nat.lt_of_le_of_lt
        ((Activity.lastFinish_spec start _).2.1 branch hBranch)
        hTime
  unfold parallelResults
  generalize
    parallelBranches cap
      (engine.dispatch engine.runBelow scope) actions base
      start = branches at hBranches hFinish
  clear hTime
  induction hBranches with
  | nil => rfl
  | @cons action branch _ _ hBranch _ ih =>
      rcases hBranch with ⟨hStart, hEpisode⟩
      have hFirst := hFinish branch List.mem_cons_self
      rw [hEpisode] at hFirst
      have hAt :=
        dispatch_hastensAt hHastens scope action base hStart
      have hResult :
          parallelResult action branch.2.ending =
            fast.aloneResult scope base start action := by
        unfold aloneResult
        rw [(hAt.follows hFirst).1, hEpisode]
      rw [List.zipWith_cons_cons, List.map_cons, hResult,
        ih fun other hOther =>
          hFinish other (List.mem_cons_of_mem _ hOther)]

/-
  An action that others come before has the result that it has by itself
  on the context that the run starts with.
-/
theorem result_eq_alone
    (hHastens : engine.Hastens fast)
    (hShares : base.SharesFixed context)
    (hReads : action.ReadsFixed base)
    (hStart : start ≤ time)
    (hEnding :
      (engine.dispatch engine.runBelow scope action context
        time).ending = .returned (result, left))
    (hTime :
      finishOf time
          (engine.dispatch engine.runBelow scope action context
            time).steps <
        scope.limit engine.settings.runTimeout start) :
    result = fast.aloneResult scope base start action := by
  have hConcurs :
      (engine.dispatch engine.runBelow scope action
          base).Concurs
        (engine.dispatch engine.runBelow scope action
          context) :=
    dispatch_concurs hShares hReads
  rcases hConcurs time with ⟨hSteps, hResult⟩
  rw [hSteps] at hTime
  have hAt := dispatch_hastensAt hHastens scope action base hStart
  unfold aloneResult
  rw [(hAt.follows hTime).1]
  rw [hEnding] at hResult
  cases hBase :
      (engine.dispatch engine.runBelow scope action base
        time).ending with
  | crashed crash =>
      rw [hBase] at hResult
      cases hResult
  | returned finished =>
      rw [hBase] at hResult
      cases hResult
      rfl

------------------------------------------------------------
-- Actions In Order
------------------------------------------------------------

theorem CarriedOut.forward
    (hCarriedOut :
      CarriedOut (engine.dispatch engine.runBelow scope) context
        time actions results steps after) :
    Forward time steps := by
  induction hCarriedOut with
  | nil => exact .nil
  | @cons context _ _ start action _ _ _ _ _ _ ih =>
      exact
        (dispatch_runBelow_forward engine scope action context
          start).append ih

/-
  By induction on the actions: each leaves the fixed scope as it is, and is
  over before the limit as the last of them is.
-/
theorem CarriedOut.results_eq_alone
    (hCarriedOut :
      CarriedOut (engine.dispatch engine.runBelow scope) context
        time actions results steps after)
    (hHastens : engine.Hastens fast)
    (hShares : base.SharesFixed context)
    (hReads : ∀ action ∈ actions, action.ReadsFixed base)
    (hStart : start ≤ time)
    (hTime :
      finishOf time steps <
        scope.limit engine.settings.runTimeout start) :
    results = actions.map (fast.aloneResult scope base start) := by
  induction hCarriedOut with
  | nil => rfl
  | @cons context left after time action result rest results
      steps hFirst hRest ih =>
      have hLater := hRest.forward.le_finishOf
      have hForward :=
        dispatch_runBelow_forward engine scope action context time
      have hBetween := hForward.le_finishOf
      rw [finishOf_append] at hTime
      have hResult :
          result = fast.aloneResult scope base start action :=
        result_eq_alone hHastens hShares
          (hReads action List.mem_cons_self) hStart hFirst
          (Nat.lt_of_le_of_lt hLater hTime)
      have hResults :
          results =
            rest.map (fast.aloneResult scope base start) := by
        apply ih
        · constructor
          · exact (dispatch_keepsFrame hFirst).fixed_eq.trans
              hShares.fixed_eq
          · exact hShares.named
        · intro other hOther
          exact hReads other (List.mem_cons_of_mem _ hOther)
        · exact Nat.le_trans hStart hBetween
        · exact hTime
      rw [List.map_cons, ← hResult, ← hResults]

/- Of actions none of which stops the run, none is the last. -/
theorem not_halted_of_unhalted
    (hUnhalted :
      ∀ (i : Nat) (action : Action) (result : ActionResult),
        actions[i]? = some action →
          results[i]? = some result →
            halts action result = false) :
    ¬ Halted actions results := by
  rintro ⟨last, hLast, hHalts⟩
  rcases List.mem_iff_getElem?.mp (List.mem_of_getLast? hLast)
    with ⟨i, hItem⟩
  rcases List.getElem?_zip_eq_some.mp hItem with
    ⟨hAction, hResult⟩
  rw [hUnhalted i last.1 last.2 hAction hResult] at hHalts
  cases hHalts

/-
  Actions in order that are over before the limit come to what the first so
  many of them come to by themselves.
-/
theorem runSequential_eq_alone
    {error? : Option String}
    (hHastens : engine.Hastens fast)
    (hShares : base.SharesFixed base)
    (hReads : ∀ action ∈ actions, action.ReadsFixed base)
    (hEnding :
      (runSequential (engine.dispatch engine.runBelow scope)
        scope actions base start).ending =
          .returned (results, error?))
    (hTime :
      finishOf start
          (runSequential (engine.dispatch engine.runBelow scope)
            scope actions base start).steps <
        scope.limit engine.settings.runTimeout start) :
    results <+:
        actions.map (fast.aloneResult scope base start) ∧
      ((∀ (i : Nat) (action : Action) (result : ActionResult),
        actions[i]? = some action →
          results[i]? = some result →
            halts action result = false) →
        results =
          actions.map (fast.aloneResult scope base start)) := by
  have hSequenced :=
    (runSequential_spec dispatchInPlace_apply actions base start
      hEnding).2.2
  have hResults :=
    hSequenced.carriedOut.results_eq_alone hHastens hShares
      (fun action hAction =>
        hReads action (List.mem_of_mem_take hAction))
      (Nat.le_refl start) hTime
  rw [List.map_take] at hResults
  constructor
  · rw [hResults]
    exact List.take_prefix _ _
  · intro hUnhalted
    have hNone : error? = none := by
      by_contra hSome
      have hLate := (hSequenced.expired hSome).2.2.2
      have hLimit :=
        Nat.min_le_left scope.deadline
          (start + engine.settings.runTimeout)
      exact absurd hTime
        (Nat.not_lt_of_le (Nat.le_trans hLimit hLate))
    have hAll : results.length = actions.length := by
      rcases hSequenced.completed hNone with hAll | hHalted
      · exact hAll
      · exact absurd hHalted (not_halted_of_unhalted hUnhalted)
    have hLength :
        (actions.map
          (fast.aloneResult scope base start)).length ≤
            results.length := by
      rw [List.length_map]
      exact Nat.le_of_eq hAll.symm
    rw [hResults, List.take_of_length_le hLength]

------------------------------------------------------------
-- One Rule In Both Modes
------------------------------------------------------------

section Modes

variable {rule : Rule}
variable {input : Document}
variable {trigger : TriggerKind}

/- The results of a rule whose condition does not hold. -/
theorem results_of_unmet
    {report : Report}
    (hEnding :
      (engine.runWithin engine.runBelow rule input trigger scope
        start).ending = .returned report)
    (hUnmet : ¬ engine.IsMet rule input trigger) :
    report.results = [] := by
  have hActs :
      engine.evaluateAndAct engine.runBelow rule
          (engine.freshContext rule input trigger) scope = _ :=
    evaluateAndAct_of_unmet (eq_false_of_ne_true hUnmet)
  have hReturned :=
    congrArg (fun activity => (activity start).ending) hActs
  rw [runWithin_of_returned hReturned] at hEnding
  cases hEnding
  rfl

/- The results of a run in order. -/
theorem results_inOrder
    {report : Report}
    (hEnding :
      (engine.runWithin engine.runBelow rule input trigger scope
        start).ending = .returned report)
    (hCalm : engine.collaborators.NeverCrash)
    (hHastens : engine.Hastens fast)
    (hMode : rule.mode = .sequential)
    (hMet : engine.IsMet rule input trigger)
    (hReads :
      ∀ action ∈ rule.logic.actions,
        action.ReadsFixed
          (engine.freshContext rule input trigger))
    (hTime :
      finishOf start
          (engine.runWithin engine.runBelow rule input trigger
            scope start).steps <
        scope.limit engine.settings.runTimeout start) :
    let alone :=
      rule.logic.actions.map
        (fast.aloneResult scope
          (engine.freshContext rule input trigger) start)
    report.results <+: alone ∧
      ((∀ (i : Nat) (action : Action) (result : ActionResult),
        rule.logic.actions[i]? = some action →
          report.results[i]? = some result →
            halts action result = false) →
        report.results = alone) := by
  dsimp only
  have hActs :
      engine.evaluateAndAct engine.runBelow rule
          (engine.freshContext rule input trigger) scope = _ :=
    evaluateAndAct_of_sequential hMode hMet
  rcases evaluateAndAct_returned hCalm rule
      (engine.freshContext rule input trigger) scope start with
    ⟨outcome, hOutcome⟩
  rw [runWithin_of_returned hOutcome] at hEnding hTime
  cases hEnding
  rw [hActs] at hOutcome
  rw [← freshContext, hActs,
    Activity.andThen_steps_of_still (fun _ _ => rfl)] at hTime
  rcases Activity.returned_of_andThen_done hOutcome with
    ⟨later, hLater, rfl⟩
  exact runSequential_eq_alone hHastens (.of_forRun rfl) hReads
    hLater hTime

/- The results of a run side by side. -/
theorem results_sideBySide
    {report : Report}
    (hEnding :
      (engine.runWithin engine.runBelow rule input trigger scope
        start).ending = .returned report)
    (hHastens : engine.Hastens fast)
    (hMode : rule.mode = .parallel)
    (hMet : engine.IsMet rule input trigger)
    (hTime :
      finishOf start
          (engine.runWithin engine.runBelow rule input trigger
            scope start).steps <
        scope.limit engine.settings.runTimeout start) :
    report.results =
      rule.logic.actions.map
        (fast.aloneResult scope
          (engine.freshContext rule input trigger) start) := by
  have hReturned :
      (runParallel engine.settings.maxParallelActions
          (engine.dispatch engine.runBelow scope) scope
          rule.logic.actions
          (engine.freshContext rule input trigger)
          start).ending = _ :=
    runParallel_ending _ _ _ _ _
  have hActs := evaluateAndAct_of_results hMode hMet hReturned
  rw [runWithin_of_returned (congrArg Episode.ending hActs)]
    at hEnding hTime
  cases hEnding
  rw [← freshContext, hActs] at hTime
  dsimp only at hTime
  rw [finishOf_runParallel] at hTime
  exact parallelResults_eq_alone hHastens hTime

/-
  A rule whose actions only read what its runs start with, run in order and
  side by side, with any number of actions at a time.  When both runs are
  over before the deadline, the results of the first are the first so many
  of the results of the second, and all of them unless a failure stops the
  first.
-/
theorem run_inOrder_isPrefix
    {cap : Nat}
    {inOrder sideBySide : Activity Report}
    (hAnswers : engine.collaborators.AnswersByRequest)
    (hCalm : engine.collaborators.NeverCrash)
    (hReads :
      ∀ action ∈ rule.logic.actions,
        action.ReadsFixed
          (engine.freshContext rule input trigger))
    (hInOrder :
      engine.run (rule.inMode .sequential) input trigger =
        .ok inOrder)
    (hSideBySide :
      (engine.withActions cap).run (rule.inMode .parallel) input
        trigger = .ok sideBySide)
    (hFirstTime :
      finishOf start (inOrder start).steps <
        start + engine.settings.runTimeout)
    (hSecondTime :
      finishOf start (sideBySide start).steps <
        start + engine.settings.runTimeout) :
    ∃ first second,
      (inOrder start).ending = .returned first ∧
        (sideBySide start).ending = .returned second ∧
        first.results <+: second.results ∧
        ((∀ (i : Nat) (action : Action) (result : ActionResult),
          rule.logic.actions[i]? = some action →
            first.results[i]? = some result →
              halts action result = false) →
          first.results = second.results) := by
  rcases run_of_runWithin hInOrder start with
    ⟨first, hFirst, hFirstReport, hFirstFinish⟩
  rcases run_of_runWithin hSideBySide start with
    ⟨second, hSecond, hSecondReport, hSecondFinish⟩
  refine ⟨first, second, hFirstReport, hSecondReport, ?_⟩
  by_cases hMet : engine.IsMet rule input trigger
  · -- Both are compared with an engine that waits for nothing.
    have hFewer :
        engine.Hastens
          (engine.instant.withActions
            (max engine.settings.maxParallelActions cap)) :=
      hastens_withActions hAnswers (Nat.le_max_left _ _)
    have hSameAnswers :
        (engine.withActions cap).collaborators.AnswersByRequest :=
      hAnswers
    have hMore :
        (engine.withActions cap).Hastens
          (engine.instant.withActions
            (max engine.settings.maxParallelActions cap)) :=
      hastens_withActions hSameAnswers (Nat.le_max_right _ _)
    have hLimit :=
      (Scope.Covers.root rule engine.settings.runTimeout
        start).limit_eq
    rw [hFirstFinish] at hFirstTime
    rw [hSecondFinish] at hSecondTime
    have hSequential :=
      results_inOrder hFirst hCalm hFewer rfl hMet hReads
        (hLimit ▸ hFirstTime)
    have hParallel :=
      results_sideBySide hSecond hMore rfl hMet
        (hLimit ▸ hSecondTime)
    rw [hParallel]
    exact hSequential
  · rw [results_of_unmet hFirst hMet,
      results_of_unmet hSecond hMet]
    exact ⟨List.prefix_refl [], fun _ => rfl⟩

end Modes

/- A request that passes on a part of the input. -/
def asksAbout : Action :=
  ⟨"ask", "trigger-model",
    .object
      [("inputMapping", .text "\x7b\x7binput.name\x7d\x7d"),
      ("modelId", .text "first")],
    .stop, some "answer"⟩

/- A branch on the input, with an action that keeps the user. -/
def keepsUser : Action :=
  ⟨"choose", "conditional-action",
    .object
      [("condition",
        .object
          [("field", .text "input.name"),
          ("operator", .text "is_not_empty"),
          ("type", .text "condition")]),
      ("then",
        .object
          [("config",
            .object
              [("key", .text "user"),
              ("value", .text "\x7b\x7buser.id\x7d\x7d")]),
          ("id", .text "keep"),
          ("type", .text "store-data")])],
    .stop, none⟩

/- An action that fails, as it names no key. -/
def keepsNothing : Action :=
  ⟨"nothing", "store-data", .object [("key", .text "")], .stop,
    none⟩

def greetingRule : Rule :=
  ruleOf "greeting" .sequential
    [asksAbout, keepsUser, keepsNothing, asks "second"]

def greetingInput : Document :=
  .object [("name", .text "Ada")]

def greetingContext : Context :=
  (unhurried 5000 1 []).freshContext greetingRule greetingInput
    .manual

theorem unhurried_neverCrash
    (timeout cap : Nat)
    (store : RuleStore) :
    (unhurried timeout cap store).collaborators.NeverCrash := by
  constructor <;> intro _ _ _ hCrash <;> cases hCrash

theorem keepsUser_readsFixed :
    keepsUser.ReadsFixed greetingContext := by
  have hTask :
      ∃ task,
        Task.ofConfig keepsUser.kind
            (filledConfig keepsUser greetingContext) =
              .ok (.branch task) ∧
          task.condition.isFixed = true ∧
          task.elseAction? = none ∧
          ∃ kept,
            task.thenAction? = some kept ∧
              kept.ReadsFixed greetingContext :=
    ⟨_, rfl, by decide, rfl, _, rfl,
      .of_task rfl (by decide) (by decide) (by decide)⟩
  rcases hTask with
    ⟨task, hTask, hCondition, hElse, kept, hThen, hKept⟩
  constructor
  · decide
  · intro other hOther
    rw [hTask] at hOther
    cases hOther
    exact hCondition
  · intro other inner hOther hInner
    rw [hTask] at hOther
    cases hOther
    rcases hInner with hInner | hInner
    · rw [hThen] at hInner
      cases hInner
      exact hKept
    · rw [hElse] at hInner
      cases hInner

/- The third action stops the run in order, but not the fourth beside. -/
theorem greeting_inOrder_isPrefix :
    ∃ inOrder sideBySide first second,
      (unhurried 5000 1 []).run
          (greetingRule.inMode .sequential) greetingInput
          .manual = .ok inOrder ∧
        ((unhurried 5000 1 []).withActions 3).run
            (greetingRule.inMode .parallel) greetingInput
            .manual = .ok sideBySide ∧
        (inOrder 0).ending = .returned first ∧
        (sideBySide 0).ending = .returned second ∧
        first.results.length = 3 ∧
        second.results.length = 4 ∧
        first.results <+: second.results := by
  have hReads :
      ∀ action ∈ greetingRule.logic.actions,
        action.ReadsFixed greetingContext := by
    intro action hAction
    simp only [greetingRule, ruleOf, Rule.basic, List.mem_cons,
      List.not_mem_nil, or_false] at hAction
    rcases hAction with rfl | rfl | rfl | rfl
    · exact .of_task rfl (by decide) (by decide) (by decide)
    · exact keepsUser_readsFixed
    · exact .of_task rfl (by decide) (by decide) (by decide)
    · exact .of_task rfl (by decide) (by decide) (by decide)
  have hInOrder :
      ∃ inOrder first,
        (unhurried 5000 1 []).run
            (greetingRule.inMode .sequential) greetingInput
            .manual = .ok inOrder ∧
          finishOf 0 (inOrder 0).steps < 5000 ∧
          (inOrder 0).ending = .returned first ∧
          first.results.length = 3 :=
    ⟨_, _, rfl, by decide, rfl, rfl⟩
  have hSideBySide :
      ∃ sideBySide second,
        ((unhurried 5000 1 []).withActions 3).run
            (greetingRule.inMode .parallel) greetingInput
            .manual = .ok sideBySide ∧
          finishOf 0 (sideBySide 0).steps < 5000 ∧
          (sideBySide 0).ending = .returned second ∧
          second.results.length = 4 :=
    ⟨_, _, rfl, by decide, rfl, rfl⟩
  rcases hInOrder with
    ⟨inOrder, first, hFirstRun, hFirstTime, hFirst, hThree⟩
  rcases hSideBySide with
    ⟨sideBySide, second, hSecondRun, hSecondTime, hSecond, hFour⟩
  rcases run_inOrder_isPrefix
      (unhurried_steady 5000 1 []).answersByRequest
      (unhurried_neverCrash 5000 1 []) hReads hFirstRun hSecondRun
      hFirstTime hSecondTime with
    ⟨one, other, hOne, hOther, hPrefix, _⟩
  rw [hFirst] at hOne
  cases hOne
  rw [hSecond] at hOther
  cases hOther
  exact
    ⟨inOrder, sideBySide, first, second, hFirstRun, hSecondRun,
      hFirst, hSecond, hThree, hFour, hPrefix⟩

end Engine

end Automation
