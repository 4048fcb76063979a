import Automation.Proofs.Containment

/-
  What the report of a run tells.

  A report gives account of its run when it has the verdict on the
  condition, the diagnostics that come with it, and just the results of the
  actions that are finished when the run ends.  Every report does so but
  one: when actions are carried out one after the other and one of them
  crashes, what the others have come to is lost, and so is the verdict.

  Key definitions include:
    * `Engine.Finishes`, the actions of a sequence that are finished
    * `Engine.Ends`, how a sequence ends that does not crash
    * `Engine.HasFinished`, the actions of a run that are finished
    * `Engine.GivesAccount`, what a report should tell
    * `Engine.CrashesInOrder`, the runs that lose it

  Key theorems include:
    * `Engine.runSequential_results`, the results of a sequence
    * `Engine.evaluateAndAct_crashed_iff`, the runs that crash
    * `Engine.run_givesAccount_iff`, the reports that tell what happened
-/

namespace Automation

namespace Engine

------------------------------------------------------------
-- Actions That Are Finished
------------------------------------------------------------

/-
  The position of an action that a sequence carries out to its end, and the
  result that it comes to.
-/
def Finishes
    (dispatch :
      Action → Context → Activity (ActionResult × Context))
    (scope : Scope)
    (context : Context)
    (start : Nat)
    (actions : List Action)
    (i : Nat)
    (result : ActionResult) : Prop :=
  ∃ action left after time,
    actions[i]? = some action ∧
      Comes dispatch scope context start actions i left time ∧
      time < scope.deadline ∧
      (dispatch action left time).ending =
        .returned (result, after)

section Sequence

variable {dispatch :
  Action → Context → Activity (ActionResult × Context)}
variable {scope : Scope}
variable {context left : Context}
variable {start i : Nat}
variable {action : Action}
variable {result other : ActionResult}
variable {rest : List Action}

theorem not_finishes_nil :
    ¬ Finishes dispatch scope context start [] i result := by
  rintro ⟨_, _, _, _, hAction, _⟩
  cases hAction

theorem not_finishes_of_late
    {actions : List Action}
    (hTime : scope.deadline ≤ start) :
    ¬ Finishes dispatch scope context start actions i result := by
  rintro ⟨_, _, _, _, _, hComes, hBefore, _⟩
  cases hComes with
  | first => omega
  | next hOther => omega

theorem finishes_zero_iff
    (hTime : start < scope.deadline)
    (hFirst :
      (dispatch action context start).ending =
        .returned (result, left)) :
    Finishes dispatch scope context start (action :: rest) 0
        other ↔
      other = result := by
  constructor
  · rintro ⟨_, _, _, _, hAction, hComes, _, hOther⟩
    rcases comes_zero_iff.mp hComes with ⟨rfl, rfl⟩
    cases hAction
    rw [hFirst] at hOther
    cases hOther
    rfl
  · rintro rfl
    exact ⟨_, _, _, _, rfl, .first, hTime, hFirst⟩

/- Whether a later action is finished is up to the first as well. -/
theorem finishes_succ_iff
    (hTime : start < scope.deadline)
    (hFirst :
      (dispatch action context start).ending =
        .returned (result, left)) :
    Finishes dispatch scope context start (action :: rest)
        (i + 1) other ↔
      halts action result = false ∧
        Finishes dispatch scope left
          (finishOf start (dispatch action context start).steps)
          rest i other := by
  constructor
  · rintro
      ⟨_, _, _, _, hAction, hComes, hBefore, hFinished⟩
    rcases comes_succ_iff.mp hComes with
      ⟨_, _, _, hOther, hResult, hLater⟩
    rw [hFirst] at hOther
    cases hOther
    exact
      ⟨hResult, _, _, _, _, hAction, hLater, hBefore,
        hFinished⟩
  · rintro
      ⟨hResult, _, _, _, _, hAction, hLater, hBefore,
        hFinished⟩
    exact
      ⟨_, _, _, _, hAction, .next hTime hFirst hResult hLater,
        hBefore, hFinished⟩

/-
  How a sequence ends that does not crash: before its first action, when
  the deadline is reached; with it, when it stops the run; or as the others
  end that follow it.
-/
inductive Ends
    (dispatch :
      Action → Context → Activity (ActionResult × Context))
    (scope : Scope)
    (context : Context)
    (start : Nat)
    (action : Action)
    (rest : List Action) :
    List ActionResult → Option String → Prop
  | late
      (hTime : scope.deadline ≤ start) :
      Ends dispatch scope context start action rest []
        (some (budgetError scope))
  | halted
      {left : Context}
      {result : ActionResult}
      (hTime : start < scope.deadline)
      (hFirst :
        (dispatch action context start).ending =
          .returned (result, left))
      (hResult : halts action result = true) :
      Ends dispatch scope context start action rest [result] none
  | next
      {left : Context}
      {result : ActionResult}
      {later : List ActionResult}
      {error? : Option String}
      (hTime : start < scope.deadline)
      (hFirst :
        (dispatch action context start).ending =
          .returned (result, left))
      (hResult : halts action result = false)
      (hLater :
        (runSequential dispatch scope rest left
          (finishOf start
            (dispatch action context start).steps)).ending =
              .returned (later, error?)) :
      Ends dispatch scope context start action rest
        (result :: later) error?

theorem runSequential_ends
    {results : List ActionResult}
    {error? : Option String}
    (hEnding :
      (runSequential dispatch scope (action :: rest) context
        start).ending = .returned (results, error?)) :
    Ends dispatch scope context start action rest results
      error? := by
  rcases Nat.lt_or_ge start scope.deadline with hTime | hTime
  · cases hFirst : (dispatch action context start).ending with
    | crashed crash =>
        rw [runSequential_of_crash hTime hFirst] at hEnding
        cases hEnding
    | returned finished =>
        rcases finished with ⟨result, left⟩
        rcases Bool.eq_false_or_eq_true
            (halts action result) with hResult | hResult
        · rw [runSequential_of_halt hTime hFirst hResult]
            at hEnding
          cases hEnding
          exact .halted hTime hFirst hResult
        · rw [runSequential_of_next hTime hFirst hResult]
            at hEnding
          rcases Activity.returned_of_andThen_done hEnding
            with ⟨later, hLater, hOutcome⟩
          cases hOutcome
          exact .next hTime hFirst hResult hLater
  · rw [runSequential_of_late hTime] at hEnding
    cases hEnding
    exact .late hTime

/-
  A sequence that does not crash has the result of each action that is
  finished, in its place, and no other.
-/
theorem runSequential_results
    {actions : List Action}
    {results : List ActionResult}
    {error? : Option String}
    (hEnding :
      (runSequential dispatch scope actions context
        start).ending = .returned (results, error?)) :
    results[i]? = some other ↔
      Finishes dispatch scope context start actions i other := by
  induction actions generalizing context start results i with
  | nil =>
      cases hEnding
      have hNone :
          ¬ Finishes dispatch scope context start [] i other :=
        not_finishes_nil
      simpa using hNone
  | cons action rest ih =>
      cases runSequential_ends hEnding with
      | late hTime =>
          have hNone :
              ¬ Finishes dispatch scope context start
                  (action :: rest) i other :=
            not_finishes_of_late hTime
          simpa using hNone
      | halted hTime hFirst hResult =>
          cases i with
          | zero =>
              rw [finishes_zero_iff hTime hFirst]
              simp [eq_comm]
          | succ i =>
              rw [finishes_succ_iff hTime hFirst, hResult]
              simp
      | next hTime hFirst hResult hLater =>
          cases i with
          | zero =>
              rw [finishes_zero_iff hTime hFirst]
              simp [eq_comm]
          | succ i =>
              rw [finishes_succ_iff hTime hFirst,
                List.getElem?_cons_succ, ih hLater]
              simp [hResult]

end Sequence

/-
  The actions of a run that are finished when it ends, by their positions,
  with their results.  Side by side, an action is finished when its branch
  is over, be it by a crash.
-/
inductive HasFinished
    (engine : Engine)
    (scope : Scope)
    (rule : Rule)
    (context : Context)
    (start : Nat) :
    Nat → ActionResult → Prop
  | inOrder
      {i : Nat}
      {result : ActionResult}
      (hMode : rule.mode = .sequential)
      (hFinishes :
        Finishes (engine.dispatch engine.runBelow scope) scope
          context start rule.logic.actions i result) :
      HasFinished engine scope rule context start i result
  | sideBySide
      {i : Nat}
      {action : Action}
      {branch : Nat × Episode (ActionResult × Context)}
      (hMode : rule.mode = .parallel)
      (hAction : rule.logic.actions[i]? = some action)
      (hBranch :
        (Activity.schedule
          (List.replicate
            (max
              (min rule.logic.actions.length
                engine.settings.maxParallelActions) 1)
            start)
          (rule.logic.actions.map fun action =>
            engine.dispatch engine.runBelow scope action
              context))[i]? = some branch) :
      HasFinished engine scope rule context start i
        (parallelResult action branch.2.ending)

------------------------------------------------------------
-- Runs That Lose Their Results
------------------------------------------------------------

/-
  The condition of a run holds, its actions are carried out one after the
  other, and one of them crashes.
-/
def CrashesInOrder
    (engine : Engine)
    (scope : Scope)
    (rule : Rule)
    (context : Context)
    (start : Nat) : Prop :=
  rule.mode = .sequential ∧
    (rule.logic.condition.evaluate engine.patterns context).holds =
        true ∧
    ∃ action left time crash,
      Reaches (engine.dispatch engine.runBelow scope) scope
          context start rule.logic.actions action left time ∧
        (engine.dispatch engine.runBelow scope action left
          time).ending = .crashed crash

variable {engine : Engine}
variable {scope : Scope}
variable {rule : Rule}
variable {context : Context}
variable {start : Nat}
variable {input : Document}
variable {trigger : TriggerKind}

theorem evaluateAndAct_crashed_iff :
    (∃ crash,
        (engine.evaluateAndAct engine.runBelow rule context scope
          start).ending = .crashed crash) ↔
      engine.CrashesInOrder scope rule context start := by
  constructor
  · rintro ⟨crash, hEnding⟩
    have hHolds :
        (rule.logic.condition.evaluate engine.patterns context).holds =
          true := by
      by_contra hUnmet
      rw [Bool.not_eq_true] at hUnmet
      rw [evaluateAndAct_of_unmet hUnmet] at hEnding
      cases hEnding
    rcases evaluateAndAct_crashed hEnding with
      ⟨hMode, action, left, time, hReaches, hCrash⟩
    exact
      ⟨hMode, hHolds, action, left, time, crash, hReaches,
        hCrash⟩
  · rintro
      ⟨hMode, hHolds, action, left, time, crash, hReaches,
        hCrash⟩
    refine ⟨crash, ?_⟩
    rw [evaluateAndAct_of_sequential hMode hHolds]
    exact Activity.andThen_done_crashed_iff.mpr
      (runSequential_of_reaches hReaches hCrash)

------------------------------------------------------------
-- What A Report Should Tell
------------------------------------------------------------

/- A report of a run that has all that the run has come to. -/
structure GivesAccount
    (engine : Engine)
    (scope : Scope)
    (rule : Rule)
    (context : Context)
    (start : Nat)
    (report : Report) : Prop where
  conditionsMet :
    report.conditionsMet =
      (rule.logic.condition.evaluate engine.patterns context).holds
  diagnostics :
    report.diagnostics =
      (rule.logic.condition.evaluate engine.patterns
        context).diagnostics.map
        (·.text)
  /- The actions of a run are those of a rule whose condition holds. -/
  results :
    ∀ i result,
      report.results[i]? = some result ↔
        (rule.logic.condition.evaluate engine.patterns
          context).holds = true ∧
          engine.HasFinished scope rule context start i result

/- Side by side, every action is finished in the end. -/
theorem runParallel_results
    {results : List ActionResult}
    {i : Nat}
    {result : ActionResult}
    (hMode : rule.mode = .parallel)
    (hResults :
      (runParallel engine.settings.maxParallelActions
        (engine.dispatch engine.runBelow scope) scope
        rule.logic.actions context start).ending =
          .returned results) :
    results[i]? = some result ↔
      engine.HasFinished scope rule context start i
        result := by
  unfold runParallel at hResults
  rw [Activity.bind_eq_andThen,
    Activity.andThen_apply_of_returned
      (Activity.fanOut_ending _ _ _ _)] at hResults
  cases hResults
  rw [List.getElem?_zipWith_eq_some]
  constructor
  · rintro ⟨action, ending, hAction, hEnding, rfl⟩
    rw [List.getElem?_map] at hEnding
    rcases Option.map_eq_some_iff.mp hEnding with
      ⟨branch, hBranch, rfl⟩
    exact .sideBySide hMode hAction hBranch
  · intro hFinished
    cases hFinished with
    | inOrder hOther =>
        rw [hMode] at hOther
        cases hOther
    | @sideBySide action branch _ hAction hBranch =>
        refine ⟨action, branch.2.ending, hAction, ?_, rfl⟩
        rw [List.getElem?_map, hBranch]
        rfl

/- What a run that does not crash has come to. -/
theorem evaluateAndAct_givesAccount
    {outcome : RunOutcome}
    (hEnding :
      (engine.evaluateAndAct engine.runBelow rule
        (engine.freshContext rule input trigger) scope
        start).ending = .returned outcome) :
    engine.GivesAccount scope rule
      (engine.freshContext rule input trigger) start
      (engine.reportOf rule input trigger outcome) := by
  cases hHolds :
      (rule.logic.condition.evaluate engine.patterns
        (engine.freshContext rule input trigger)).holds with
  | false =>
      rw [evaluateAndAct_of_unmet hHolds] at hEnding
      cases hEnding
      refine ⟨hHolds.symm, rfl, ?_⟩
      intro i result
      simp [reportOf, hHolds]
  | true =>
      cases hMode : rule.mode with
      | sequential =>
          rw [evaluateAndAct_of_sequential hMode hHolds]
            at hEnding
          rcases Activity.returned_of_andThen_done hEnding with
            ⟨later, hLater, rfl⟩
          refine ⟨hHolds.symm, rfl, ?_⟩
          intro i result
          simp only [reportOf, hHolds, true_and]
          rw [runSequential_results hLater]
          constructor
          · exact .inOrder hMode
          · intro hFinished
            cases hFinished with
            | inOrder _ hFinishes => exact hFinishes
            | sideBySide hOther =>
                rw [hMode] at hOther
                cases hOther
      | parallel =>
          have hResults :
              (runParallel engine.settings.maxParallelActions
                  (engine.dispatch engine.runBelow scope) scope
                  rule.logic.actions
                  (engine.freshContext rule input trigger)
                  start).ending = _ :=
            runParallel_ending _ _ _ _ _
          rw [evaluateAndAct_of_results hMode hHolds hResults]
            at hEnding
          cases hEnding
          refine ⟨hHolds.symm, rfl, ?_⟩
          intro i result
          simp only [reportOf, hHolds, true_and]
          exact runParallel_results hMode hResults

/- A run gives account of itself just when none of its actions ends it. -/
theorem runWithin_givesAccount_iff
    (engine : Engine)
    (scope : Scope)
    (rule : Rule)
    (input : Document)
    (trigger : TriggerKind)
    (start : Nat) :
    ∃ report,
      (engine.runWithin engine.runBelow rule input trigger scope
          start).ending = .returned report ∧
        (engine.GivesAccount scope rule
            (engine.freshContext rule input trigger) start
            report ↔
          ¬ engine.CrashesInOrder scope rule
              (engine.freshContext rule input trigger)
              start) := by
  rw [← evaluateAndAct_crashed_iff]
  cases hEnding :
      (engine.evaluateAndAct engine.runBelow rule
        (engine.freshContext rule input trigger) scope
        start).ending with
  | returned outcome =>
      rw [runWithin_of_returned hEnding]
      refine ⟨_, rfl, ?_⟩
      have hAccount := evaluateAndAct_givesAccount hEnding
      simp [hAccount]
  | crashed crash =>
      rw [runWithin_of_crashed hEnding]
      refine ⟨_, rfl, ?_⟩
      have hHolds :=
        (evaluateAndAct_crashed_iff.mp ⟨crash, hEnding⟩).2.1
      have hDenies :
          ¬ engine.GivesAccount scope rule
              (engine.freshContext rule input trigger) start
              (engine.reportOf rule input trigger
                ⟨false, [], [], some crash.runError⟩) := by
        intro hAccount
        have hMet := hAccount.conditionsMet
        rw [hHolds] at hMet
        cases hMet
      simp [hDenies]

/-
  The report of an outermost run, and that of a run that an action starts,
  tells what has happened, unless one of the actions in order crashes.
-/
theorem run_givesAccount_iff
    (engine : Engine)
    (hActive : rule.active = true)
    (input : Document)
    (trigger : TriggerKind)
    (start : Nat) :
    (∃ activity report,
      engine.run rule input trigger = .ok activity ∧
        (activity start).ending = .returned report ∧
        (engine.GivesAccount
            (.root rule engine.settings.runTimeout start) rule
            (engine.freshContext rule input trigger) start
            report ↔
          ¬ engine.CrashesInOrder
              (.root rule engine.settings.runTimeout start) rule
              (engine.freshContext rule input trigger)
              start)) ∧
      ∀ (scope : Scope) (started : Rule) (task : RuleTask)
        (context : Context) (time : Nat),
        let child :=
          scope.child started engine.settings.runTimeout time
        let fresh :=
          engine.freshContext started
            (task.input?.getD context.input) .chained
        ∃ report,
          (engine.chainedRun scope started task context
              time).ending = .returned report ∧
            (engine.GivesAccount child started fresh time
                report ↔
              ¬ engine.CrashesInOrder child started fresh
                  time) := by
  constructor
  · have hRuns :
        ∃ activity,
          engine.run rule input trigger = .ok activity :=
      exists_run hActive input trigger
    rcases hRuns with ⟨activity, hRun⟩
    rcases runWithin_givesAccount_iff engine
        (.root rule engine.settings.runTimeout start) rule input
        trigger start with
      ⟨report, hReport, hAccount⟩
    refine ⟨activity, report, hRun, ?_, hAccount⟩
    rw [run_apply hRun start, Activity.announced_apply hReport]
  · intro scope started task context time
    exact runWithin_givesAccount_iff engine _ started _
      .chained time

/- A run that is stopped on its budget has all results so far. -/
theorem overdueRun_givesAccount :
    overdueRule.active = true ∧
      ∃ activity report,
        (unhurried 1500 1 []).run overdueRule .null .manual =
            .ok activity ∧
          (activity 0).ending = .returned report ∧
          (unhurried 1500 1 []).GivesAccount
            (.root overdueRule 1500 0) overdueRule
            ((unhurried 1500 1 []).freshContext overdueRule
              .null .manual)
            0 report := by
  have hCalm :
      ¬ (unhurried 1500 1 []).CrashesInOrder
          (.root overdueRule 1500 0) overdueRule
          ((unhurried 1500 1 []).freshContext overdueRule .null
            .manual)
          0 := by
    rw [← evaluateAndAct_crashed_iff]
    rintro ⟨crash, hCrash⟩
    cases hCrash
  refine ⟨rfl, ?_⟩
  have hRun :=
    run_givesAccount_iff (unhurried 1500 1 [])
      (show overdueRule.active = true from rfl) .null .manual 0
  rcases hRun.1 with ⟨activity, report, hRun, hReport, hAccount⟩
  exact ⟨activity, report, hRun, hReport, hAccount.mpr hCalm⟩

/- An action that sets a variable. -/
def notes
    (name : String) :
    Action :=
  ⟨name, "store-data",
    .object [("key", .text name), ("value", .text name)], .stop,
    none⟩

/-
  A rule with a test that cannot be carried out and a condition that holds
  all the same, whose second action crashes.
-/
def brokenRule : Rule :=
  { ruleOf "broken" .sequential [notes "n", asks "bad"] with
    logic :=
      ⟨.anyOf
          [.compare "input.amount" .greaterThan (.integer 1),
            .always],
        [notes "n", asks "bad"]⟩ }

/- What the first action has come to is denied, with all else. -/
theorem brokenRun_denies :
    let engine := volatile 5000 1 []
    let fresh := engine.freshContext brokenRule .null .manual
    let verdict :=
      brokenRule.logic.condition.evaluate engine.patterns fresh
    ∃ activity report,
      engine.run brokenRule .null .manual = .ok activity ∧
        (activity 0).ending = .returned report ∧
        verdict.holds = true ∧
        report.conditionsMet = false ∧
        verdict.diagnostics.length = 1 ∧
        report.diagnostics = [] ∧
        (∃ result,
          engine.HasFinished (.root brokenRule 5000 0)
              brokenRule fresh 0 0 result ∧
            result.isSuccess = true) ∧
        report.results = [] ∧
        ¬ engine.GivesAccount (.root brokenRule 5000 0)
            brokenRule fresh 0 report := by
  refine
    ⟨_, _, rfl, rfl, rfl, rfl, rfl, rfl, ?_, rfl, ?_⟩
  · exact
      ⟨_, .inOrder rfl
        ((finishes_zero_iff (by decide) rfl).mpr rfl), rfl⟩
  · intro hAccount
    have hMet := hAccount.conditionsMet
    cases hMet

end Engine

end Automation
