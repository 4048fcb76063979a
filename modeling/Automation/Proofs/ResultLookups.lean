import Automation.Proofs.Accounts
import Automation.Proofs.Outcomes
import Automation.Proofs.Validity

/-
  Results looked up by the ids of their actions.

  The results of a run stand in the order of the actions, and each has the
  id of its action.  As no two actions of a rule that can be loaded share
  an id, what is found under the id of an action is the result in its
  place, and no other result has this id.  Nothing is found just when the
  action has no result: the condition does not hold, the run has crashed,
  or the actions before it or the deadline have kept the run from it.

  Key definitions include:
    * `ActionResult.IsOf`, a result with the names of an action
    * `Engine.Skips`, the actions that a sequence does not come to
    * `Engine.Records` and `Engine.Omits`, the results that a run has
    * `Engine.FindsResults` and `Rule.ResultsFound`, look-ups that are
      reliable

  Key theorems include:
    * `Engine.EachResult.find?_eq`, look-ups among results in order
    * `Engine.runSequential_skips`, what a sequence does not come to
    * `Engine.runWithin_places`, the results that a run has
    * `Rule.validate_resultsFound`, all of it together
-/

namespace Automation

/- The result names the action. -/
structure ActionResult.IsOf
    (result : ActionResult)
    (action : Action) : Prop where
  id : result.actionId = action.id
  type : result.actionType = action.type

namespace Engine

/- Results that name the actions in whose places they stand. -/
abbrev NamesEach
    (actions : List Action)
    (results : List ActionResult) : Prop :=
  EachResult (fun action result => result.IsOf action) actions
    results

------------------------------------------------------------
-- Results In The Order Of Their Actions
------------------------------------------------------------

section LookUp

variable {actions : List Action}
variable {results : List ActionResult}
variable {i j : Nat}
variable {action : Action}
variable {result : ActionResult}

/- The id of an action stands in one place only. -/
theorem EachResult.place_eq
    (hEach : NamesEach actions results)
    (hDistinct : (actions.map (·.id)).Nodup)
    (hAction : actions[i]? = some action)
    (hResult : results[j]? = some result)
    (hId : result.actionId = action.id) :
    j = i := by
  rcases List.getElem?_eq_some_iff.mp hResult with ⟨hLess, _⟩
  have hBound : j < actions.length :=
    Nat.lt_of_lt_of_le hLess hEach.length_le
  have hOther : actions[j]? = some actions[j] :=
    List.getElem?_eq_getElem hBound
  have hNames := hEach.each j _ _ hOther hResult
  have hSame :
      (actions.map (·.id))[j]? = (actions.map (·.id))[i]? := by
    rw [List.getElem?_map, List.getElem?_map, hOther, hAction]
    exact congrArg some (hNames.id.symm.trans hId)
  have hLength : j < (actions.map (·.id)).length := by
    rwa [List.length_map]
  exact (List.getElem?_inj hLength hDistinct).mp hSame

/- What is found under the id of an action is the result in its place. -/
theorem EachResult.find?_eq
    (hEach : NamesEach actions results)
    (hDistinct : (actions.map (·.id)).Nodup)
    (hAction : actions[i]? = some action) :
    results.find? (fun result => result.actionId = action.id) =
      results[i]? := by
  cases hFound :
      results.find?
        (fun result => result.actionId = action.id) with
  | some result =>
      rcases List.getElem?_of_mem
          (List.mem_of_find?_eq_some hFound) with ⟨j, hResult⟩
      have hId : result.actionId = action.id := by
        simpa using List.find?_some hFound
      rw [← hEach.place_eq hDistinct hAction hResult hId,
        hResult]
  | none =>
      cases hResult : results[i]? with
      | none => rfl
      | some result =>
          have hNames := hEach.each i _ _ hAction hResult
          have hOther :=
            List.find?_eq_none.mp hFound result
              (List.mem_of_getElem? hResult)
          simp [hNames.id] at hOther

end LookUp

------------------------------------------------------------
-- Actions That A Sequence Does Not Come To
------------------------------------------------------------

/-
  The positions that a sequence leaves out: those it comes to no sooner
  than the deadline, and those after a failure that stops the run.
-/
inductive Skips
    (dispatch :
      Action → Context → Activity (ActionResult × Context))
    (scope : Scope)
    (context : Context)
    (start : Nat)
    (actions : List Action)
    (i : Nat) : Prop
  | late
      {left : Context}
      {j time : Nat}
      (hComes :
        Comes dispatch scope context start actions j left time)
      (hBefore : j ≤ i)
      (hTime : scope.deadline ≤ time) :
      Skips dispatch scope context start actions i
  | halted
      {left after : Context}
      {j time : Nat}
      {action : Action}
      {result : ActionResult}
      (hComes :
        Comes dispatch scope context start actions j left time)
      (hBefore : j < i)
      (hAction : actions[j]? = some action)
      (hTime : time < scope.deadline)
      (hFinished :
        (dispatch action left time).ending =
          .returned (result, after))
      (hResult : halts action result = true) :
      Skips dispatch scope context start actions i

section Sequence

variable {dispatch :
  Action → Context → Activity (ActionResult × Context)}
variable {scope : Scope}
variable {context left : Context}
variable {start i : Nat}
variable {action : Action}
variable {result : ActionResult}
variable {rest : List Action}

/- An action that is due before the deadline is carried out. -/
theorem not_skips_zero
    (hTime : start < scope.deadline) :
    ¬ Skips dispatch scope context start (action :: rest) 0 := by
  intro hSkips
  cases hSkips with
  | late hComes hBefore hLate =>
      cases Nat.le_zero.mp hBefore
      have hStart := (comes_zero_iff.mp hComes).2
      omega
  | halted _ hBefore => omega

/- After an action that does not stop the run, the others decide. -/
theorem skips_succ_iff
    (hTime : start < scope.deadline)
    (hFirst :
      (dispatch action context start).ending =
        .returned (result, left))
    (hResult : halts action result = false) :
    Skips dispatch scope context start (action :: rest)
        (i + 1) ↔
      Skips dispatch scope left
        (finishOf start (dispatch action context start).steps)
        rest i := by
  constructor
  · intro hSkips
    cases hSkips with
    | late hComes hBefore hLate =>
        cases hComes with
        | first => omega
        | next _ hOther _ hLater =>
            rw [hFirst] at hOther
            cases hOther
            exact .late hLater (by omega) hLate
    | halted hComes hBefore hAction hEarly hFinished hHalts =>
        cases hComes with
        | first =>
            cases hAction
            rw [hFirst] at hFinished
            cases hFinished
            rw [hResult] at hHalts
            cases hHalts
        | next _ hOther _ hLater =>
            rw [hFirst] at hOther
            cases hOther
            exact
              .halted hLater (by omega) hAction hEarly hFinished
                hHalts
  · intro hSkips
    cases hSkips with
    | late hComes hBefore hLate =>
        exact
          .late (.next hTime hFirst hResult hComes) (by omega)
            hLate
    | halted hComes hBefore hAction hEarly hFinished hHalts =>
        exact
          .halted (.next hTime hFirst hResult hComes)
            (by omega) hAction hEarly hFinished hHalts

/-
  A sequence that does not crash lacks the results of the actions that it
  skips, and no other.
-/
theorem runSequential_skips
    {actions : List Action}
    {results : List ActionResult}
    {error? : Option String}
    (hBound : i < actions.length)
    (hEnding :
      (runSequential dispatch scope actions context
        start).ending = .returned (results, error?)) :
    results[i]? = none ↔
      Skips dispatch scope context start actions i := by
  induction actions generalizing context start results i with
  | nil => cases hBound
  | cons action rest ih =>
      cases runSequential_ends hEnding with
      | late hTime =>
          exact
            iff_of_true List.getElem?_nil
              (.late .first (Nat.zero_le _) hTime)
      | halted hTime hFirst hResult =>
          cases i with
          | zero => simp [not_skips_zero hTime]
          | succ i =>
              exact iff_of_true (by simp)
                (.halted .first (Nat.succ_pos _) rfl hTime
                  hFirst hResult)
      | next hTime hFirst hResult hLater =>
          cases i with
          | zero => simp [not_skips_zero hTime]
          | succ i =>
              rw [skips_succ_iff hTime hFirst hResult,
                List.getElem?_cons_succ]
              exact ih (Nat.lt_of_succ_lt_succ hBound) hLater

end Sequence

------------------------------------------------------------
-- The Results That A Run Has
------------------------------------------------------------

/- The result that a run makes of the action in a place. -/
structure Records
    (engine : Engine)
    (scope : Scope)
    (rule : Rule)
    (context : Context)
    (start i : Nat)
    (result : ActionResult) : Prop where
  holds : (rule.logic.condition.evaluate engine.patterns
      context).holds = true
  calm : ¬ engine.CrashesInOrder scope rule context start
  finished : engine.HasFinished scope rule context start i result

/- The places for whose actions a run has no result. -/
inductive Omits
    (engine : Engine)
    (scope : Scope)
    (rule : Rule)
    (context : Context)
    (start : Nat) :
    Nat → Prop
  | unmet
      {i : Nat}
      (hUnmet :
        (rule.logic.condition.evaluate engine.patterns
          context).holds = false) :
      Omits engine scope rule context start i
  | crashed
      {i : Nat}
      (hCrash : engine.CrashesInOrder scope rule context start) :
      Omits engine scope rule context start i
  | skipped
      {i : Nat}
      (hMode : rule.mode = .sequential)
      (hSkips :
        Skips (engine.dispatch engine.runBelow scope) scope
          context start rule.logic.actions i) :
      Omits engine scope rule context start i

/- Results that are in their places, with the reasons of the gaps. -/
structure Places
    (engine : Engine)
    (scope : Scope)
    (rule : Rule)
    (context : Context)
    (start : Nat)
    (results : List ActionResult) : Prop where
  names : NamesEach rule.logic.actions results
  recorded_iff :
    ∀ i result,
      results[i]? = some result ↔
        engine.Records scope rule context start i result
  omitted_iff :
    ∀ i,
      i < rule.logic.actions.length →
        (results[i]? = none ↔
          engine.Omits scope rule context start i)

variable {engine : Engine}
variable {runChild : RunChild}
variable {scope : Scope}
variable {rule : Rule}
variable {context : Context}
variable {start : Nat}
variable {input : Document}
variable {trigger : TriggerKind}

/- An action names its result, be it cut short or crashed. -/
theorem carries_names
    (engine : Engine)
    (runChild : RunChild)
    (scope : Scope) :
    Carries (engine.dispatch runChild scope) (fun _ => True)
      (fun action result => result.IsOf action) where
  returned := by
    intro action context _
    constructor
    rintro start ⟨result, after⟩ hEnding
    rcases dispatch_names hEnding with ⟨hId, hType⟩
    exact ⟨⟨hId, hType⟩, True.intro⟩
  crashed := fun _ _ _ _ _ _ => ⟨rfl, rfl⟩

/- Of a run that crashes no result is left. -/
theorem places_of_crash
    (hCrash : engine.CrashesInOrder scope rule context start) :
    engine.Places scope rule context start [] where
  names := .nil _
  recorded_iff := by
    intro i result
    refine iff_of_false (by simp) ?_
    intro hRecords
    exact hRecords.calm hCrash
  omitted_iff := fun i _ =>
    iff_of_true List.getElem?_nil (.crashed hCrash)

/- Actions that are carried out side by side have a result each. -/
theorem evaluateAndAct_length
    {outcome : RunOutcome}
    (hMode : rule.mode = .parallel)
    (hHolds :
      (rule.logic.condition.evaluate engine.patterns context).holds = true)
    (hEnding :
      (engine.evaluateAndAct runChild rule context scope
        start).ending = .returned outcome) :
    outcome.results.length = rule.logic.actions.length := by
  have hYields :=
    (evaluateAndAct_yields_each
      (carries_names engine runChild scope) rule
      True.intro).of_returned start outcome hEnding
  apply hYields.length_eq hMode
  rw [evaluateAndAct_of_parallel hMode hHolds] at hEnding
  rcases Activity.returned_of_andThen_done hEnding with
    ⟨results, _, rfl⟩
  rfl

theorem omits_iff_of_holds
    {i : Nat}
    (hHolds :
      (rule.logic.condition.evaluate engine.patterns context).holds = true)
    (hCalm : ¬ engine.CrashesInOrder scope rule context start) :
    engine.Omits scope rule context start i ↔
      rule.mode = .sequential ∧
        Skips (engine.dispatch engine.runBelow scope) scope
          context start rule.logic.actions i := by
  constructor
  · intro hOmits
    cases hOmits with
    | unmet hUnmet =>
        rw [hHolds] at hUnmet
        cases hUnmet
    | crashed hCrash => exact absurd hCrash hCalm
    | skipped hMode hSkips => exact ⟨hMode, hSkips⟩
  · rintro ⟨hMode, hSkips⟩
    exact .skipped hMode hSkips

/- A run that does not crash omits the actions that are skipped. -/
theorem evaluateAndAct_omits
    {outcome : RunOutcome}
    {i : Nat}
    (hEnding :
      (engine.evaluateAndAct engine.runBelow rule context scope
        start).ending = .returned outcome)
    (hCalm : ¬ engine.CrashesInOrder scope rule context start)
    (hBound : i < rule.logic.actions.length) :
    outcome.results[i]? = none ↔
      engine.Omits scope rule context start i := by
  cases hHolds :
      (rule.logic.condition.evaluate engine.patterns context).holds with
  | false =>
      rw [evaluateAndAct_of_unmet hHolds] at hEnding
      cases hEnding
      exact iff_of_true List.getElem?_nil (.unmet hHolds)
  | true =>
      rw [omits_iff_of_holds hHolds hCalm]
      cases hMode : rule.mode with
      | sequential =>
          rw [evaluateAndAct_of_sequential hMode hHolds]
            at hEnding
          rcases Activity.returned_of_andThen_done hEnding with
            ⟨later, hLater, rfl⟩
          rw [runSequential_skips hBound hLater]
          exact (and_iff_right rfl).symm
      | parallel =>
          have hLength :=
            evaluateAndAct_length hMode hHolds hEnding
          rw [List.getElem?_eq_none_iff]
          refine iff_of_false (by omega) ?_
          rintro ⟨hOther, _⟩
          cases hOther

/- The results of a run, on each way that it can end. -/
theorem runWithin_places
    (engine : Engine)
    (scope : Scope)
    (rule : Rule)
    (input : Document)
    (trigger : TriggerKind)
    (start : Nat) :
    ∃ report,
      (engine.runWithin engine.runBelow rule input trigger scope
          start).ending = .returned report ∧
        engine.Places scope rule
          (engine.freshContext rule input trigger) start
          report.results := by
  cases hEnding :
      (engine.evaluateAndAct engine.runBelow rule
        (engine.freshContext rule input trigger) scope
        start).ending with
  | crashed crash =>
      rw [runWithin_of_crashed hEnding]
      have hCrash :=
        evaluateAndAct_crashed_iff.mp ⟨crash, hEnding⟩
      exact ⟨_, rfl, places_of_crash hCrash⟩
  | returned outcome =>
      rw [runWithin_of_returned hEnding]
      have hCalm :
          ¬ engine.CrashesInOrder scope rule
              (engine.freshContext rule input trigger) start := by
        rw [← evaluateAndAct_crashed_iff, hEnding]
        rintro ⟨crash, hCrash⟩
        cases hCrash
      have hAccount := evaluateAndAct_givesAccount hEnding
      have hNames :=
        (evaluateAndAct_yields_each
          (carries_names engine engine.runBelow scope) rule
          True.intro).of_returned start outcome hEnding
      refine
        ⟨_, rfl, hNames.results, ?_, fun i hBound =>
          evaluateAndAct_omits hEnding hCalm hBound⟩
      intro i result
      rw [hAccount.results i result]
      exact
        ⟨fun h => ⟨h.1, hCalm, h.2⟩, fun h => ⟨h.1, h.3⟩⟩

------------------------------------------------------------
-- Reports In Which Results Are Found
------------------------------------------------------------

/- A report of a run in which each action has its own result or none. -/
structure FindsResults
    (engine : Engine)
    (scope : Scope)
    (rule : Rule)
    (context : Context)
    (start : Nat)
    (report : Report) : Prop where
  found_iff :
    ∀ (i : Nat) (action : Action) (result : ActionResult),
      rule.logic.actions[i]? = some action →
        (report.action? action.id = some result ↔
          engine.Records scope rule context start i result)
  none_iff :
    ∀ (i : Nat) (action : Action),
      rule.logic.actions[i]? = some action →
        (report.action? action.id = none ↔
          engine.Omits scope rule context start i)
  inPlace :
    ∀ (i : Nat) (action : Action),
      rule.logic.actions[i]? = some action →
        report.action? action.id = report.results[i]?
  /- No other result can be taken for that of an action. -/
  alone :
    ∀ (i j : Nat) (action : Action) (result : ActionResult),
      rule.logic.actions[i]? = some action →
        report.results[j]? = some result →
          result.actionId = action.id → j = i
  names :
    ∀ (action : Action) (result : ActionResult),
      action ∈ rule.logic.actions →
        report.action? action.id = some result →
          result.IsOf action
  /- Under other ids nothing is found. -/
  undeclared :
    ∀ id,
      id ∉ rule.logic.actions.map (·.id) →
        report.action? id = none

/- Distinct ids are all that a report with its results in place needs. -/
theorem Places.findsResults
    {report : Report}
    (hPlaces :
      engine.Places scope rule context start report.results)
    (hDistinct : (rule.logic.actions.map (·.id)).Nodup) :
    engine.FindsResults scope rule context start report := by
  have hNames := hPlaces.names
  have hInPlace :
      ∀ (i : Nat) (action : Action),
        rule.logic.actions[i]? = some action →
          report.action? action.id = report.results[i]? :=
    fun i action hAction => hNames.find?_eq hDistinct hAction
  refine
    { inPlace := hInPlace
      found_iff := ?found
      none_iff := ?none
      alone := ?alone
      names := ?names
      undeclared := ?undeclared }
  case found =>
    intro i action result hAction
    rw [hInPlace i action hAction, hPlaces.recorded_iff]
  case none =>
    intro i action hAction
    rcases List.getElem?_eq_some_iff.mp hAction with ⟨hLess, _⟩
    rw [hInPlace i action hAction, hPlaces.omitted_iff i hLess]
  case alone =>
    intro i j action result hAction hResult hId
    exact hNames.place_eq hDistinct hAction hResult hId
  case names =>
    intro action result hMem hFound
    rcases List.getElem?_of_mem hMem with ⟨i, hAction⟩
    rw [hInPlace i action hAction] at hFound
    exact hNames.each i action result hAction hFound
  case undeclared =>
    intro id hId
    unfold Report.action?
    rw [List.find?_eq_none]
    intro result hResult hSame
    rcases hNames.of_mem hResult with ⟨action, hMem, hIsOf⟩
    have hOther : action.id = id := by
      rw [← hIsOf.id]
      simpa using hSame
    exact hId (List.mem_map.mpr ⟨action, hMem, hOther⟩)

end Engine

------------------------------------------------------------
-- Rules Whose Results Are Found
------------------------------------------------------------

namespace Rule

/- The results of each run of the rule are found by their ids. -/
structure ResultsFound
    (rule : Rule) : Prop where
  /- Runs that are asked for. -/
  outermost :
    ∀ (engine : Engine) (input : Document)
      (trigger : TriggerKind) (start : Nat),
      rule.active = true →
        ∃ activity report,
          engine.run rule input trigger = .ok activity ∧
            (activity start).ending = .returned report ∧
            engine.FindsResults
              (.root rule engine.settings.runTimeout start) rule
              (engine.freshContext rule input trigger) start
              report
  /- Runs that actions start. -/
  chained :
    ∀ (engine : Engine) (scope : Scope) (task : RuleTask)
      (context : Context) (start : Nat),
      ∃ report,
        (engine.chainedRun scope rule task context
            start).ending = .returned report ∧
          engine.FindsResults
            (scope.child rule engine.settings.runTimeout start)
            rule
            (engine.freshContext rule
              (task.input?.getD context.input) .chained)
            start report

variable {rule : Rule}

theorem Identified.resultsFound
    (hRule : rule.Identified) :
    rule.ResultsFound := by
  refine { outermost := ?outermost, chained := ?chained }
  case outermost =>
    intro engine input trigger start hActive
    have hRuns :
        ∃ activity,
          engine.run rule input trigger = .ok activity :=
      Engine.exists_run hActive input trigger
    rcases hRuns with ⟨activity, hRun⟩
    rcases Engine.runWithin_places engine
        (.root rule engine.settings.runTimeout start) rule input
        trigger start with
      ⟨report, hReport, hPlaces⟩
    refine
      ⟨activity, report, hRun, ?_,
        hPlaces.findsResults hRule.distinct⟩
    rw [Engine.run_apply hRun start,
      Activity.announced_apply hReport]
  case chained =>
    intro engine scope task context start
    rcases Engine.runWithin_places engine
        (scope.child rule engine.settings.runTimeout start) rule
        (task.input?.getD context.input) .chained start with
      ⟨report, hReport, hPlaces⟩
    exact
      ⟨report, hReport, hPlaces.findsResults hRule.distinct⟩

/-
  Just the rules that are fit are accepted, and the results of all their
  runs are found by the ids of the actions.
-/
theorem validate_resultsFound
    (rule : Rule) :
    (rule.validate = .ok () ↔ rule.IsFit) ∧
      (rule.validate = .ok () → rule.ResultsFound) := by
  refine ⟨validate_eq_ok_iff, ?_⟩
  intro hValidate
  exact (identified_of_validate hValidate).resultsFound

/- A rule whose second action has no key to store a value under. -/
def haltingRule : Rule :=
  Engine.ruleOf "halting" .sequential
    [Engine.notes "first",
      { Engine.notes "" with id := "second" },
      Engine.notes "third"]

/- The third action is skipped, so that nothing is found for it. -/
theorem haltingRule_resultsFound :
    haltingRule.validate = .ok () ∧
      haltingRule.ResultsFound ∧
      ∃ activity report,
        (Engine.unhurried 100 1 []).run haltingRule .null
            .manual = .ok activity ∧
          (activity 0).ending = .returned report ∧
          (report.action? "first").isSome = true ∧
          (report.action? "second").map (·.isFailed) =
            some true ∧
          report.action? "third" = none :=
  ⟨rfl, (validate_resultsFound haltingRule).2 rfl, _, _, rfl,
    rfl, rfl, rfl, rfl⟩

end Rule

end Automation
