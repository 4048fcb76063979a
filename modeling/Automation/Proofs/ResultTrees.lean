import Automation.Proofs.Accounts
import Automation.Proofs.Fitting
import Automation.Proofs.Frames
import Automation.Proofs.Jobs
import Automation.Proofs.SortedDocuments

/-
  Reports inside results, and results inside reports.

  A run that an action starts hands its report on as the output of the
  action, and a branch hands on the result of the action it selects.  So
  reports lie inside other reports, to any depth.  Each is the report of a
  run that is carried out within a scope from a time on, and each result is
  that of an action that is carried out on a context: the one that the
  actions before it have left, or that the run starts with.  A run that an
  action starts has the input that the action states for this context.

  Key definitions include:
    * `Engine.Delivers`, the action of a run at its place
    * `Engine.Throughout`, what holds of a report and all inside it

  Key theorems include:
    * `Engine.exists_delivers`, results come from actions
    * `Engine.Throughout.imp`, from one property to another
    * `Engine.tellsThroughout`, every job tells what it should
    * `Engine.run_throughout`, outermost runs
    * `Engine.run_wellFormed`, what reports say of rules and actions
-/

namespace Automation

namespace Engine

------------------------------------------------------------
-- The Actions Of A Run
------------------------------------------------------------

/-
  The action of a run at a place, with the context that it is carried out
  on, the time at which this starts, and its result.  One after the other,
  an action has the context that those before it have left.  Side by side,
  it has the context that the run starts with.
-/
inductive Delivers
    (engine : Engine)
    (rule : Rule)
    (input : Document)
    (trigger : TriggerKind)
    (scope : Scope)
    (start i : Nat) :
    Action → Context → Nat → ActionResult → Prop
  | inOrder
      {action : Action}
      {context after : Context}
      {time : Nat}
      {result : ActionResult}
      (hMode : rule.mode = .sequential)
      (hMet : engine.IsMet rule input trigger)
      (hAction : rule.logic.actions[i]? = some action)
      (hComes :
        Comes (engine.dispatch engine.runBelow scope) scope
          (engine.freshContext rule input trigger) start
          rule.logic.actions i context time)
      (hTime : time < scope.deadline)
      (hFinished :
        (engine.dispatch engine.runBelow scope action context
          time).ending = .returned (result, after)) :
      Delivers engine rule input trigger scope start i action
        context time result
  | sideBySide
      {action : Action}
      {time : Nat}
      (hMode : rule.mode = .parallel)
      (hMet : engine.IsMet rule input trigger)
      (hAction : rule.logic.actions[i]? = some action)
      (hBranch :
        (engine.branches rule
            (engine.freshContext rule input trigger) scope
            start)[i]? =
          some
            (time,
              engine.dispatch engine.runBelow scope action
                (engine.freshContext rule input trigger)
                time)) :
      Delivers engine rule input trigger scope start i action
        (engine.freshContext rule input trigger) time
        (parallelResult action
          (engine.dispatch engine.runBelow scope action
            (engine.freshContext rule input trigger)
            time).ending)

section Delivers

variable {engine : Engine}
variable {rule : Rule}
variable {input : Document}
variable {trigger : TriggerKind}
variable {scope : Scope}
variable {start i time : Nat}
variable {action : Action}
variable {context left : Context}
variable {result : ActionResult}

/- An action that delivers a result is a job of the run. -/
theorem Delivers.starts
    (hDelivers :
      engine.Delivers rule input trigger scope start i action
        context time result) :
    engine.Starts (.run rule input trigger scope start)
      (.action action context scope time) := by
  cases hDelivers with
  | inOrder hMode hMet hAction hComes hTime hFinished =>
      exact .next hMode hMet ⟨i, hAction, hComes, hTime⟩
  | sideBySide hMode hMet hAction hBranch =>
      refine .beside hMode hMet (List.mem_iff_getElem?.mpr ?_)
      refine ⟨i, List.getElem?_zip_eq_some.mpr ⟨?_, hAction⟩⟩
      rw [List.getElem?_map, hBranch]
      rfl

/- The input of a run is what its context holds as the input. -/
@[simp] theorem input_freshContext
    (engine : Engine)
    (rule : Rule)
    (input : Document)
    (trigger : TriggerKind) :
    (engine.freshContext rule input trigger).input = input := by
  simp [freshContext, Context.forRun, Context.ofFixed,
    Context.input]

/- Wherever a sequence stands, no action has changed the input. -/
theorem Comes.input_eq
    {actions : List Action}
    (hComes :
      Comes (engine.dispatch engine.runBelow scope) scope
        context start actions i left time) :
    left.input = context.input := by
  induction hComes with
  | first => rfl
  | next _ hFirst _ _ ih =>
      rw [ih, Context.input, Context.input,
        (dispatch_keepsFrame hFirst).fixed_eq]

theorem Delivers.input_eq
    (hDelivers :
      engine.Delivers rule input trigger scope start i action
        context time result) :
    context.input = input := by
  cases hDelivers with
  | inOrder _ _ _ hComes =>
      rw [hComes.input_eq, input_freshContext]
  | sideBySide => exact input_freshContext _ _ _ _

/- What is finished in a run, an action of it delivers. -/
theorem delivers_of_hasFinished
    (hMet : engine.IsMet rule input trigger)
    (hFinished :
      engine.HasFinished scope rule
        (engine.freshContext rule input trigger) start i
        result) :
    ∃ action context time,
      engine.Delivers rule input trigger scope start i action
        context time result := by
  cases hFinished with
  | inOrder hMode hFinishes =>
      rcases hFinishes with
        ⟨action, left, after, time, hAction, hComes, hTime,
          hEnding⟩
      exact
        ⟨action, left, time,
          .inOrder hMode hMet hAction hComes hTime hEnding⟩
  | @sideBySide action branch hMode hAction hBranch =>
      rcases branch with ⟨time, episode⟩
      rcases Activity.getElem?_schedule hBranch with
        ⟨activity, hActivity, hEpisode⟩
      rw [List.getElem?_map, hAction] at hActivity
      cases hActivity
      have hSame :
          episode =
            engine.dispatch engine.runBelow scope action
              (engine.freshContext rule input trigger) time :=
        hEpisode
      subst hSame
      exact
        ⟨action, _, time,
          .sideBySide hMode hMet hAction hBranch⟩

/- Each result of a run is that of the action at its place. -/
theorem exists_delivers
    {report : Report}
    (hRun :
      (engine.runWithin engine.runBelow rule input trigger scope
        start).ending = .returned report)
    (hResult : report.results[i]? = some result) :
    ∃ action context time,
      engine.Delivers rule input trigger scope start i action
        context time result := by
  cases hEnding :
      (engine.evaluateAndAct engine.runBelow rule
        (engine.freshContext rule input trigger) scope
        start).ending with
  | crashed crash =>
      rw [runWithin_of_crashed hEnding] at hRun
      cases hRun
      cases hResult
  | returned outcome =>
      rw [runWithin_of_returned hEnding] at hRun
      cases hRun
      have hAccount := evaluateAndAct_givesAccount hEnding
      rcases (hAccount.results i result).mp hResult with
        ⟨hMet, hFinished⟩
      exact delivers_of_hasFinished hMet hFinished

end Delivers

------------------------------------------------------------
-- Reports With All That Lies Inside
------------------------------------------------------------

mutual

/-
  What holds of the report of a run, and of all the reports and results
  inside it.  The results are those of the actions of the rule, in their
  places, and every action has the input of the run.
-/
inductive Throughout
    (engine : Engine)
    (tells : Rule → Document → TriggerKind → Report → Prop)
    (holds : Action → ActionResult → Prop) :
    Rule → Document → TriggerKind → Scope → Nat → Report → Prop
  | intro
      {rule : Rule}
      {input : Document}
      {trigger : TriggerKind}
      {scope : Scope}
      {start : Nat}
      {report : Report}
      (hRun :
        (engine.runWithin engine.runBelow rule input trigger
          scope start).ending = .returned report)
      (hTells : tells rule input trigger report)
      (hDelivers :
        ∀ (i : Nat) (result : ActionResult),
          report.results[i]? = some result →
            ∃ action context time,
              engine.Delivers rule input trigger scope start i
                  action context time result ∧
                context.input = input)
      (hResults :
        ∀ (i : Nat) (result : ActionResult),
          report.results[i]? = some result →
            ∀ action context time,
              engine.Delivers rule input trigger scope start i
                  action context time result →
                ThroughoutResult engine tells holds action
                  context scope time result) :
      Throughout engine tells holds rule input trigger scope start
        report

/-
  The result of an action that is carried out on a context within a scope
  from a time on.  An action that starts a rule holds the report of the
  run, unless it fails without an output.  A branch holds the result of the
  action that it selects.
-/
inductive ThroughoutResult
    (engine : Engine)
    (tells : Rule → Document → TriggerKind → Report → Prop)
    (holds : Action → ActionResult → Prop) :
    Action → Context → Scope → Nat → ActionResult → Prop
  | plain
      {action : Action}
      {context : Context}
      {scope : Scope}
      {start : Nat}
      {result : ActionResult}
      (hHolds : holds action result)
      (hBranch : action.kind ≠ .branch)
      (hRule : action.kind ≠ .triggerRule) :
      ThroughoutResult engine tells holds action context scope
        start result
  | failed
      {action : Action}
      {context : Context}
      {scope : Scope}
      {start : Nat}
      {result : ActionResult}
      (hHolds : holds action result)
      (hStatus : result.status = .failed)
      (hOutput : result.output = .null) :
      ThroughoutResult engine tells holds action context scope
        start result
  | started
      {action : Action}
      {context : Context}
      {scope : Scope}
      {start : Nat}
      {result : ActionResult}
      {task : RuleTask}
      {rule : Rule}
      {report : Report}
      (hHolds : holds action result)
      (hTask :
        Task.ofConfig action.kind
          (filledConfig action context) = .ok (.rule task))
      (hRule : engine.chainedRule scope task.rule = .ok rule)
      (hReport :
        Throughout engine tells holds rule
          (task.input?.getD context.input) .chained
          (scope.child rule engine.settings.runTimeout start)
          start report)
      (hOutput : result.output = report.document) :
      ThroughoutResult engine tells holds action context scope
        start result
  | idle
      {action : Action}
      {context : Context}
      {scope : Scope}
      {start : Nat}
      {result : ActionResult}
      {task : BranchTask}
      (hHolds : holds action result)
      (hTask :
        Task.ofConfig action.kind
          (filledConfig action context) = .ok (.branch task))
      (hSelected : task.selected? engine.patterns context = none)
      (hOutput :
        result.output =
          (branchResult (task.verdict engine.patterns context)
            (branchName (task.verdict engine.patterns context))
            none).output) :
      ThroughoutResult engine tells holds action context scope
        start result
  | chosen
      {action selected : Action}
      {context : Context}
      {scope : Scope}
      {start : Nat}
      {result inner : ActionResult}
      {task : BranchTask}
      (hHolds : holds action result)
      (hTask :
        Task.ofConfig action.kind
          (filledConfig action context) = .ok (.branch task))
      (hSelected : task.selected? engine.patterns context = some selected)
      (hInner :
        ThroughoutResult engine tells holds selected context
          scope start inner)
      (hOutput :
        result.output =
          (branchResult (task.verdict engine.patterns context)
            (branchName (task.verdict engine.patterns context))
            (some inner)).output) :
      ThroughoutResult engine tells holds action context scope
        start result

end

variable {engine : Engine}
variable
  {tells told : Rule → Document → TriggerKind → Report → Prop}
variable {holds held : Action → ActionResult → Prop}

mutual

/- What follows from a property of all reports and results. -/
theorem Throughout.imp
    (hTells :
      ∀ rule input trigger report,
        tells rule input trigger report →
          told rule input trigger report)
    (hHolds :
      ∀ action result, holds action result → held action result) :
    ∀ {rule input trigger scope start report},
      Throughout engine tells holds rule input trigger scope
          start report →
        Throughout engine told held rule input trigger scope
          start report
  | _, _, _, _, _, _, .intro hRun hReport hDelivers hResults =>
      .intro hRun (hTells _ _ _ _ hReport) hDelivers
        fun i result hResult action context time hAction =>
          ThroughoutResult.imp hTells hHolds
            (hResults i result hResult action context time
              hAction)

theorem ThroughoutResult.imp
    (hTells :
      ∀ rule input trigger report,
        tells rule input trigger report →
          told rule input trigger report)
    (hHolds :
      ∀ action result, holds action result → held action result) :
    ∀ {action context scope start result},
      ThroughoutResult engine tells holds action context scope
          start result →
        ThroughoutResult engine told held action context scope
          start result
  | _, _, _, _, _, .plain hResult hBranch hRule =>
      .plain (hHolds _ _ hResult) hBranch hRule
  | _, _, _, _, _, .failed hResult hStatus hOutput =>
      .failed (hHolds _ _ hResult) hStatus hOutput
  | _, _, _, _, _,
      .started hResult hTask hRule hReport hOutput =>
      .started (hHolds _ _ hResult) hTask hRule
        (Throughout.imp hTells hHolds hReport) hOutput
  | _, _, _, _, _, .idle hResult hTask hSelected hOutput =>
      .idle (hHolds _ _ hResult) hTask hSelected hOutput
  | _, _, _, _, _,
      .chosen hResult hTask hSelected hInner hOutput =>
      .chosen (hHolds _ _ hResult) hTask hSelected
        (ThroughoutResult.imp hTells hHolds hInner) hOutput

end

section Inside

variable {rule : Rule}
variable {input : Document}
variable {trigger : TriggerKind}
variable {scope : Scope}
variable {start i time : Nat}
variable {report : Report}
variable {action : Action}
variable {context : Context}
variable {result : ActionResult}

theorem Throughout.tells_report
    (hTree :
      engine.Throughout tells holds rule input trigger scope
        start report) :
    tells rule input trigger report := by
  cases hTree with
  | intro _ hTells => exact hTells

theorem Throughout.of_delivers
    (hTree :
      engine.Throughout tells holds rule input trigger scope
        start report)
    (hResult : report.results[i]? = some result)
    (hDelivers :
      engine.Delivers rule input trigger scope start i action
        context time result) :
    engine.ThroughoutResult tells holds action context scope
      time result := by
  cases hTree with
  | intro _ _ _ hResults =>
      exact hResults i result hResult action context time
        hDelivers

/- An action that starts a rule and has an output holds the report. -/
theorem ThroughoutResult.exists_report
    {task : RuleTask}
    (hTree :
      engine.ThroughoutResult tells holds action context scope
        start result)
    (hTask :
      Task.ofConfig action.kind
        (filledConfig action context) = .ok (.rule task))
    (hRule : engine.chainedRule scope task.rule = .ok rule)
    (hOutput : result.output ≠ .null) :
    ∃ report,
      result.output = report.document ∧
        engine.Throughout tells holds rule
          (task.input?.getD context.input) .chained
          (scope.child rule engine.settings.runTimeout start)
          start report := by
  have hKind := Task.kind_of_ofConfig hTask
  cases hTree with
  | plain _ _ hOther => exact absurd hKind.symm hOther
  | failed _ _ hNull => exact absurd hNull hOutput
  | started _ hOther hFound hReport hDocument =>
      rw [hTask] at hOther
      cases hOther
      rw [hRule] at hFound
      cases hFound
      exact ⟨_, hDocument, hReport⟩
  | idle _ hOther =>
      rw [hTask] at hOther
      cases hOther
  | chosen _ hOther =>
      rw [hTask] at hOther
      cases hOther

/- A branch that selects an action and has an output holds its result. -/
theorem ThroughoutResult.exists_inner
    {selected : Action}
    {task : BranchTask}
    (hTree :
      engine.ThroughoutResult tells holds action context scope
        start result)
    (hTask :
      Task.ofConfig action.kind
        (filledConfig action context) = .ok (.branch task))
    (hSelected : task.selected? engine.patterns context = some selected)
    (hOutput : result.output ≠ .null) :
    ∃ inner,
      result.output =
          (branchResult (task.verdict engine.patterns context)
            (branchName (task.verdict engine.patterns context))
            (some inner)).output ∧
        engine.ThroughoutResult tells holds selected context
          scope start inner := by
  have hKind := Task.kind_of_ofConfig hTask
  cases hTree with
  | plain _ hOther => exact absurd hKind.symm hOther
  | failed _ _ hNull => exact absurd hNull hOutput
  | started _ hOther =>
      rw [hTask] at hOther
      cases hOther
  | idle _ hOther hNone =>
      rw [hTask] at hOther
      cases hOther
      rw [hSelected] at hNone
      cases hNone
  | chosen _ hOther hSome hInner hDocument =>
      rw [hTask] at hOther
      cases hOther
      rw [hSelected] at hSome
      cases hSome
      exact ⟨_, hDocument, hInner⟩

end Inside

theorem branchResult_output
    (verdict : Bool)
    (branch : String)
    (result? : Option ActionResult) :
    (branchResult verdict branch result?).output =
      .record
        [("conditionMet", .bool verdict),
          ("branch", .text branch),
          ("result",
            (result?.map (·.document)).getD .null)] := by
  unfold branchResult
  cases result? with
  | none => rfl
  | some result =>
      dsimp only
      split <;> rfl

/- The result of the selected action is in the output of a branch. -/
theorem entry?_branchResult
    (verdict : Bool)
    (branch : String)
    (result? : Option ActionResult) :
    (branchResult verdict branch result?).output.entry?
        "result" =
      some ((result?.map (·.document)).getD .null) := by
  rw [branchResult_output, Document.record, Document.entry?]
  simp

------------------------------------------------------------
-- What Jobs Tell
------------------------------------------------------------

/- The report of a run is made of what the run has come to. -/
structure ReportsOn
    (engine : Engine)
    (rule : Rule)
    (input : Document)
    (trigger : TriggerKind)
    (report : Report) : Prop where
  fits : report.Fits rule
  made :
    ∃ outcome,
      report = engine.reportOf rule input trigger outcome

/- The report of a run with all inside it, that fits everywhere. -/
abbrev ReportTree
    (engine : Engine) :
    Rule → Document → TriggerKind → Scope → Nat → Report →
      Prop :=
  engine.Throughout engine.ReportsOn
    fun action result => result.Fits action

abbrev ResultTree
    (engine : Engine) :
    Action → Context → Scope → Nat → ActionResult → Prop :=
  engine.ThroughoutResult engine.ReportsOn
    fun action result => result.Fits action

/-
  A job tells what it should: whatever it ends with is a report, or a
  result, that fits with all inside it.
-/
def TellsThroughout
    (engine : Engine) :
    Job → Prop
  | .run rule input trigger scope start =>
      ∀ report,
        (engine.runWithin engine.runBelow rule input trigger
            scope start).ending = .returned report →
          engine.ReportTree rule input trigger scope start report
  | .action action context scope start =>
      engine.ResultTree action context scope start
        (parallelResult action
          (engine.dispatch engine.runBelow scope action context
            start).ending)
  | .execution action context scope start =>
      ∀ finished,
        (engine.execute engine.runBelow scope action context
            start).ending = .returned finished →
          engine.ResultTree action context scope start finished.1

section Jobs

variable {action : Action}
variable {context : Context}
variable {scope : Scope}
variable {start : Nat}

/- An action may fail without an output before it does anything. -/
theorem resultTree_of_failed
    (error : String)
    (hKind : action.kind.isSupported = true) :
    engine.ResultTree action context scope start
      (.failed action.id action.type error) :=
  .failed (failed_fits error hKind) rfl rfl

theorem rule_tellsThroughout
    {task : RuleTask}
    {finished : TaskResult × Context}
    (hTask :
      Task.ofConfig action.kind
        (filledConfig action context) = .ok (.rule task))
    (hInner :
      ∀ inner,
        engine.Starts (.execution action context scope start)
            inner →
          engine.TellsThroughout inner)
    (hEnding :
      (keeping context
        (engine.runRule engine.runBelow scope task context)
        start).ending = .returned finished) :
    engine.ResultTree action context scope start
      (concluded action finished).1 := by
  have hKind := Task.kind_of_ofConfig hTask
  cases hRule : engine.chainedRule scope task.rule with
  | error fault =>
      rw [runRule_of_fault hRule] at hEnding
      cases hEnding
      exact resultTree_of_failed fault.message (hKind ▸ rfl)
  | ok rule =>
      rcases runWithin_apply rule
          (task.input?.getD context.input) .chained start with
        ⟨report, hRun⟩
      have hReport :
          (engine.chainedRun scope rule task context
            start).ending = .returned report :=
        congrArg Episode.ending hRun
      have hBelow :
          (engine.runBelow rule (task.input?.getD context.input)
            (scope.child rule engine.settings.runTimeout start)
            start).ending = .returned report := by
        rw [runBelow_eq_chainedRun hRule]
        exact hReport
      have hOutcome :=
        congrArg Episode.ending (runRule_of_report hRule hBelow)
      have hKept := Activity.returned_of_andThen_done hEnding
      rcases hKept with ⟨outcome, hSame, rfl⟩
      rw [hOutcome] at hSame
      cases hSame
      refine
        .started ?_ hTask hRule
          (hInner _ (.chain hTask hRule) report hReport)
          (chainedResult_output _ _ report)
      unfold concluded
      dsimp only
      apply resultOf_fits
      rw [← hKind]
      exact chainedResult_fits _ _ report

theorem execution_tellsThroughout
    (hInner :
      ∀ inner,
        engine.Starts (.execution action context scope start)
            inner →
          engine.TellsThroughout inner) :
    engine.TellsThroughout
      (.execution action context scope start) := by
  intro finished hEnding
  cases hTask :
      Task.ofConfig action.kind
        (filledConfig action context) with
  | error fault =>
      rw [execute, executeWithin_of_fault _ hTask] at hEnding
      cases hEnding
      exact
        resultTree_of_failed fault.message
          (isSupported_of_fault hTask)
  | ok task =>
      have hKind := Task.kind_of_ofConfig hTask
      cases task with
      | branch task =>
          cases hSelected : task.selected? engine.patterns context with
          | none =>
              rw [execute_of_unselected hTask hSelected]
                at hEnding
              cases hEnding
              exact
                .idle (branch_fits hTask none) hTask hSelected
                  rfl
          | some selected =>
              rw [execute_of_selected hTask hSelected]
                at hEnding
              rcases Activity.returned_of_andThen_done hEnding
                with ⟨inner, hSelects, rfl⟩
              exact
                .chosen (branch_fits hTask (some inner.1)) hTask
                  hSelected
                  (hInner _ (.select hTask hSelected) inner
                    hSelects)
                  rfl
      | rule task =>
          rw [execute, executeWithin_of_task _ hTask] at hEnding
          rcases Activity.returned_of_andThen_done hEnding with
            ⟨outcome, hOutcome, rfl⟩
          exact rule_tellsThroughout hTask hInner hOutcome
      | _ =>
          rw [execute, executeWithin_of_task _ hTask] at hEnding
          rcases Activity.returned_of_andThen_done hEnding with
            ⟨outcome, hOutcome, rfl⟩
          have hFits :=
            (runTask_yields _).of_returned start outcome hOutcome
          rw [hKind] at hFits
          refine .plain (resultOf_fits hFits) ?_ ?_
          · rw [← hKind]
            intro hBranch
            cases hBranch
          · rw [← hKind]
            intro hRule
            cases hRule

/- An action that takes time, or crashes, is of a type that is built in. -/
theorem isSupported_of_cut
    {steps : List Step}
    (hCut :
      cutSteps? scope.deadline
          (engine.execute engine.runBelow scope action context
            start).steps = some steps) :
    action.kind.isSupported = true := by
  apply eq_true_of_ne_false
  intro hKind
  rcases execute_of_unsupported hKind with
    ⟨finished, hExecute⟩
  rw [hExecute] at hCut
  cases hCut

theorem isSupported_of_crash
    {crash : Crash}
    (hCrash :
      (engine.execute engine.runBelow scope action context
        start).ending = .crashed crash) :
    action.kind.isSupported = true := by
  apply eq_true_of_ne_false
  intro hKind
  rcases execute_of_unsupported hKind with
    ⟨finished, hExecute⟩
  rw [hExecute] at hCrash
  cases hCrash

theorem action_tellsThroughout
    (hInner :
      engine.TellsThroughout
        (.execution action context scope start)) :
    engine.TellsThroughout
      (.action action context scope start) := by
  rw [TellsThroughout]
  cases hCut :
      cutSteps? scope.deadline
        (engine.execute engine.runBelow scope action context
          start).steps with
  | some steps =>
      rw [dispatch_of_cut hCut]
      exact resultTree_of_failed _ (isSupported_of_cut hCut)
  | none =>
      rw [dispatch_of_uncut hCut]
      cases hEnding :
          (engine.execute engine.runBelow scope action context
            start).ending with
      | returned finished => exact hInner finished hEnding
      | crashed crash =>
          exact
            resultTree_of_failed _ (isSupported_of_crash hEnding)

theorem reportsOn_of_returned
    {rule : Rule}
    {input : Document}
    {trigger : TriggerKind}
    {report : Report}
    (hRun :
      (engine.runWithin engine.runBelow rule input trigger scope
        start).ending = .returned report) :
    engine.ReportsOn rule input trigger report := by
  have hAny :
      Carries (engine.dispatch engine.runBelow scope)
        (fun _ => True) (fun _ _ => True) :=
    ⟨fun _ _ _ => ⟨fun _ _ _ => ⟨trivial, trivial⟩⟩,
      fun _ _ _ _ _ _ => trivial⟩
  have hYields :=
    runWithin_yields_each hAny rule input trigger True.intro
  rcases hYields.of_returned start report hRun with
    ⟨outcome, hOutcome, rfl⟩
  refine ⟨?_, outcome, rfl⟩
  refine
    { rule_eq := rfl
      failed_iff := ?_
      unmet := hOutcome.unmet
      length_le := hOutcome.results.length_le
      length_eq := hOutcome.length_eq }
  dsimp only [reportOf]
  cases outcome.error? <;> simp

theorem run_tellsThroughout
    {rule : Rule}
    {input : Document}
    {trigger : TriggerKind}
    (hInner :
      ∀ inner,
        engine.Starts (.run rule input trigger scope start)
            inner →
          engine.TellsThroughout inner) :
    engine.TellsThroughout
      (.run rule input trigger scope start) := by
  intro report hRun
  refine
    .intro hRun (reportsOn_of_returned hRun) ?_ ?_
  · intro i result hResult
    rcases exists_delivers hRun hResult with
      ⟨action, context, time, hDelivers⟩
    exact
      ⟨action, context, time, hDelivers, hDelivers.input_eq⟩
  · intro i result hResult action context time hDelivers
    have hTold := hInner _ hDelivers.starts
    rw [TellsThroughout] at hTold
    cases hDelivers with
    | inOrder _ _ _ _ _ hFinished =>
        rw [hFinished] at hTold
        exact hTold
    | sideBySide => exact hTold

end Jobs

/- By induction on the jobs, as each starts others only so often. -/
theorem tellsThroughout
    (engine : Engine)
    (job : Job) :
    engine.TellsThroughout job := by
  induction job using (starts_wellFounded engine).induction with
  | _ job ih =>
      cases job with
      | run rule input trigger scope start =>
          exact run_tellsThroughout ih
      | action action context scope start =>
          exact action_tellsThroughout (ih _ .carryOut)
      | execution action context scope start =>
          exact execution_tellsThroughout ih

------------------------------------------------------------
-- Outermost Runs
------------------------------------------------------------

section Outermost

variable {rule : Rule}
variable {input : Document}
variable {trigger : TriggerKind}
variable {activity : Activity Report}

/- Every outermost run ends in a report that tells what it should. -/
theorem run_throughout
    (hRun : engine.run rule input trigger = .ok activity)
    (start : Nat) :
    ∃ report,
      (activity start).ending = .returned report ∧
        engine.ReportTree rule input trigger
          (.root rule engine.settings.runTimeout start) start
          report := by
  rcases run_of_runWithin hRun start with
    ⟨report, hWithin, hReport, _⟩
  exact
    ⟨report, hReport,
      engine.tellsThroughout (.run ..) report hWithin⟩

/-
  Every run of every rule ends in a report that is well-formed, with all
  the reports and results that lie inside it.
-/
theorem run_wellFormed
    (hRun : engine.run rule input trigger = .ok activity)
    (start : Nat) :
    ∃ report,
      (activity start).ending = .returned report ∧
        engine.Throughout
          (fun rule _ trigger report =>
            report.trigger = trigger ∧ report.Fits rule)
          (fun action result => result.Fits action) rule input
          trigger (.root rule engine.settings.runTimeout start)
          start report := by
  rcases run_throughout hRun start with
    ⟨report, hReport, hTree⟩
  refine ⟨report, hReport, hTree.imp ?_ fun _ _ hFits => hFits⟩
  intro rule input trigger report hReports
  refine ⟨?_, hReports.fits⟩
  rcases hReports.made with ⟨outcome, rfl⟩
  rfl

end Outermost

/- An action that keeps a document in a variable. -/
def keeps
    (name : String)
    (d : Document) :
    Action :=
  ⟨name, "store-data",
    .object [("key", .text name), ("value", d)], .stop, none⟩

/- An action that starts a rule on the value of a variable. -/
def hands
    (rule name : String) :
    Action :=
  ⟨rule, "trigger-rule",
    .object
      [("inputMapping",
        .text ("\x7b\x7b" ++ name ++ "\x7d\x7d")),
      ("ruleId", .text rule)],
    .stop, none⟩

/- A branch that starts a rule whose run crashes. -/
def startsFragile : Action :=
  ⟨"choose", "conditional",
    .object
      [("condition", noCondition),
      ("then",
        .object
          [("config", .object [("ruleId", .text "fragile")]),
          ("id", .text "start"),
          ("type", .text "trigger-rule")])],
    .stop, none⟩

/- An action of a type that is not built in. -/
def teleports : Action :=
  ⟨"beam", "teleport", .null, .stop, none⟩

def layeredRule : Rule :=
  ruleOf "layered" .parallel
    [startsFragile, teleports, asks "calm"]

theorem layered_run_wellFormed :
    ∃ activity report,
      fragileEngine.run layeredRule .null .manual =
          .ok activity ∧
        (activity 0).ending = .returned report ∧
        report.results.map (·.error?) =
          [some (Crash.runError ⟨some "model exploded"⟩),
            some (ActionResult.unsupportedError "teleport"),
            none] ∧
        fragileEngine.Throughout
          (fun rule _ trigger report =>
            report.trigger = trigger ∧ report.Fits rule)
          (fun action result => result.Fits action) layeredRule
          .null .manual (.root layeredRule 5000 0) 0 report := by
  have hRun :
      ∃ activity report,
        fragileEngine.run layeredRule .null .manual =
            .ok activity ∧
          (activity 0).ending = .returned report ∧
          report.results.map (·.error?) =
            [some (Crash.runError ⟨some "model exploded"⟩),
              some (ActionResult.unsupportedError "teleport"),
              none] :=
    ⟨_, _, rfl, rfl, rfl⟩
  rcases hRun with ⟨activity, report, hRun, hReport, hErrors⟩
  rcases run_wellFormed hRun 0 with ⟨other, hOther, hTree⟩
  rw [hReport] at hOther
  cases hOther
  exact ⟨activity, report, hRun, hReport, hErrors, hTree⟩

end Engine

end Automation
