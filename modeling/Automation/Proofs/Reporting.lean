import Automation.Proofs.Containment

/-
  Runs reported by the actions that start them.

  An action that starts another rule has the report of the run for its
  output, and fails when the run does or when the deadline has passed.  The
  deadline that a run and the action share ends the waits of the run, and
  not that of the action, as long as the run carries out its actions in
  order.  A run that waits for actions side by side does not see the
  deadline itself: if they are not over before it, the action is cut short
  and the report is lost.

  Key definitions include:
    * `Engine.LosesReport`, runs whose report is lost
    * `Engine.reported`, what an action makes of the report
    * `Engine.ReportsRun`, what becomes of a run that an action starts

  Key theorems include:
    * `cutSteps?_stepsBy`, waits that a deadline has ended already
    * `RuleTask.read_of_config`, where the input of a run comes from
    * `Engine.chainedRun_cut_iff`, runs that are cut short from outside
    * `Engine.reportsRun`, all of them together
-/

namespace Automation

------------------------------------------------------------
-- Waits That A Deadline Has Ended
------------------------------------------------------------

section Cuts

variable {deadline later : Nat}

/- What a later deadline ends, an earlier one ends as well. -/
theorem Pause.overruns_of_le
    {pause : Pause}
    {time : Nat}
    {strict : Bool}
    (hLater : deadline ≤ later)
    (hOverruns : pause.overruns time later strict = true) :
    pause.overruns time deadline strict = true := by
  cases hStrict : pause.cut || !strict with
  | true =>
      simp only [overruns, hStrict, if_true, decide_eq_true_eq]
        at hOverruns ⊢
      exact ⟨hOverruns.1, Nat.lt_of_le_of_lt hLater hOverruns.2⟩
  | false =>
      simp only [overruns, hStrict, Bool.false_eq_true, if_false,
        decide_eq_true_eq] at hOverruns ⊢
      exact Nat.le_trans hLater hOverruns

/- A wait that a deadline has ended is ended by no later one. -/
theorem Pause.overruns_cutAt
    (time : Nat)
    (strict : Bool)
    (hLater : deadline ≤ later) :
    (cutAt time deadline).overruns time later strict = false := by
  simp only [overruns, cutAt, Bool.true_or, if_true]
  apply decide_eq_false
  omega

theorem Step.cut?_eq_none_of_le
    {step : Step}
    (hLater : deadline ≤ later)
    (hCut : step.cut? deadline = none) :
    step.cut? later = none := by
  cases step with
  | call time call due pause? =>
      cases pause? with
      | none => rfl
      | some pause =>
          simp only [Step.cut?] at hCut ⊢
          by_cases hOverruns :
              pause.overruns time later false = true
          · rw [if_pos (Pause.overruns_of_le hLater hOverruns)]
              at hCut
            cases hCut
          · rw [if_neg hOverruns]
  | milestone time milestone => rfl
  | fan time permits limit branches pause =>
      simp only [Step.cut?] at hCut ⊢
      by_cases hOverruns :
          pause.overruns time later true = true
      · rw [if_pos (Pause.overruns_of_le hLater hOverruns)]
          at hCut
        cases hCut
      · rw [if_neg hOverruns]

theorem Step.cut?_of_cut
    {step last : Step}
    (hLater : deadline ≤ later)
    (hCut : step.cut? deadline = some last) :
    last.cut? later = none := by
  rcases Step.cut?_cases hCut with
    ⟨time, call, due, pause, _, rfl⟩ |
      ⟨time, permits, limit, branches, pause, _, rfl⟩
  · simp only [Step.cut?]
    rw [if_neg]
    rw [Pause.overruns_cutAt time false hLater]
    exact Bool.false_ne_true
  · simp only [Step.cut?]
    rw [if_neg]
    rw [Pause.overruns_cutAt time true hLater]
    exact Bool.false_ne_true

/- What an earlier deadline has left, a later one leaves. -/
theorem cutSteps?_stepsBy
    (hLater : deadline ≤ later)
    (steps : List Step) :
    cutSteps? later (stepsBy deadline steps) = none := by
  induction steps with
  | nil => rfl
  | cons step rest ih =>
      rw [stepsBy_cons]
      cases hCut : step.cut? deadline with
      | some last =>
          simp only [cutSteps?, Step.cut?_of_cut hLater hCut,
            Option.map_none]
      | none =>
          simp only [cutSteps?,
            Step.cut?_eq_none_of_le hLater hCut, ih,
            Option.map_none]

theorem cutSteps?_append_eq_none_iff
    {earlier rest : List Step} :
    cutSteps? deadline (earlier ++ rest) = none ↔
      cutSteps? deadline earlier = none ∧
        cutSteps? deadline rest = none := by
  induction earlier with
  | nil => simp [cutSteps?]
  | cons step others ih =>
      simp only [List.cons_append, cutSteps?]
      cases hCut : step.cut? deadline with
      | some last => simp
      | none => simp [ih]

theorem cutSteps?_singleton_eq_none_iff
    {step : Step} :
    cutSteps? deadline [step] = none ↔
      step.cut? deadline = none := by
  cases hCut : step.cut? deadline <;> simp [cutSteps?, hCut]

/- A wait for activities side by side is over before a deadline or cut. -/
theorem Activity.cutSteps?_fanOut
    {α : Type}
    (activities : List (Activity α))
    (permits limit start : Nat) :
    cutSteps? deadline
        (fanOut permits limit activities start).steps = none ↔
      (activities ≠ [] →
        finishOf start
            (fanOut permits limit activities start).steps <
          deadline) := by
  rw [fanOut_finish]
  cases activities with
  | nil => simp [fanOut, cutSteps?]
  | cons first rest =>
      simp [fanOut, cutSteps?_singleton_eq_none_iff, Step.cut?,
        Pause.overruns]

/- Milestones are not waited for. -/
theorem cutSteps?_announcedSteps_eq_none_iff
    {rule : String}
    {scope : Scope}
    {start : Nat}
    {steps : List Step} :
    cutSteps? deadline (announcedSteps rule scope start steps) =
        none ↔
      cutSteps? deadline steps = none := by
  have hMilestones :
      cutSteps? deadline
          (announcedSteps rule scope start steps) =
        (cutSteps? deadline
          (steps ++
            [.milestone (finishOf start steps)
              (.ended rule scope)])).map
          (.milestone start (.started rule scope) :: ·) := rfl
  rw [hMilestones, Option.map_eq_none_iff,
    cutSteps?_append_eq_none_iff]
  simp [cutSteps?, Step.cut?]

end Cuts

------------------------------------------------------------
-- Reading A Task
------------------------------------------------------------

namespace RuleTask

/- The names of the field that states the input of a run. -/
def inputNames : List String :=
  ["inputMapping", "input", "input_mapping"]

/- The input that a configuration states; null states none. -/
def InputRead
    (stated? input? : Option Document) : Prop :=
  (∃ stated input,
    stated? = some stated ∧
      stated ≠ .null ∧
      stated.node.document = .ok input ∧
      input? = some input) ∨
    ((stated? = none ∨ stated? = some .null) ∧ input? = none)

theorem InputRead.of_optionally
    {stated : Document}
    {input? : Option Document}
    (hRead :
      Decoder.optionally Decoder.document .plain stated.node =
        .ok input?) :
    InputRead (some stated) input? := by
  by_cases hNull : stated = .null
  · subst hNull
    cases hRead
    exact Or.inr ⟨Or.inr rfl, rfl⟩
  · have hInput :
        ∃ input,
          stated.node.document = .ok input ∧
            input? = some input := by
      cases stated with
      | null => exact absurd rfl hNull
      | _ => exact map_eq_ok hRead
    rcases hInput with ⟨input, hDocument, hSome⟩
    exact Or.inl ⟨stated, input, rfl, hNull, hDocument, hSome⟩

theorem read_of_node
    {config : Document}
    {task : RuleTask}
    (hRead :
      RuleTask.record.decoder "struct TriggerRuleConfig" .plain
        config.node = .ok task) :
    (∃ id,
      config.part? ["ruleId", "targetRuleId", "rule_id"] 0 =
          some id ∧
        Decoder.text .plain id.node = .ok task.rule) ∧
      InputRead (config.part? inputNames 1) task.input? := by
  rcases Record.decoder_node_eq_ok hRead with
    ⟨entries, rfl, hNamed⟩ | ⟨items, expected, rfl, hPlaced⟩
  · rcases Record.seq_named_eq_ok hNamed with
      ⟨_, input?, hBegun, hInput, rfl⟩
    rcases Record.map_named_eq_ok hBegun with ⟨id, hId, rfl⟩
    constructor
    · rcases Record.field_nodeEntries_eq_ok hId with
        hStated | ⟨_, hAbsent⟩
      · exact hStated
      · cases hAbsent
    · rcases Record.field_nodeEntries_eq_ok hInput with
        ⟨stated, hStated, hDocument⟩ | ⟨hNone, hAbsent⟩
      · have hPart :
            (Document.object entries).part? inputNames 1 =
              some stated := hStated
        rw [hPart]
        exact .of_optionally hDocument
      · cases hAbsent
        exact Or.inr ⟨Or.inl hNone, rfl⟩
  · rcases Record.seq_placed_eq_ok hPlaced with
      ⟨_, input?, _, hBegun, hInput, rfl⟩
    rcases Record.map_placed_eq_ok hBegun with ⟨id, hId, rfl⟩
    rcases Record.field_nodeItems_eq_ok hId with ⟨rfl, hFirst⟩
    rcases Record.field_nodeItems_eq_ok hInput with
      ⟨_, hSecond⟩
    rw [List.head?_eq_getElem?] at hFirst
    rw [List.head?_tail] at hSecond
    constructor
    · rcases hFirst with hStated | ⟨_, hShort⟩
      · exact hStated
      · cases hShort
    · rcases hSecond with
        ⟨stated, hStated, hDocument⟩ | ⟨hNone, hShort⟩
      · have hPart :
            (Document.array items).part? inputNames 1 =
              some stated := hStated
        rw [hPart]
        exact .of_optionally hDocument
      · cases hShort
        exact Or.inr ⟨Or.inl hNone, rfl⟩

/- Where the rule and the input of a run come from. -/
theorem read_of_config
    {kind : ActionKind}
    {config : Document}
    {task : RuleTask}
    (hTask : Task.ofConfig kind config = .ok (.rule task)) :
    (∃ id,
      config.part? ["ruleId", "targetRuleId", "rule_id"] 0 =
          some id ∧
        Decoder.text .plain id.node = .ok task.rule) ∧
      InputRead (config.part? inputNames 1) task.input? := by
  have hKind : kind = .triggerRule :=
    (Task.kind_of_ofConfig hTask).symm
  subst hKind
  rcases map_eq_ok hTask with ⟨other, hRead, hOther⟩
  cases hOther
  have hNode := Task.read_eq_ok hRead
  cases config with
  | null =>
      -- Null is read as an object, which lacks the rule.
      rcases read_of_node hNode with ⟨⟨_, hNone, _⟩, _⟩
      cases hNone
  | _ => exact read_of_node hNode

end RuleTask

namespace Engine

variable {engine : Engine}
variable {scope : Scope}
variable {rule : Rule}
variable {task : RuleTask}
variable {context : Context}
variable {action last : Action}
variable {outer : List (Action × Bool)}
variable {report : Report}
variable {start : Nat}

------------------------------------------------------------
-- Runs That Are Cut Short From Outside
------------------------------------------------------------

/- A later deadline ends no wait of actions in order. -/
theorem cutSteps?_runSequential
    {later : Nat}
    {inner : Scope}
    {runChild : RunChild}
    (hLater : inner.deadline ≤ later)
    (actions : List Action)
    (context : Context)
    (start : Nat) :
    cutSteps? later
        (runSequential (engine.dispatch runChild inner) inner
          actions context start).steps = none := by
  induction actions generalizing context start with
  | nil => rfl
  | cons action rest ih =>
      have hFirst :
          cutSteps? later
              (engine.dispatch runChild inner action context
                start).steps = none := by
        rw [dispatch_steps]
        exact cutSteps?_stepsBy hLater _
      rw [runSequential_cons]
      split
      · rfl
      · rcases Activity.andThen_steps
            (engine.dispatch runChild inner action context) _
            start with
          hSteps | ⟨finished, _, hSteps⟩
        · rw [hSteps]
          exact hFirst
        · rw [hSteps, cutSteps?_append_eq_none_iff]
          refine ⟨hFirst, ?_⟩
          split
          · rfl
          · rw [Activity.andThen_steps_of_still
              (fun _ _ => rfl)]
            exact ih _ _

/- Actions side by side are over before a deadline, or cut by it. -/
theorem cutSteps?_runParallel
    {deadline cap : Nat}
    {inner : Scope}
    {dispatch :
      Action → Context → Activity (ActionResult × Context)}
    (actions : List Action)
    (context : Context)
    (start : Nat) :
    cutSteps? deadline
        (runParallel cap dispatch inner actions context
          start).steps = none ↔
      (actions ≠ [] →
        finishOf start
            (runParallel cap dispatch inner actions context
              start).steps < deadline) := by
  rw [runParallel_steps, Activity.cutSteps?_fanOut, Ne,
    List.map_eq_nil_iff]

/-
  A run of actions side by side that are not over before the deadline of
  the scope in which the run is started.
-/
structure LosesReport
    (engine : Engine)
    (scope : Scope)
    (rule : Rule)
    (task : RuleTask)
    (context : Context)
    (start : Nat) : Prop where
  mode_eq : rule.mode = .parallel
  isMet :
    engine.IsMet rule (task.input?.getD context.input) .chained
  actions_ne : rule.logic.actions ≠ []
  late :
    scope.deadline ≤
      finishOf start
        (engine.chainedRun scope rule task context start).steps

theorem chainedRun_steps
    (engine : Engine)
    (scope : Scope)
    (rule : Rule)
    (task : RuleTask)
    (context : Context)
    (start : Nat) :
    (engine.chainedRun scope rule task context start).steps =
      (engine.evaluateAndAct engine.runBelow rule
        (engine.freshContext rule
          (task.input?.getD context.input) .chained)
        (scope.child rule engine.settings.runTimeout start)
        start).steps := by
  unfold chainedRun
  rcases runWithin_apply rule (task.input?.getD context.input)
      .chained start with
    ⟨report, hRun⟩
  rw [hRun]
  rfl

/- The deadline cuts a run short just when its report is lost. -/
theorem chainedRun_cut_iff :
    cutSteps? scope.deadline
        (engine.chainedRun scope rule task context
          start).steps = none ↔
      ¬ engine.LosesReport scope rule task context start := by
  have hSteps :=
    chainedRun_steps engine scope rule task context start
  have hDeadline :
      (scope.child rule engine.settings.runTimeout
        start).deadline ≤ scope.deadline :=
    Nat.min_le_left _ _
  by_cases hMet :
      engine.IsMet rule (task.input?.getD context.input)
        .chained
  · cases hMode : rule.mode with
    | sequential =>
        have hOther :
            ¬ engine.LosesReport scope rule task context
              start := by
          intro hLoses
          rw [hLoses.mode_eq] at hMode
          cases hMode
        rw [evaluateAndAct_of_sequential hMode hMet,
          Activity.andThen_steps_of_still (fun _ _ => rfl)]
          at hSteps
        rw [hSteps]
        exact iff_of_true
          (cutSteps?_runSequential hDeadline _ _ _) hOther
    | parallel =>
        rw [evaluateAndAct_of_parallel hMode hMet,
          Activity.andThen_steps_of_still (fun _ _ => rfl)]
          at hSteps
        rw [hSteps, cutSteps?_runParallel, ← hSteps]
        constructor
        · intro hTime hLoses
          exact absurd hLoses.late
            (Nat.not_le_of_lt (hTime hLoses.actions_ne))
        · intro hKept hActions
          apply Nat.lt_of_not_le
          intro hLate
          exact hKept ⟨hMode, hMet, hActions, hLate⟩
  · have hUnmet :
        engine.evaluateAndAct engine.runBelow rule
            (engine.freshContext rule
              (task.input?.getD context.input) .chained)
            (scope.child rule engine.settings.runTimeout
              start) = _ :=
      evaluateAndAct_of_unmet (eq_false_of_ne_true hMet)
    rw [hUnmet] at hSteps
    rw [hSteps]
    exact iff_of_true rfl fun hLoses => hMet hLoses.isMet

------------------------------------------------------------
-- Actions That Start A Run
------------------------------------------------------------

/- What an action makes of the report of the run that it starts. -/
def reported
    (engine : Engine)
    (scope : Scope)
    (last : Action)
    (rule : Rule)
    (task : RuleTask)
    (context : Context)
    (start : Nat)
    (report : Report) :
    ActionResult × Context :=
  concluded last
    (.ok
      (chainedResult
        (scope.child rule engine.settings.runTimeout start)
        (finishOf start
          (engine.chainedRun scope rule task context
            start).steps)
        report),
      context)

/- The report is the output, whatever the status is. -/
theorem reported_output
    (engine : Engine)
    (scope : Scope)
    (last : Action)
    (rule : Rule)
    (task : RuleTask)
    (context : Context)
    (start : Nat)
    (report : Report) :
    (engine.reported scope last rule task context start
      report).1.output = report.document := by
  simp only [reported, concluded, resultOf, chainedResult]
  split
  · rfl
  · split <;> rfl

/- The action fails when the run does or the deadline has passed. -/
theorem reported_isFailed
    (hFailed :
      report.status = .failed ∨
        (scope.child rule engine.settings.runTimeout
            start).deadline ≤
          finishOf start
            (engine.chainedRun scope rule task context
              start).steps) :
    (engine.reported scope last rule task context start
      report).1.isFailed = true := by
  simp only [reported, concluded, resultOf, chainedResult]
  split
  · rfl
  · rename_i hTime
    rcases hFailed with hStatus | hLate
    · rw [if_neg (by simp [Report.isCompleted, hStatus])]
      rfl
    · exact absurd (decide_eq_true hLate) hTime

/- Without a deadline of its own, the action reports every run. -/
theorem execute_of_chainedRun
    (hTask :
      Task.ofConfig last.kind
        (filledConfig last context) = .ok (.rule task))
    (hRule : engine.chainedRule scope task.rule = .ok rule)
    (hReport :
      (engine.chainedRun scope rule task context
        start).ending = .returned report) :
    engine.execute engine.runBelow scope last context start =
      ⟨announcedSteps rule.id
          (scope.child rule engine.settings.runTimeout start)
          start
          (engine.chainedRun scope rule task context
            start).steps,
        .returned
          (engine.reported scope last rule task context start
            report)⟩ := by
  have hChild :
      engine.runBelow rule (task.input?.getD context.input)
          (scope.child rule engine.settings.runTimeout start)
          start =
        engine.chainedRun scope rule task context start :=
    runBelow_eq_chainedRun hRule
  have hRun :
      engine.runRule engine.runBelow scope task context start =
        _ :=
    runRule_of_report hRule (hChild ▸ hReport)
  rw [execute, executeWithin_of_rule _ hTask,
    Activity.andThen_apply_of_returned
      (congrArg Episode.ending hRun), hRun]
  dsimp only
  rw [hChild, finishOf_announcedSteps]
  simp [reported]

/- Branches fail just when the action inside them does. -/
theorem concludedAlong_isFailed
    (outer : List (Action × Bool))
    (finished : ActionResult × Context) :
    (concludedAlong outer finished).1.isFailed =
      finished.1.isFailed := by
  induction outer with
  | nil => rfl
  | cons first rest ih =>
      rw [← ih]
      rcases first with ⟨action, verdict⟩
      simp only [concludedAlong, concluded, branchFinished,
        branchResult, resultOf]
      cases hFailed :
          (concludedAlong rest finished).1.isFailed <;> rfl

/- The output is a record, with branches around it or not. -/
theorem concludedAlong_output_ne
    {finished : ActionResult × Context}
    (outer : List (Action × Bool))
    (hOutput : finished.1.output ≠ .null) :
    (concludedAlong outer finished).1.output ≠ .null := by
  cases outer with
  | nil => exact hOutput
  | cons first rest =>
      rcases first with ⟨action, verdict⟩
      simp only [concludedAlong, concluded, branchFinished,
        branchResult, resultOf]
      split
      · intro hNull
        cases hNull
      · intro hNull
        cases hNull

------------------------------------------------------------
-- What Becomes Of A Run
------------------------------------------------------------

/-
  What becomes of the run that `last` starts, which `action` carries out
  directly or in its branches `outer`.
-/
structure ReportsRun
    (engine : Engine)
    (scope : Scope)
    (outer : List (Action × Bool))
    (action last : Action)
    (rule : Rule)
    (task : RuleTask)
    (context : Context)
    (start : Nat)
    (report : Report) : Prop where
  returned :
    (engine.chainedRun scope rule task context start).ending =
      .returned report
  ruleId_eq : report.ruleId = rule.id
  trigger_eq : report.trigger = .chained
  /- The input that is stated, and else that of the run above. -/
  input :
    ∃ input?,
      RuleTask.InputRead
          ((filledConfig last context).part?
            RuleTask.inputNames 1)
          input? ∧
        engine.chainedRun scope rule task context start =
          engine.runWithin engine.runBelow rule
            (input?.getD context.input) .chained
            (scope.child rule engine.settings.runTimeout start)
            start
  /- The report is the output, if nothing ends the action. -/
  executed :
    (engine.execute engine.runBelow scope last context
        start).ending =
      .returned
        (engine.reported scope last rule task context start
          report)
  output_eq :
    (engine.reported scope last rule task context start
      report).1.output = report.document
  failed :
    ∀ finished,
      (engine.dispatch engine.runBelow scope action context
          start).ending = .returned finished →
        report.status = .failed ∨
            (scope.child rule engine.settings.runTimeout
                start).deadline ≤
              finishOf start
                (engine.chainedRun scope rule task context
                  start).steps →
          finished.1.isFailed = true
  /- It is what the action comes to, unless it is lost. -/
  kept :
    ¬ engine.LosesReport scope rule task context start →
      (engine.dispatch engine.runBelow scope action context
          start).ending =
        .returned
          (concludedAlong outer
            (engine.reported scope last rule task context start
              report))
  lost :
    engine.LosesReport scope rule task context start →
      (engine.dispatch engine.runBelow scope action context
          start).ending =
        .returned
          (.failed action.id action.type
            (ActionFault.timeout scope.budget).message,
            context)
  output_iff :
    ∀ finished,
      (engine.dispatch engine.runBelow scope action context
          start).ending = .returned finished →
        (finished.1.output =
            (concludedAlong outer
              (engine.reported scope last rule task context
                start report)).1.output ↔
          ¬ engine.LosesReport scope rule task context start)

theorem chainedRun_returned
    (engine : Engine)
    (scope : Scope)
    (rule : Rule)
    (task : RuleTask)
    (context : Context)
    (start : Nat) :
    ∃ report,
      (engine.chainedRun scope rule task context
          start).ending = .returned report ∧
        report.ruleId = rule.id ∧
        report.trigger = .chained := by
  unfold chainedRun
  cases hEnding :
      (engine.evaluateAndAct engine.runBelow rule
        (.forRun rule (task.input?.getD context.input) .chained
          engine.stamp.startedAt)
        (scope.child rule engine.settings.runTimeout start)
        start).ending with
  | returned outcome =>
      rw [runWithin_of_returned hEnding]
      exact ⟨_, rfl, rfl, rfl⟩
  | crashed crash =>
      rw [runWithin_of_crashed hEnding]
      exact ⟨_, rfl, rfl, rfl⟩

/- The deadline cuts an action short just when the report is lost. -/
theorem execute_cut_iff
    (hLeads : Leads engine.patterns context outer action last)
    (hTask :
      Task.ofConfig last.kind
        (filledConfig last context) = .ok (.rule task))
    (hRule : engine.chainedRule scope task.rule = .ok rule)
    (hReport :
      (engine.chainedRun scope rule task context
        start).ending = .returned report) :
    cutSteps? scope.deadline
        (engine.execute engine.runBelow scope action context
          start).steps = none ↔
      ¬ engine.LosesReport scope rule task context start := by
  have hSteps :=
    congrArg Episode.steps
      (execute_of_chainedRun hTask hRule hReport)
  rw [execute_of_leads hLeads,
    Activity.andThen_steps_of_still (fun _ _ => rfl), hSteps,
    cutSteps?_announcedSteps_eq_none_iff]
  exact chainedRun_cut_iff

theorem dispatch_of_kept
    (hLeads : Leads engine.patterns context outer action last)
    (hTask :
      Task.ofConfig last.kind
        (filledConfig last context) = .ok (.rule task))
    (hRule : engine.chainedRule scope task.rule = .ok rule)
    (hReport :
      (engine.chainedRun scope rule task context
        start).ending = .returned report)
    (hKept :
      ¬ engine.LosesReport scope rule task context start) :
    (engine.dispatch engine.runBelow scope action context
        start).ending =
      .returned
        (concludedAlong outer
          (engine.reported scope last rule task context start
            report)) := by
  have hCut :=
    (execute_cut_iff hLeads hTask hRule hReport).mpr hKept
  have hEnding :=
    congrArg Episode.ending
      (execute_of_chainedRun hTask hRule hReport)
  rw [dispatch_of_uncut hCut, execute_of_leads hLeads,
    Activity.andThen_apply_of_returned hEnding]
  rfl

theorem dispatch_of_lost
    (hLeads : Leads engine.patterns context outer action last)
    (hTask :
      Task.ofConfig last.kind
        (filledConfig last context) = .ok (.rule task))
    (hRule : engine.chainedRule scope task.rule = .ok rule)
    (hReport :
      (engine.chainedRun scope rule task context
        start).ending = .returned report)
    (hLoses :
      engine.LosesReport scope rule task context start) :
    (engine.dispatch engine.runBelow scope action context
        start).ending =
      .returned
        (.failed action.id action.type
          (ActionFault.timeout scope.budget).message,
          context) := by
  have hCutIff := execute_cut_iff hLeads hTask hRule hReport
  cases hCut :
      cutSteps? scope.deadline
        (engine.execute engine.runBelow scope action context
          start).steps with
  | none => exact absurd hLoses (hCutIff.mp hCut)
  | some left =>
      rw [dispatch_of_cut hCut]
      rfl

/-
  Every run that an action starts, directly or in its branches, is reported
  in the result of the action, unless it waits for actions side by side
  that are not over before the deadline.
-/
theorem reportsRun
    (hLeads : Leads engine.patterns context outer action last)
    (hTask :
      Task.ofConfig last.kind
        (filledConfig last context) = .ok (.rule task))
    (hRule : engine.chainedRule scope task.rule = .ok rule)
    (start : Nat) :
    ∃ report,
      engine.ReportsRun scope outer action last rule task
        context start report := by
  rcases chainedRun_returned engine scope rule task context
      start with
    ⟨report, hReport, hRuleId, hTrigger⟩
  have hEnding :=
    congrArg Episode.ending
      (execute_of_chainedRun hTask hRule hReport)
  have hKept := dispatch_of_kept hLeads hTask hRule hReport
  have hLost := dispatch_of_lost hLeads hTask hRule hReport
  have hOutput :
      (engine.reported scope last rule task context start
        report).1.output = report.document :=
    reported_output engine scope last rule task context start
      report
  refine
    ⟨report, hReport, hRuleId, hTrigger,
      ⟨task.input?, (RuleTask.read_of_config hTask).2, rfl⟩,
      hEnding, hOutput, ?_, hKept, hLost, ?_⟩
  · intro finished hFinished hFailed
    by_cases hLoses :
        engine.LosesReport scope rule task context start
    · rw [hLost hLoses] at hFinished
      cases hFinished
      rfl
    · rw [hKept hLoses] at hFinished
      cases hFinished
      rw [concludedAlong_isFailed]
      exact reported_isFailed hFailed
  · intro finished hFinished
    by_cases hLoses :
        engine.LosesReport scope rule task context start
    · rw [hLost hLoses] at hFinished
      cases hFinished
      refine iff_of_false ?_ fun hWhole => hWhole hLoses
      apply Ne.symm
      apply concludedAlong_output_ne
      rw [hOutput]
      nofun
    · rw [hKept hLoses] at hFinished
      cases hFinished
      exact iff_of_true rfl hLoses

/- A rule that starts another one, which waits for a model. -/
def startingRule : Rule :=
  ruleOf "outer" .sequential [starts "inner"]

def startingScope : Scope := .root startingRule 100 0

def waitingEngine
    (mode : Mode) :
    Engine :=
  unhurried 100 1 [("inner", ruleOf "inner" mode [asks "slow"])]

def startingContext : Context :=
  (waitingEngine .sequential).freshContext startingRule .null
    .manual

/- The deadline comes first, and the report is kept in order. -/
theorem waitingRun_reportsRun :
    ∃ report finished,
      (waitingEngine .sequential).ReportsRun startingScope []
          (starts "inner") (starts "inner")
          (ruleOf "inner" .sequential [asks "slow"])
          ⟨"inner", none⟩ startingContext 0 report ∧
        ((waitingEngine .sequential).dispatch
            (waitingEngine .sequential).runBelow startingScope
            (starts "inner") startingContext 0).ending =
          .returned finished ∧
        finished.1.isFailed = true ∧
        finished.1.output = report.document := by
  have hReports :
      ∃ report,
        (waitingEngine .sequential).ReportsRun startingScope []
          (starts "inner") (starts "inner")
          (ruleOf "inner" .sequential [asks "slow"])
          ⟨"inner", none⟩ startingContext 0 report :=
    reportsRun .here rfl rfl 0
  rcases hReports with ⟨report, hReport⟩
  have hKept :=
    hReport.kept fun hLoses => by cases hLoses.mode_eq
  refine ⟨report, _, hReport, hKept, ?_, hReport.output_eq⟩
  exact hReport.failed _ hKept (Or.inr (by decide))

/- Side by side, the report of the run is lost. -/
theorem waitingRun_loses_report :
    ∃ activity above below,
      (waitingEngine .parallel).run
          startingRule .null .manual = .ok activity ∧
        (activity 0).ending = .returned above ∧
        ((waitingEngine .parallel).chainedRun startingScope
            (ruleOf "inner" .parallel [asks "slow"])
            ⟨"inner", none⟩ startingContext 0).ending =
          .returned below ∧
        (waitingEngine .parallel).chainedRule startingScope
            "inner" =
          .ok (ruleOf "inner" .parallel [asks "slow"]) ∧
        above.results =
          [.failed "inner" "trigger-rule"
            (ActionFault.timeout 100).message] ∧
        above.results.map (·.output) ≠ [below.document] := by
  refine ⟨_, _, _, rfl, rfl, rfl, rfl, rfl, ?_⟩
  nofun

end Engine

end Automation
