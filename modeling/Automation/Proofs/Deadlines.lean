import Automation.Proofs.Orderly
import Automation.Proofs.Unfolding
import Automation.RuleStore

/-
  Runs and their deadlines.

  A run that another run starts has the deadline of the other, because the
  time left is never more than a whole budget.  So the parts of a run are
  orderly with respect to one deadline, and are over by then.  Calls are
  made before that deadline, unless a branch of a parallel run starts only
  at the deadline.

  Key definitions include:
    * `Scope.Covers`, a time that a scope leaves some budget for

  Key theorems include:
    * `Unfolds.orderly`, `Unfolds.prompt` and `Unfolds.unbranched`
    * `Engine.run_returns_in_time`, runs end within their budget
    * `Engine.run_callsBefore_iff`, when no call is made too late
-/

namespace Automation

------------------------------------------------------------
-- Times Under A Scope
------------------------------------------------------------

/-
  A time that is not after the deadline of a scope, nor further before it
  than a budget.
-/
structure Scope.Covers
    (scope : Scope)
    (timeout time : Nat) : Prop where
  not_after : time ≤ scope.deadline
  not_before : scope.deadline ≤ time + timeout

namespace Scope.Covers

variable {scope : Scope}
variable {timeout time : Nat}

theorem root
    (rule : Rule)
    (timeout time : Nat) :
    (Scope.root rule timeout time).Covers timeout time :=
  ⟨Nat.le_add_right _ _, Nat.le_refl _⟩

theorem later
    {later : Nat}
    (hCovers : scope.Covers timeout time)
    (hLater : time ≤ later)
    (hDeadline : later ≤ scope.deadline) :
    scope.Covers timeout later := by
  refine ⟨hDeadline, ?_⟩
  have hBudget := hCovers.not_before
  omega

/- The run of another rule has the same deadline. -/
theorem child_deadline
    (hCovers : scope.Covers timeout time)
    (rule : Rule) :
    (scope.child rule timeout time).deadline =
      scope.deadline :=
  Nat.min_eq_left hCovers.not_before

theorem child
    (hCovers : scope.Covers timeout time)
    (rule : Rule) :
    (scope.child rule timeout time).Covers timeout time := by
  constructor
  · rw [hCovers.child_deadline rule]
    exact hCovers.not_after
  · rw [hCovers.child_deadline rule]
    exact hCovers.not_before

end Scope.Covers

/-
  Branches that start in turn from a time on, and are over by a deadline
  when they start by then, all start by then.
-/
theorem Admitted.covers
    {scope : Scope}
    {timeout time : Nat}
    {branches : List (Nat × List Step)}
    (hAdmitted : Admitted [time] branches)
    (hCovers : scope.Covers timeout time)
    (hFinish :
      ∀ branch ∈ branches,
        scope.Covers timeout branch.1 →
          branch.1 ≤ finishOf branch.1 branch.2 ∧
            finishOf branch.1 branch.2 ≤ scope.deadline) :
    ∀ branch ∈ branches,
      time ≤ branch.1 ∧ scope.Covers timeout branch.1 := by
  apply hAdmitted.starts fun start =>
    time ≤ start ∧ scope.Covers timeout start
  · intro other hOther
    rw [List.mem_singleton.mp hOther]
    exact ⟨Nat.le_refl _, hCovers⟩
  · intro branch hBranch hStart
    have hOver := hFinish branch hBranch hStart.2
    exact
      ⟨Nat.le_trans hStart.1 hOver.1,
        hStart.2.later hOver.1 hOver.2⟩

------------------------------------------------------------
-- Parts Of Runs Are Orderly
------------------------------------------------------------

namespace Unfolds

variable {engine : Engine}
variable {part : Part}
variable {scope : Scope}
variable {start : Nat}
variable {steps : List Step}

/-
  The steps of a part are orderly.  All parts are over by the deadline, but
  for an action that nothing holds to it.
-/
theorem orderly
    (hUnfolds : Unfolds engine part scope start steps)
    (hCovers :
      scope.Covers engine.settings.runTimeout start) :
    Orderly scope.deadline start steps ∧
      (part ≠ .execution →
        finishOf start steps ≤ scope.deadline) := by
  induction hUnfolds with
  | idle => exact ⟨.nil, fun hPart => absurd rfl hPart⟩
  | call call delay =>
      refine ⟨?_, fun hPart => absurd rfl hPart⟩
      refine .call hCovers.not_after ?_ .nil
      by_cases hDelay : delay = 0 <;>
        simp [Step.overAt, Step.resume?, Step.time, hDelay]
  | @chained scope time id rule steps hRule hRun ih =>
      have hSteps := ih (hCovers.child rule)
      rw [hCovers.child_deadline rule] at hSteps
      have hFinish :
          finishOf time steps ≤ scope.deadline :=
        hSteps.2 (by simp)
      refine ⟨?_, fun hPart => absurd rfl hPart⟩
      exact .milestone hCovers.not_after
        (hSteps.1.append (.milestone hFinish .nil))
  | within hExecution ih =>
      have hSteps := (ih hCovers).1.stepsBy hCovers.not_after
      exact ⟨hSteps.1, fun _ => hSteps.2⟩
  | finished => exact ⟨.nil, fun _ => hCovers.not_after⟩
  | @next scope time first rest hTime hFirst hRest
      ihFirst ihRest =>
      rcases ihFirst hCovers with ⟨hOrderly, hFinish⟩
      have hLater :
          scope.Covers engine.settings.runTimeout
            (finishOf time first) :=
        hCovers.later hOrderly.le_finishOf
          (hFinish (by simp))
      rcases ihRest hLater with ⟨hRestOrderly, hRestFinish⟩
      refine ⟨hOrderly.append hRestOrderly, fun _ => ?_⟩
      rw [finishOf_append]
      exact hRestFinish (by simp)
  | still => exact ⟨.nil, fun _ => hCovers.not_after⟩
  | sequential hSteps ih =>
      exact ⟨(ih hCovers).1, fun _ => (ih hCovers).2 (by simp)⟩
  | @parallel scope rule time permits last branches hMode
      _ _ hAdmitted hBranches hFinish hLast ih =>
      have hStarts := hAdmitted.covers hCovers
        fun branch hBranch hBranchCovers =>
          have hSteps := ih branch hBranch hBranchCovers
          ⟨hSteps.1.le_finishOf, hSteps.2 (by simp)⟩
      have hSteps := fun branch hBranch =>
        ih branch hBranch (hStarts branch hBranch).2
      have hOver : time ≤ last ∧ last ≤ scope.deadline := by
        rcases hLast with rfl | ⟨branch, hBranch, rfl⟩
        · exact ⟨Nat.le_refl _, hCovers.not_after⟩
        · exact
            ⟨Nat.le_trans (hStarts branch hBranch).1
                (hSteps branch hBranch).1.le_finishOf,
              (hSteps branch hBranch).2 (by simp)⟩
      refine ⟨?_, fun _ => hOver.2⟩
      exact .fan hOver.1 hOver.2 (by simp)
        (fun branch hBranch => (hStarts branch hBranch).1)
        hFinish
        (fun branch hBranch => (hSteps branch hBranch).1)
        .nil

/- The branches of a parallel run start by its deadline. -/
theorem branch_covers
    {branches : List (Nat × List Step)}
    (hAdmitted : Admitted [start] branches)
    (hBranches :
      ∀ branch ∈ branches,
        Unfolds engine .action scope branch.1 branch.2)
    (hCovers :
      scope.Covers engine.settings.runTimeout start) :
    ∀ branch ∈ branches,
      start ≤ branch.1 ∧
        scope.Covers engine.settings.runTimeout branch.1 := by
  apply hAdmitted.covers hCovers
  intro branch hBranch hStart
  have hSteps := (hBranches branch hBranch).orderly hStart
  exact ⟨hSteps.1.le_finishOf, hSteps.2 (by simp)⟩

/-
  The steps of a part are prompt.  Nothing looks at the deadline when an
  action is started, so an action has to start before it.
-/
theorem prompt
    (hUnfolds : Unfolds engine part scope start steps)
    (hCovers :
      scope.Covers engine.settings.runTimeout start)
    (hBefore :
      part = .execution ∨ part = .action →
        start < scope.deadline) :
    Prompt scope.deadline steps := by
  induction hUnfolds with
  | idle => exact .nil
  | call call delay =>
      exact .call (hBefore (Or.inl rfl)) .nil
  | chained hRule hRun ih =>
      have hSteps := ih (hCovers.child _) (by simp)
      rw [hCovers.child_deadline] at hSteps
      exact .milestone (hSteps.append (.milestone .nil))
  | within hExecution ih =>
      exact (ih hCovers fun _ => hBefore (Or.inr rfl)).stepsBy
  | finished => exact .nil
  | next hTime hFirst hRest ihFirst ihRest =>
      have hOrderly := hFirst.orderly hCovers
      have hLater :=
        hCovers.later hOrderly.1.le_finishOf
          (hOrderly.2 (by simp))
      exact (ihFirst hCovers fun _ => hTime).append
        (ihRest hLater (by simp))
  | still => exact .nil
  | sequential hSteps ih => exact ih hCovers (by simp)
  | parallel hMode _ _ hAdmitted hBranches hFinish hLast ih =>
      have hStarts := branch_covers hAdmitted hBranches hCovers
      refine .fan ?_ .nil
      intro branch hBranch hStart
      exact ih branch hBranch (hStarts branch hBranch).2
        fun _ => hStart

/- Only parallel runs start branches. -/
theorem unbranched
    (hUnfolds : Unfolds engine part scope start steps)
    (hRules :
      ∀ id found,
        engine.collaborators.rule id = .ok (some found) →
          found.mode = .sequential)
    (hPart :
      ∀ rule, part = .run rule → rule.mode = .sequential) :
    Unbranched steps := by
  induction hUnfolds with
  | idle => exact .nil
  | call call delay =>
      intro time permits limit branches pause hOccurs
      cases hOccurs with
      | tail hOccurs => exact Step.not_occurs_nil hOccurs
  | @chained scope time id rule steps hRule hRun ih =>
      have hMode : rule.mode = .sequential :=
        hRules id rule (Engine.chainedRule_eq_ok hRule).2.2.1
      have hSteps : Unbranched steps := by
        apply ih
        intro other hOther
        cases hOther
        exact hMode
      exact .milestone (hSteps.append (.milestone .nil))
  | within hExecution ih => exact (ih (by simp)).stepsBy _
  | finished => exact .nil
  | next hTime hFirst hRest ihFirst ihRest =>
      exact (ihFirst (by simp)).append (ihRest (by simp))
  | still => exact .nil
  | sequential hSteps ih => exact ih (by simp)
  | @parallel scope rule time permits last branches hMode =>
      have hOther := hPart rule rfl
      rw [hMode] at hOther
      cases hOther

end Unfolds

------------------------------------------------------------
-- Outermost Runs
------------------------------------------------------------

/- Every run that ends among some steps does so by a time. -/
def RunsEndBy
    (deadline : Nat)
    (steps : List Step) : Prop :=
  ∀ time rule scope,
    (Step.milestone time (.ended rule scope)).Occurs steps →
      time ≤ deadline

namespace Engine

variable {engine : Engine}
variable {rule : Rule}
variable {input : Document}
variable {trigger : TriggerKind}
variable {activity : Activity Report}

/- The steps of an outermost run are orderly, and over in time. -/
theorem run_orderly
    (hRun : engine.run rule input trigger = .ok activity)
    (start : Nat) :
    Orderly (start + engine.settings.runTimeout) start
        (activity start).steps ∧
      finishOf start (activity start).steps ≤
        start + engine.settings.runTimeout := by
  rcases run_spec hRun start with
    ⟨steps, report, hActivity, hUnfolds⟩
  have hCovers :=
    Scope.Covers.root rule engine.settings.runTimeout start
  rcases hUnfolds.orderly hCovers with ⟨hOrderly, hFinish⟩
  have hOver :
      finishOf start steps ≤
        start + engine.settings.runTimeout :=
    hFinish (by simp)
  rw [hActivity]
  refine ⟨.milestone hCovers.not_after
    (hOrderly.append (.milestone hOver .nil)), ?_⟩
  simpa [announcedSteps, Step.resume?] using hOver

theorem run_prompt
    (hRun : engine.run rule input trigger = .ok activity)
    (start : Nat) :
    Prompt (start + engine.settings.runTimeout)
      (activity start).steps := by
  rcases run_spec hRun start with
    ⟨steps, report, hActivity, hUnfolds⟩
  have hCovers :=
    Scope.Covers.root rule engine.settings.runTimeout start
  have hSteps := hUnfolds.prompt hCovers (by simp)
  rw [hActivity]
  exact .milestone (hSteps.append (.milestone .nil))

/-
  An active rule runs to a report within its budget, and so does every run
  that is started below it: none ends after the budget of the outermost.
-/
theorem run_returns_in_time
    (hActive : rule.active = true)
    (input : Document)
    (trigger : TriggerKind)
    (start : Nat) :
    ∃ activity report,
      engine.run rule input trigger = .ok activity ∧
        (activity start).ending = .returned report ∧
        finishOf start (activity start).steps ≤
          start + engine.settings.runTimeout ∧
        RunsEndBy (start + engine.settings.runTimeout)
          (activity start).steps := by
  have hStarts :
      ∃ activity,
        engine.run rule input trigger = .ok activity := by
    unfold run
    rw [hActive]
    exact ⟨_, rfl⟩
  rcases hStarts with ⟨activity, hRun⟩
  rcases run_spec hRun start with
    ⟨steps, report, hActivity, _⟩
  rcases run_orderly hRun start with ⟨hOrderly, hFinish⟩
  refine ⟨activity, report, hRun, ?_, hFinish, ?_⟩
  · rw [hActivity]
  · intro time ended scope hOccurs
    exact (hOrderly.time_of_occurs hOccurs).2.1

/- Models that answer with their input after a second. -/
def unhurried
    (timeout cap : Nat)
    (store : RuleStore) :
    Engine where
  settings :=
    { Settings.standard with
      runTimeout := min timeout Clock.longest
      maxParallelActions := cap }
  collaborators :=
    { offline.collaborators with
      model := fun _ request => ⟨1000, .answered request.input⟩
      rule := fun id => .ok (Table.find? store id) }
  patterns := .standard
  stamp := default
  timely := Nat.min_le_right _ _

/- An action that asks a model. -/
def asks
    (model : String) :
    Action :=
  ⟨model, "trigger-model",
    .object [("modelId", .text model)], .stop, none⟩

/- An action that starts another rule. -/
def starts
    (rule : String) :
    Action :=
  ⟨rule, "trigger-rule",
    .object [("ruleId", .text rule)], .stop, none⟩

/- An active rule with some actions and no condition. -/
def ruleOf
    (id : String)
    (mode : Mode)
    (actions : List Action) :
    Rule :=
  { Rule.basic id id ⟨.always, actions⟩ with mode := mode }

theorem nested_run_returns_in_time :
    (ruleOf "outer" .sequential [starts "inner"]).active =
        true ∧
      ∃ activity report,
        (unhurried 100 1
            [("inner",
              ruleOf "inner" .parallel [asks "slow"])]).run
            (ruleOf "outer" .sequential [starts "inner"])
            .null .manual = .ok activity ∧
          (activity 7).ending = .returned report ∧
          finishOf 7 (activity 7).steps ≤ 7 + 100 ∧
          RunsEndBy (7 + 100) (activity 7).steps :=
  ⟨rfl, run_returns_in_time rfl .null .manual 7⟩

/- Runs of sequential rules start no branches. -/
theorem run_unbranched
    (hRun : engine.run rule input trigger = .ok activity)
    (hMode : rule.mode = .sequential)
    (hRules :
      ∀ id found,
        engine.collaborators.rule id = .ok (some found) →
          found.mode = .sequential)
    (start : Nat) :
    Unbranched (activity start).steps := by
  rcases run_spec hRun start with
    ⟨steps, report, hActivity, hUnfolds⟩
  have hSteps : Unbranched steps := by
    apply hUnfolds.unbranched hRules
    intro other hOther
    cases hOther
    exact hMode
  rw [hActivity]
  exact .milestone (hSteps.append (.milestone .nil))

/-
  The time of a call is no later than the deadline of the outermost run,
  and no later than the time at which the run is over.  A run leaves
  branches behind only when it is over at the deadline itself.  Calls at
  the deadline are made just by branches that start at the deadline; so
  sequential rules make none.
-/
theorem run_callsBefore_iff
    (hRun : engine.run rule input trigger = .ok activity)
    (start : Nat) :
    let deadline := start + engine.settings.runTimeout
    let steps := (activity start).steps
    (∀ time call due pause?,
        (Step.call time call due pause?).Occurs steps →
          time ≤ deadline ∧ time ≤ finishOf start steps) ∧
      (∀ time permits limit branches pause,
        (Step.fan time permits limit branches pause).Occurs
            steps →
          pause.cut = true →
            finishOf start steps = deadline) ∧
      (CallsBefore deadline steps ↔
        BranchesBefore deadline steps) ∧
      (rule.mode = .sequential →
        (∀ id found,
          engine.collaborators.rule id = .ok (some found) →
            found.mode = .sequential) →
          CallsBefore deadline steps) := by
  dsimp only
  rcases run_orderly hRun start with ⟨hOrderly, hFinish⟩
  have hIff := callsBefore_iff hOrderly (run_prompt hRun start)
  refine ⟨?_, ?_, hIff, ?_⟩
  · intro time call due pause? hOccurs
    rcases hOrderly.time_of_occurs hOccurs with
      ⟨_, hTime, hOver, hEnd⟩
    exact ⟨hTime, Nat.le_trans hOver hEnd⟩
  · intro time permits limit branches pause hOccurs hCut
    have hEnd := (hOrderly.time_of_occurs hOccurs).2.2.2
    have hResume :
        pause.resume =
          start + engine.settings.runTimeout := by
      rcases hOrderly.exists_from hOccurs with ⟨rest, hFrom⟩
      cases hFrom with
      | fan _ _ hPause => exact hPause hCut
    exact Nat.le_antisymm hFinish (hResume ▸ hEnd)
  · intro hMode hRules
    have hUnbranched := run_unbranched hRun hMode hRules start
    exact hIff.mpr (hUnbranched.branchesBefore _)

/- Two actions side by side, of which one has to wait for the other. -/
def crowdedRule : Rule :=
  ruleOf "crowded" .parallel [asks "first", asks "second"]

/- The action that waits is carried out at the deadline. -/
theorem crowded_run_occurs :
    ∃ activity,
      (unhurried 100 1 []).run crowdedRule .null .manual =
          .ok activity ∧
        (Step.call 100 (.model ⟨"second", .null, "crowded", ""⟩)
          1100 (some ⟨100, true⟩)).Occurs
            (activity 0).steps :=
  ⟨_, rfl,
    .tail
      (.branch (List.mem_cons_of_mem _ List.mem_cons_self)
        .head)⟩

theorem crowded_run_branches_late :
    ∃ activity,
      (unhurried 100 1 []).run crowdedRule .null .manual =
          .ok activity ∧
        ¬ BranchesBefore 100 (activity 0).steps := by
  rcases crowded_run_occurs with ⟨activity, hRun, hOccurs⟩
  refine ⟨activity, hRun, ?_⟩
  intro hBranches
  have hCalls : CallsBefore 100 (activity 0).steps :=
    (run_callsBefore_iff hRun 0).2.2.1.mpr hBranches
  exact absurd (hCalls _ _ _ _ hOccurs) (Nat.lt_irrefl 100)

theorem crowded_run_calls_late :
    ∃ activity,
      (unhurried 100 1 []).run crowdedRule .null .manual =
          .ok activity ∧
        ¬ CallsBefore 100 (activity 0).steps := by
  rcases crowded_run_occurs with ⟨activity, hRun, hOccurs⟩
  refine ⟨activity, hRun, ?_⟩
  intro hCalls
  exact absurd (hCalls _ _ _ _ hOccurs) (Nat.lt_irrefl 100)

end Engine

end Automation
