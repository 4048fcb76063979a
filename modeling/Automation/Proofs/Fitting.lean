import Automation.Proofs.Outcomes

/-
  What reports and results say by themselves.

  What the result of an action says of its status and its error fits what
  the action states, and what a report says of its status, of its error and
  of the number of its results fits the rule.

  Key definitions include:
    * `ActionKind.builtinTypes`, the actions that can be carried out
    * `Report.Fits` and `ActionResult.Fits`

  Key theorems include:
    * `Engine.runTask_yields`, what a task comes to
    * `Engine.resultOf_fits`, what an action makes of it
    * `Engine.execute_of_unsupported`, actions of other types
-/

namespace Automation

------------------------------------------------------------
-- Types That Are Built In
------------------------------------------------------------

namespace ActionKind

/- The types of the actions that can be carried out. -/
def builtinTypes : List String :=
  ["trigger-model", "send-notification", "call-webhook",
    "store-data", "transform-data", "conditional",
    "conditional-action", "trigger-rule"]

theorem isSupported_ofType
    (type : String) :
    (ofType type).isSupported = false ↔
      type ∉ builtinTypes := by
  unfold ofType
  split
  all_goals try decide
  simp only [isSupported, builtinTypes, List.mem_cons,
    List.not_mem_nil, or_false, not_or, true_iff]
  repeat' constructor
  all_goals assumption

end ActionKind

------------------------------------------------------------
-- Reports And Results By Themselves
------------------------------------------------------------

/- What a task of some kind can have come to. -/
structure Achievement.Fits
    (achievement : Achievement)
    (kind : ActionKind) : Prop where
  error_iff :
    achievement.error?.isSome = true ↔
      achievement.status ≠ .success
  unsupported_iff :
    achievement.status = .unsupported ↔
      kind.isSupported = false
  unsupported_output :
    achievement.status = .unsupported →
      achievement.output = .null

/- Only a task that can be carried out has a fault. -/
def TaskResult.Fits
    (kind : ActionKind) :
    TaskResult → Prop
  | .ok achievement => achievement.Fits kind
  | .error _ => kind.isSupported = true

/- What the result of an action says about the action. -/
structure ActionResult.Fits
    (result : ActionResult)
    (action : Action) : Prop where
  id_eq : result.actionId = action.id
  type_eq : result.actionType = action.type
  error_iff :
    result.error?.isSome = true ↔ result.status ≠ .success
  unsupported_iff :
    result.status = .unsupported ↔
      action.type ∉ ActionKind.builtinTypes
  unsupported_output :
    result.status = .unsupported → result.output = .null

/- What the report of a run says about the rule. -/
structure Report.Fits
    (report : Report)
    (rule : Rule) : Prop where
  rule_eq : report.ruleId = rule.id
  failed_iff :
    report.status = .failed ↔ report.error?.isSome = true
  unmet :
    report.conditionsMet = false → report.results = []
  length_le :
    report.results.length ≤ rule.logic.actions.length
  length_eq :
    rule.mode = .parallel →
      report.conditionsMet = true →
        report.results.length = rule.logic.actions.length

namespace Achievement

variable {kind : ActionKind}

theorem fits_success
    (output : Document)
    (hKind : kind.isSupported = true) :
    (success output).Fits kind := by
  constructor <;> simp [success, hKind]

theorem fits_failed
    (output : Document)
    (error : String)
    (hKind : kind.isSupported = true) :
    (failed output error).Fits kind := by
  constructor <;> simp [failed, hKind]

end Achievement

namespace Engine

variable {engine : Engine}
variable {runChild : RunChild}
variable {scope : Scope}
variable {context : Context}
variable {action : Action}

------------------------------------------------------------
-- What Tasks Come To
------------------------------------------------------------

theorem runModel_yields
    (task : ModelTask) :
    (engine.runModel scope task context).Yields
      (TaskResult.Fits .triggerModel) := by
  unfold runModel
  split
  · exact .done rfl
  · apply Activity.Yields.andThen (.any _)
    intro answer _
    cases answer with
    | error fault => exact .done rfl
    | ok output => exact .done (Achievement.fits_success _ rfl)

theorem runNotice_yields
    (task : NoticeTask) :
    (engine.runNotice scope task).Yields
      (TaskResult.Fits .sendNotification) := by
  unfold runNotice
  apply Activity.Yields.andThen (.any _)
  intro answer _
  exact .done (Achievement.fits_success _ rfl)

theorem runWebhook_yields
    (request : WebhookRequest) :
    (engine.runWebhook request).Yields
      (TaskResult.Fits .callWebhook) := by
  unfold runWebhook
  split
  · exact .done rfl
  · apply Activity.Yields.andThen (.any _)
    intro answer _
    cases answer with
    | error fault => exact .done rfl
    | ok response =>
        dsimp only
        split
        · exact .done (Achievement.fits_success _ rfl)
        · exact .done (Achievement.fits_failed _ _ rfl)

theorem runStore_fits
    (task : StoreTask)
    (context : Context) :
    TaskResult.Fits .storeData (runStore task context).1 := by
  unfold runStore
  split
  · rfl
  · exact Achievement.fits_success _ rfl

@[simp] theorem chainedResult_output
    (scope : Scope)
    (finish : Nat)
    (report : Report) :
    (chainedResult scope finish report).output =
      report.document := by
  unfold chainedResult
  dsimp only
  split
  · rfl
  · split <;> rfl

theorem chainedResult_fits
    (scope : Scope)
    (finish : Nat)
    (report : Report) :
    (chainedResult scope finish report).Fits .triggerRule := by
  unfold chainedResult
  dsimp only
  split
  · exact Achievement.fits_failed _ _ rfl
  · split
    · exact Achievement.fits_success _ rfl
    · exact Achievement.fits_failed _ _ rfl

theorem branchResult_fits
    (verdict : Bool)
    (branch : String)
    (result? : Option ActionResult) :
    (branchResult verdict branch result?).Fits .branch := by
  unfold branchResult
  cases result? with
  | none => exact Achievement.fits_success _ rfl
  | some result =>
      dsimp only
      split
      · exact Achievement.fits_failed _ _ rfl
      · exact Achievement.fits_success _ rfl

/- What a task comes to fits its kind, whatever its branches do. -/
theorem runTask_yields
    {execute :
      Action → Context → Activity (ActionResult × Context)}
    (task : Task) :
    (engine.runTask runChild scope execute task
      context).Yields fun finished =>
        TaskResult.Fits task.kind finished.1 := by
  cases task with
  | model task =>
      apply (runModel_yields task).andThen
      intro outcome hFits
      exact .done hFits
  | notice task =>
      apply (runNotice_yields task).andThen
      intro outcome hFits
      exact .done hFits
  | webhook request =>
      apply (runWebhook_yields request).andThen
      intro outcome hFits
      exact .done hFits
  | store task => exact .done (runStore_fits task context)
  | transform task =>
      exact .done (Achievement.fits_success _ rfl)
  | branch task =>
      cases hSelected : task.selected? engine.patterns context with
      | none =>
          rw [runTask, runBranch_of_none hSelected]
          exact .done (branchResult_fits _ _ _)
      | some chosen =>
          rw [runTask, runBranch_of_selected hSelected]
          apply Activity.Yields.andThen (.any _)
          intro finished _
          apply Activity.Yields.done
          exact branchResult_fits _ _ _
  | rule task =>
      apply (runRule_yields_report task).andThen
      rintro _ (⟨fault, rfl⟩ |
        ⟨_, child, _, finish, report, _, _, rfl⟩)
      · exact .done rfl
      · exact .done (chainedResult_fits child finish report)
  | unsupported type =>
      exact .done ⟨by simp, by simp [Task.kind,
        ActionKind.isSupported], fun _ => rfl⟩

------------------------------------------------------------
-- What Actions Come To
------------------------------------------------------------

theorem failed_fits
    (error : String)
    (hKind : action.kind.isSupported = true) :
    (ActionResult.failed action.id action.type error).Fits
      action := by
  have hType := ActionKind.isSupported_ofType action.type
  rw [← Action.kind, hKind] at hType
  constructor <;> simp_all [ActionResult.failed]

theorem resultOf_fits
    {outcome : TaskResult}
    (hFits : TaskResult.Fits action.kind outcome) :
    (resultOf action outcome).Fits action := by
  cases outcome with
  | error fault => exact failed_fits fault.message hFits
  | ok achievement =>
      exact
        { id_eq := rfl
          type_eq := rfl
          error_iff := hFits.error_iff
          unsupported_iff :=
            hFits.unsupported_iff.trans
              (ActionKind.isSupported_ofType action.type)
          unsupported_output := hFits.unsupported_output }

theorem isSupported_of_fault
    {kind : ActionKind}
    {config : Document}
    {fault : ActionFault}
    (hTask : Task.ofConfig kind config = .error fault) :
    kind.isSupported = true := by
  cases kind with
  | unsupported type => cases hTask
  | _ => rfl

/- An action that cannot be carried out is over at once. -/
theorem execute_of_unsupported
    (hKind : action.kind.isSupported = false) :
    ∃ finished,
      engine.execute runChild scope action context =
        Activity.done finished := by
  cases hTask :
      Task.ofConfig action.kind
        (filledConfig action context) with
  | error fault =>
      rw [isSupported_of_fault hTask] at hKind
      cases hKind
  | ok task =>
      rw [← Task.kind_of_ofConfig hTask] at hKind
      cases task with
      | unsupported type =>
          rw [execute, executeWithin_of_task _ hTask]
          exact ⟨_, rfl⟩
      | _ => cases hKind

theorem branch_fits
    {task : BranchTask}
    (hTask :
      Task.ofConfig action.kind
        (filledConfig action context) = .ok (.branch task))
    (result? : Option ActionResult) :
    (resultOf action
      (.ok
        (branchResult (task.verdict engine.patterns context)
          (branchName (task.verdict engine.patterns context))
          result?))).Fits action := by
  apply resultOf_fits
  rw [← Task.kind_of_ofConfig hTask]
  exact branchResult_fits _ _ _

end Engine

end Automation
