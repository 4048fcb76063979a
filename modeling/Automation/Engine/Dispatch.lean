import Automation.Engine
import Automation.Template
import Automation.Transformation

/-
  Carrying out actions.

  The templates of a configuration are filled before it is understood.
  Those of the actions inside a branch are left alone, and filled when one
  of these actions is carried out itself.  An action that fails leaves the
  variables as they were.

  Key definitions include:
    * `Engine.runTask`, what a task does
    * `Engine.execute`, an action without a deadline
    * `Engine.dispatch`, an action within the deadline of its run
-/

namespace Automation

------------------------------------------------------------
-- Outcomes
------------------------------------------------------------

/- What a task has come to. -/
structure Achievement where
  status : ActionStatus
  output : Document
  error? : Option String
deriving Inhabited

namespace Achievement

def success
    (output : Document) :
    Achievement :=
  ⟨.success, output, none⟩

def failed
    (output : Document)
    (error : String) :
    Achievement :=
  ⟨.failed, output, some error⟩

end Achievement

/- What a task has come to, or why it could not be carried out. -/
abbrev TaskResult := Except ActionFault Achievement

namespace Engine

------------------------------------------------------------
-- Tasks That Call Collaborators
------------------------------------------------------------

def runModel
    (engine : Engine)
    (scope : Scope)
    (task : ModelTask)
    (context : Context) :
    Activity TaskResult := do
  match task.model?.filter fun model => !Text.isBlankText model with
  | none => return .error (.missingField "modelId")
  | some model =>
      let request : ModelRequest :=
        { model := model
          input := task.input?.getD context.input
          rule := scope.rule
          user := scope.user }
      match ← Activity.perform (.model request)
          (engine.collaborators.model · request) with
      | .error fault => return .error (.collaborator fault)
      | .ok output =>
          return .ok (.success
            (.record [("modelId", .text model), ("output", output)]))

/- A message that is not delivered does not make the action fail. -/
def runNotice
    (engine : Engine)
    (scope : Scope)
    (task : NoticeTask) :
    Activity TaskResult := do
  let recipients := task.recipients.addresses
  let notification : Notification :=
    { recipients := recipients
      subject? := task.subject?
      message := task.message
      channel? := task.channel?
      rule := scope.rule
      user := scope.user }
  let answer ← Activity.perform (.notifier notification)
    (engine.collaborators.notify · notification)
  return .ok (.success
    (.record
      [("message", .text task.message),
        ("recipients", .array (recipients.map .text)),
        ("delivered", .bool answer.isOk)]))

def runWebhook
    (engine : Engine)
    (request : WebhookRequest) :
    Activity TaskResult := do
  if Text.isBlankText request.url then
    return .error (.missingField "url")
  else
    match ← Activity.perform (.webhook request)
        (engine.collaborators.webhook · request) with
    | .error fault => return .error (.collaborator fault)
    | .ok response =>
        let output := Document.record
          [("url", .text request.url),
            ("method", .text request.method.name),
            ("status", .integer response.status),
            ("body", response.body)]
        if response.isSuccess then return .ok (.success output)
        else
          return .ok (.failed output
            ("Webhook returned HTTP " ++ toString response.status))

------------------------------------------------------------
-- Tasks On Variables
------------------------------------------------------------

def runStore
    (task : StoreTask)
    (context : Context) :
    TaskResult × Context :=
  if Text.isBlankText task.key then
    (.error (.missingField "key"), context)
  else
    (.ok (.success task.document),
      context.setVariable task.key task.value)

------------------------------------------------------------
-- Tasks That Start Other Rules
------------------------------------------------------------

/- Look up a rule that a task names, and check that it can be started. -/
def chainedRule
    (engine : Engine)
    (scope : Scope)
    (id : String) :
    Except ActionFault Rule :=
  if Text.isBlankText id then .error (.missingField "ruleId")
  else
    match scope.checkChain id engine.settings.maxChainDepth with
    | .error fault => .error (.chain fault)
    | .ok () =>
        match engine.collaborators.rule id with
        | .error fault => .error (.collaborator fault)
        | .ok none => .error (.failed ("Rule not found: " ++ id))
        | .ok (some rule) =>
            if rule.active then .ok rule
            else .error (.failed ("Rule is inactive: " ++ rule.id))

/- What a task has come to that started a rule. -/
def chainedResult
    (scope : Scope)
    (finish : Nat)
    (report : Report) :
    Achievement :=
  let output := report.document
  if scope.isExpired finish then
    .failed output (ActionFault.timeout scope.budget).message
  else if report.isCompleted then .success output
  else
    .failed output
      (report.error?.getD ("Chained rule " ++ report.ruleId ++ " failed"))

def runRule
    (engine : Engine)
    (runChild : RunChild)
    (scope : Scope)
    (task : RuleTask)
    (context : Context) :
    Activity TaskResult := do
  match engine.chainedRule scope task.rule with
  | .error fault => return .error fault
  | .ok rule =>
      let input := task.input?.getD context.input
      let child :=
        scope.child rule engine.settings.runTimeout (← Activity.now)
      let report ←
        Activity.announced rule.id child (runChild rule input child)
      return .ok (chainedResult child (← Activity.now) report)

------------------------------------------------------------
-- Branches
------------------------------------------------------------

/- The entries of a configuration that hold the actions of a branch. -/
def branchKeys : List String :=
  ["thenAction", "then", "elseAction", "else"]

/- Fill the templates of a configuration outside its actions. -/
def fillBranchConfig
    (context : Context) :
    Document → Document
  | .object entries =>
      .object (entries.map fun (key, value) =>
        if branchKeys.contains key then (key, value)
        else (key, value.fill context))
  | config => config.fill context

/- What a branch has come to, from the result of its action. -/
def branchResult
    (verdict : Bool)
    (branch : String)
    (result? : Option ActionResult) :
    Achievement :=
  let output := Document.record
    [("conditionMet", .bool verdict),
      ("branch", .text branch),
      ("result", (result?.map (·.document)).getD .null)]
  match result? with
  | none => .success output
  | some result =>
      if result.isFailed then
        .failed output
          (result.error?.getD (branch ++ " branch action failed"))
      else .success output

/- Carry out the action that the condition of a branch selects. -/
def runBranch
    (patterns : PatternLibrary)
    (execute : Action → Context → Activity (ActionResult × Context))
    (task : BranchTask)
    (context : Context) :
    Activity (TaskResult × Context) := do
  let verdict := (task.condition.evaluate patterns context).holds
  let branch := if verdict then "then" else "else"
  let selected := if verdict then task.thenAction? else task.elseAction?
  match selected with
  | none => return (.ok (branchResult verdict branch none), context)
  | some action =>
      let (result, context) ← execute action context
      return (.ok (branchResult verdict branch (some result)), context)

------------------------------------------------------------
-- Tasks And Actions
------------------------------------------------------------

/- An activity that leaves the variables alone. -/
def keeping
    (context : Context)
    (activity : Activity TaskResult) :
    Activity (TaskResult × Context) := do
  return (← activity, context)

def runTask
    (engine : Engine)
    (runChild : RunChild)
    (scope : Scope)
    (execute : Action → Context → Activity (ActionResult × Context))
    (task : Task)
    (context : Context) :
    Activity (TaskResult × Context) :=
  match task with
  | .model task => keeping context (engine.runModel scope task context)
  | .notice task => keeping context (engine.runNotice scope task)
  | .webhook request => keeping context (engine.runWebhook request)
  | .store task => Activity.done (runStore task context)
  | .transform task =>
      Activity.done (.ok (.success (task.output context)), context)
  | .branch task => runBranch engine.patterns execute task context
  | .rule task =>
      keeping context (engine.runRule runChild scope task context)
  | .unsupported type =>
      Activity.done
        (.ok ⟨.unsupported, .null,
          some (ActionResult.unsupportedError type)⟩, context)

/- The configuration of an action with its templates filled. -/
def filledConfig
    (action : Action)
    (context : Context) :
    Document :=
  match action.kind with
  | .branch => fillBranchConfig context action.config
  | _ => action.config.fill context

/- The result of an action, from what its task has come to. -/
def resultOf
    (action : Action) :
    TaskResult → ActionResult
  | .ok achievement =>
      ⟨action.id, action.type, achievement.status, achievement.output,
        achievement.error?⟩
  | .error fault => .failed action.id action.type fault.message

/- Write the output of an action that succeeded to its variable. -/
def writeOutput
    (action : Action)
    (result : ActionResult)
    (context : Context) :
    Context :=
  match result.isSuccess, action.target? with
  | true, some name => context.setVariable name result.output
  | _, _ => context

/-
  An action whose branches are nested no deeper than the given number.
-/
def executeWithin
    (engine : Engine)
    (runChild : RunChild)
    (scope : Scope) :
    Nat → Action → Context → Activity (ActionResult × Context)
  | 0, action, context =>
      Activity.done (resultOf action
        (.error (.configuration "branches are nested too deeply")),
          context)
  | depth + 1, action, context => do
      match Task.ofConfig action.kind (filledConfig action context) with
      | .error fault => return (resultOf action (.error fault), context)
      | .ok task =>
          let (outcome, context) ←
            engine.runTask runChild scope
              (executeWithin engine runChild scope depth) task context
          let result := resultOf action outcome
          return (result, writeOutput action result context)

/-
  An action without a deadline.  The actions of a branch lie inside its
  configuration, so the depth of the configuration bounds their nesting.
-/
def execute
    (engine : Engine)
    (runChild : RunChild)
    (scope : Scope)
    (action : Action)
    (context : Context) :
    Activity (ActionResult × Context) :=
  engine.executeWithin runChild scope (action.config.depth + 1) action
    context

/-
  An action within the deadline of its run.  An action that is cut short
  fails, and changes no variable.
-/
def dispatch
    (engine : Engine)
    (runChild : RunChild)
    (scope : Scope)
    (action : Action)
    (context : Context) :
    Activity (ActionResult × Context) := do
  match ← Activity.within scope.deadline
      (engine.execute runChild scope action context) with
  | some finished => return finished
  | none =>
      return (resultOf action (.error (.timeout scope.budget)), context)

end Engine

end Automation
