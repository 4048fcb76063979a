import Automation.Engine.Dispatch
import Automation.Rule.Authorization
import Automation.Text.Quoted

/-
  Runs of rules.

  A run evaluates the condition of its rule, and if it holds carries out
  the actions, one after the other or side by side.  A run always ends in
  a report: a crash becomes the error of the run, or of the action when
  actions run side by side.  What no report contains is the crash of a
  deadline that no clock can tell.

  Key definitions include:
    * `Engine.runSequential` and `Engine.runParallel`
    * `Engine.runWithin`, a run within a scope
    * `Engine.run`, `Engine.runById` and `Engine.runHook`
    * `Setup.run`, `Setup.runById` and `Setup.runHook`, with any timeout
-/

namespace Automation

------------------------------------------------------------
-- Crashes
------------------------------------------------------------

namespace Crash

/- The crash of a sum of times that is too late for a clock. -/
def overflow : Crash :=
  ⟨some "overflow when adding duration to instant"⟩

/- A crash as the error of a run. -/
def runError
    (crash : Crash) :
    String :=
  "Rule run panicked: " ++ crash.message?.getD "unknown panic"

/- A crash as the error of an action that ran beside others. -/
def actionError
    (crash : Crash) :
    String :=
  "Action task aborted: task 0 panicked" ++
    match crash.message? with
    | some message => " with message " ++ Text.quoted message
    | none => ""

end Crash

------------------------------------------------------------
-- The Cost Of A Run
------------------------------------------------------------

/- The bytes of input and results that cost one unit. -/
def bytesPerUnit : Nat := 100

/- The base cost, and a unit for each so many bytes. -/
def runCost
    (base : UInt64)
    (input : Document)
    (results : List ActionResult) :
    UInt64 :=
  let written := Document.array (results.map (·.document))
  base +
    UInt64.ofNat ((input.byteSize + written.byteSize) / bytesPerUnit)

namespace Engine

------------------------------------------------------------
-- One Action After The Other
------------------------------------------------------------

def budgetError
    (scope : Scope) :
    String :=
  "Run exceeded its " ++ toString scope.budget ++ " ms budget"

/-
  Carry out actions in order, until one fails that stops the run or the
  deadline is reached.
-/
def runSequential
    (dispatch : Action → Context → Activity (ActionResult × Context))
    (scope : Scope) :
    List Action → Context →
      Activity (List ActionResult × Option String)
  | [], _ => Activity.done ([], none)
  | action :: rest, context => do
      if scope.isExpired (← Activity.now) then
        return ([], some (budgetError scope))
      else
        let (result, context) ← dispatch action context
        if result.isFailed && action.stopsOnFailure then
          return ([result], none)
        else
          let (results, error?) ←
            runSequential dispatch scope rest context
          return (result :: results, error?)

------------------------------------------------------------
-- Actions Side By Side
------------------------------------------------------------

/- The result of an action that ran beside others. -/
def parallelResult
    (action : Action) :
    Ending (ActionResult × Context) → ActionResult
  | .returned (result, _) => result
  | .crashed crash => .failed action.id action.type crash.actionError

/- Every action has a copy of the variables to itself. -/
def runParallel
    (cap : Nat)
    (dispatch : Action → Context → Activity (ActionResult × Context))
    (scope : Scope)
    (actions : List Action)
    (context : Context) :
    Activity (List ActionResult) := do
  let permits := max (min actions.length cap) 1
  let endings ←
    Activity.fanOut permits scope.deadline
      (actions.map fun action => dispatch action context)
  return List.zipWith parallelResult actions endings

------------------------------------------------------------
-- Runs
------------------------------------------------------------

/- What a run has come to. -/
structure RunOutcome where
  conditionsMet : Bool
  results : List ActionResult
  diagnostics : List String
  error? : Option String
deriving Inhabited

/- Evaluate the condition of a rule, and carry out its actions. -/
def evaluateAndAct
    (engine : Engine)
    (runChild : RunChild)
    (rule : Rule)
    (context : Context)
    (scope : Scope) :
    Activity RunOutcome := do
  let verdict := rule.logic.condition.evaluate engine.patterns context
  let diagnostics := verdict.diagnostics.map (·.text)
  if !verdict.holds then return ⟨false, [], diagnostics, none⟩
  else
    let dispatch := engine.dispatch runChild scope
    match rule.mode with
    | .sequential =>
        let (results, error?) ←
          runSequential dispatch scope rule.logic.actions context
        return ⟨true, results, diagnostics, error?⟩
    | .parallel =>
        let results ←
          runParallel engine.settings.maxParallelActions dispatch scope
            rule.logic.actions context
        return ⟨true, results, diagnostics, none⟩

/- The report of a run. -/
def reportOf
    (engine : Engine)
    (rule : Rule)
    (input : Document)
    (trigger : TriggerKind)
    (outcome : RunOutcome) :
    Report where
  executionId := engine.stamp.executionId
  ruleId := rule.id
  trigger := trigger
  startedAt := engine.stamp.startedAt
  conditionsMet := outcome.conditionsMet
  results := outcome.results
  status := if outcome.error?.isSome then .failed else .completed
  elapsedMs := engine.stamp.elapsedMs
  cost :=
    runCost (rule.baseCost?.getD engine.settings.defaultBaseCost) input
      outcome.results
  error? := outcome.error?
  diagnostics := outcome.diagnostics

/- A run within a scope.  A crash leaves nothing but its message. -/
def runWithin
    (engine : Engine)
    (runChild : RunChild)
    (rule : Rule)
    (input : Document)
    (trigger : TriggerKind)
    (scope : Scope) :
    Activity Report := do
  let context := Context.forRun rule input trigger engine.stamp.startedAt
  match ← (engine.evaluateAndAct runChild rule context scope).settled with
  | .returned outcome =>
      return engine.reportOf rule input trigger outcome
  | .crashed crash =>
      return engine.reportOf rule input trigger
        ⟨false, [], [], some crash.runError⟩

/-
  Runs that other runs start, nested no deeper than the given number.  The
  chain of a scope is checked before a run is started, so the number never
  runs out.
-/
def runChained
    (engine : Engine) :
    Nat → RunChild
  | 0 => fun rule input _ =>
      Activity.done (engine.reportOf rule input .chained default)
  | depth + 1 => fun rule input scope =>
      engine.runWithin (runChained engine depth) rule input .chained scope

/- The runs that may be started below a run of the outermost scope. -/
def runBelow
    (engine : Engine) :
    RunChild :=
  engine.runChained engine.settings.maxChainDepth

------------------------------------------------------------
-- Starting Runs
------------------------------------------------------------

/- A run that nothing else started; the rule has to be active. -/
def run
    (engine : Engine)
    (rule : Rule)
    (input : Document)
    (trigger : TriggerKind) :
    Except Rejection (Activity Report) :=
  if !rule.active then .error (.ruleInactive rule.id)
  else
    .ok do
      let scope :=
        Scope.root rule engine.settings.runTimeout (← Activity.now)
      Activity.announced rule.id scope
        (engine.runWithin engine.runBelow rule input trigger scope)

def loadRule
    (engine : Engine)
    (id : String) :
    Except Rejection Rule :=
  match engine.collaborators.rule id with
  | .error fault => .error (.storeFailed fault.message)
  | .ok none => .error (.ruleNotFound id)
  | .ok (some rule) => .ok rule

def runById
    (engine : Engine)
    (id : String)
    (input : Document)
    (trigger : TriggerKind) :
    Except Rejection (Activity Report) :=
  match engine.loadRule id with
  | .error rejection => .error rejection
  | .ok rule => engine.run rule input trigger

/- A run that a webhook call asks for. -/
def runHook
    (engine : Engine)
    (id token : String)
    (payload : Document) :
    Except Rejection (Activity Report) :=
  match engine.loadRule id with
  | .error rejection => .error rejection
  | .ok rule =>
      match rule.authorize token payload with
      | .error rejection => .error rejection
      | .ok () => engine.run rule payload .webhook

end Engine

------------------------------------------------------------
-- Runs With Any Timeout
------------------------------------------------------------

namespace Setup

/-
  The outermost deadline is found before anything contains a crash.  It is
  the first sum that can be too late: a run that another one starts adds
  the same timeout, while the outer run goes on.
-/
def timed
    (setup : Setup)
    (activity : Activity Report) :
    Activity Report := do
  let deadline := (← Activity.now) + setup.settings.runTimeout
  if Clock.latest < deadline then Activity.crash .overflow
  else activity

def run
    (setup : Setup)
    (rule : Rule)
    (input : Document)
    (trigger : TriggerKind) :
    Except Rejection (Activity Report) :=
  (setup.engine.run rule input trigger).map setup.timed

def runById
    (setup : Setup)
    (id : String)
    (input : Document)
    (trigger : TriggerKind) :
    Except Rejection (Activity Report) :=
  (setup.engine.runById id input trigger).map setup.timed

def runHook
    (setup : Setup)
    (id token : String)
    (payload : Document) :
    Except Rejection (Activity Report) :=
  (setup.engine.runHook id token payload).map setup.timed

end Setup

end Automation
