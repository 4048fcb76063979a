import Automation.Identifier
import Automation.Rule.Written
import Automation.Timestamp

/-
  Reports of runs.

  Key definitions include:
    * `ActionResult`, what became of one action
    * `Report`, what became of a run
    * `Report.decoder` and `Report.document`, the written form
-/

namespace Automation

------------------------------------------------------------
-- Results Of Actions
------------------------------------------------------------

inductive ActionStatus where
  | success
  | failed
  | unsupported
deriving DecidableEq, Inhabited

structure ActionResult where
  actionId : String
  actionType : String
  status : ActionStatus
  output : Document
  error? : Option String
deriving Inhabited

namespace ActionStatus

def name : ActionStatus → String
  | .success => "success"
  | .failed => "failed"
  | .unsupported => "unsupported"

def decoder : Decoder ActionStatus :=
  Decoder.enumeration
    [("success", .success), ("failed", .failed),
      ("unsupported", .unsupported)]

end ActionStatus

namespace ActionResult

def success
    (id type : String)
    (output : Document) :
    ActionResult :=
  ⟨id, type, .success, output, none⟩

def failed
    (id type error : String) :
    ActionResult :=
  ⟨id, type, .failed, .null, some error⟩

def unsupportedError
    (type : String) :
    String :=
  "Unsupported action type: " ++ type

def unsupported
    (id type : String) :
    ActionResult :=
  ⟨id, type, .unsupported, .null, some (unsupportedError type)⟩

def withOutput
    (result : ActionResult)
    (output : Document) :
    ActionResult :=
  { result with output := output }

def isSuccess
    (result : ActionResult) :
    Bool :=
  result.status = .success

def isFailed
    (result : ActionResult) :
    Bool :=
  result.status = .failed

def record : Record ActionResult :=
  ActionResult.mk
    <$> Record.required ["actionId"] Decoder.text
    <*> Record.required ["actionType"] Decoder.text
    <*> Record.required ["status"] ActionStatus.decoder
    <*> Record.defaulted ["output"] Decoder.document .null
    <*> Record.optional ["error"] Decoder.text

def decoder : Decoder ActionResult :=
  record.decoder "struct ActionResult"

def document
    (result : ActionResult) :
    Document :=
  .record
    ([("actionId", .text result.actionId),
      ("actionType", .text result.actionType),
      ("status", .text result.status.name),
      ("output", result.output)] ++
      Document.entryOf "error" (result.error?.map .text))

end ActionResult

------------------------------------------------------------
-- Reports
------------------------------------------------------------

inductive RunStatus where
  | completed
  | failed
deriving DecidableEq, Inhabited

structure Report where
  executionId : Identifier
  ruleId : String
  trigger : TriggerKind
  startedAt : Timestamp
  conditionsMet : Bool
  /- In the order in which the rule states its actions. -/
  results : List ActionResult
  status : RunStatus
  elapsedMs : UInt64
  cost : UInt64
  error? : Option String
  /- Tests of the condition that could not be carried out. -/
  diagnostics : List String
deriving Inhabited

namespace RunStatus

def name : RunStatus → String
  | .completed => "completed"
  | .failed => "failed"

def decoder : Decoder RunStatus :=
  Decoder.enumeration [("completed", .completed), ("failed", .failed)]

end RunStatus

namespace Report

def isCompleted
    (report : Report) :
    Bool :=
  report.status = .completed

/- The first result of the action with an id. -/
def action?
    (report : Report)
    (id : String) :
    Option ActionResult :=
  report.results.find? fun result => result.actionId = id

def record : Record Report :=
  Report.mk
    <$> Record.required ["executionId"] Identifier.decoder
    <*> Record.required ["ruleId"] Decoder.text
    <*> Record.required ["triggerType"] TriggerKind.decoder
    <*> Record.required ["startedAt"] Timestamp.decoder
    <*> Record.required ["conditionsMet"] Decoder.boolean
    <*> Record.defaulted ["actionResults"]
      (Decoder.listOf ActionResult.decoder) []
    <*> Record.required ["status"] RunStatus.decoder
    <*> Record.required ["executionTimeMs"] Decoder.word
    <*> Record.required ["tokenCost"] Decoder.word
    <*> Record.optional ["errorMessage"] Decoder.text
    <*> Record.defaulted ["diagnostics"] (Decoder.listOf Decoder.text) []

def decoder : Decoder Report :=
  record.decoder "struct ExecutionResult"

def document
    (report : Report) :
    Document :=
  .record
    ([("executionId", .text report.executionId.text),
      ("ruleId", .text report.ruleId),
      ("triggerType", .text report.trigger.name),
      ("startedAt", .text report.startedAt.text),
      ("conditionsMet", .bool report.conditionsMet),
      ("actionResults", .array (report.results.map (·.document))),
      ("status", .text report.status.name),
      ("executionTimeMs", .integer report.elapsedMs.toNat),
      ("tokenCost", .integer report.cost.toNat)] ++
      Document.entryOf "errorMessage" (report.error?.map .text) ++
      (if report.diagnostics.isEmpty then []
        else [("diagnostics", .array (report.diagnostics.map .text))]))

end Report

end Automation
