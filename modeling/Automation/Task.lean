import Automation.Collaborator
import Automation.Rule

/-
  Tasks: actions whose configuration has been understood.

  Key definitions include:
    * `Task`, with a structure for the configuration of each kind
    * `Task.ofConfig`, the task that a configuration describes
    * `ActionFault`, why an action fails
-/

namespace Automation

------------------------------------------------------------
-- Faults Of Actions
------------------------------------------------------------

/- Why a rule must not be started from within a run. -/
inductive ChainFault where
  | cycle (rule : String) (chain : List String)
  | tooDeep (rule : String) (limit : Nat)
deriving DecidableEq, Inhabited

namespace ChainFault

def message : ChainFault → String
  | .cycle rule chain =>
      "cycle detected: rule " ++ rule ++ " already in chain [" ++
        String.intercalate " -> " chain ++ "]"
  | .tooDeep rule limit =>
      "maximum chain depth " ++ toString limit ++
        " reached at rule " ++ rule

end ChainFault

inductive ActionFault where
  | configuration (reason : String)
  | missingField (name : String)
  | collaborator (fault : CollaboratorFault)
  | chain (fault : ChainFault)
  | timeout (budget : Nat)
  | failed (reason : String)
deriving DecidableEq, Inhabited

namespace ActionFault

def message : ActionFault → String
  | .configuration reason => "Configuration error: " ++ reason
  | .missingField name => "Missing required config field: " ++ name
  | .collaborator fault => fault.message
  | .chain fault => "Chained rule rejected: " ++ fault.message
  | .timeout budget =>
      "Action timed out after " ++ toString budget ++ " ms"
  | .failed reason => "Execution failed: " ++ reason

end ActionFault

------------------------------------------------------------
-- Configurations
------------------------------------------------------------

structure ModelTask where
  model? : Option String
  /- The input of the run stands in for an absent one. -/
  input? : Option Document
deriving Inhabited

/- A list of addresses, or addresses between commas. -/
inductive Recipients where
  | list (addresses : List String)
  | joined (addresses : String)
deriving DecidableEq, Inhabited

structure NoticeTask where
  message : String
  recipients : Recipients
  subject? : Option String
  channel? : Option String
deriving Inhabited

structure StoreTask where
  key : String
  value : Document
deriving Inhabited

inductive Operation where
  | copy
  | uppercase
  | lowercase
  | sum
deriving DecidableEq, Inhabited

structure Transform where
  source : String
  operation : Operation
deriving DecidableEq, Inhabited

structure TransformTask where
  outputs : Table Transform
deriving Inhabited

structure BranchTask where
  condition : Condition
  thenAction? : Option Action
  elseAction? : Option Action
deriving Inhabited

structure RuleTask where
  rule : String
  /- The input of the run stands in for an absent one. -/
  input? : Option Document
deriving Inhabited

inductive Task where
  | model (task : ModelTask)
  | notice (task : NoticeTask)
  | webhook (request : WebhookRequest)
  | store (task : StoreTask)
  | transform (task : TransformTask)
  | branch (task : BranchTask)
  | rule (task : RuleTask)
  | unsupported (type : String)
deriving Inhabited

namespace Recipients

/-
  The addresses, without white space around them and without empty ones.
-/
def addresses
    (recipients : Recipients) :
    List String :=
  let items :=
    match recipients with
    | .list items => items
    | .joined s => Text.splitOn ',' s
  (items.map Text.trim).filter fun address => !address.isEmpty

end Recipients

------------------------------------------------------------
-- Reading
------------------------------------------------------------

def ModelTask.record : Record ModelTask :=
  ModelTask.mk
    <$> Record.optional ["modelId", "model", "modelReference", "model_id"]
      Decoder.text
    <*> Record.optional ["inputMapping", "input", "input_mapping"]
      Decoder.document

/- The strings of a list that holds nothing else. -/
def stringItems? : List Item → Option (List String)
  | [] => some []
  | (_, .scalar _ _ (.string s) _) :: rest =>
      (stringItems? rest).map (s :: ·)
  | _ => none

def Recipients.decoder : Decoder Recipients
  | _, .broken fault => .error fault
  | _, .scalar _ _ (.string s) _ => .ok (.joined s)
  | _, .sequence _ items _ =>
      match stringItems? items with
      | some addresses => .ok (.list addresses)
      | none => .error (.of (.noVariant "Recipients"))
  | _, _ => .error (.of (.noVariant "Recipients"))

def NoticeTask.record : Record NoticeTask :=
  NoticeTask.mk
    <$> Record.defaulted ["message", "template"] Decoder.text ""
    <*> Record.defaulted ["recipients"] Recipients.decoder (.list [])
    <*> Record.optional ["subject"] Decoder.text
    <*> Record.optional ["channel"] Decoder.text

def StoreTask.record : Record StoreTask :=
  StoreTask.mk
    <$> Record.required ["key", "variable", "name"] Decoder.text
    <*> Record.defaulted ["value"] Decoder.document .null

namespace Operation

def name : Operation → String
  | .copy => "copy"
  | .uppercase => "uppercase"
  | .lowercase => "lowercase"
  | .sum => "sum"

def decoder : Decoder Operation :=
  Decoder.enumeration
    [("copy", .copy), ("uppercase", .uppercase),
      ("lowercase", .lowercase), ("sum", .sum)]

end Operation

def Transform.record : Record Transform :=
  Transform.mk
    <$> Record.required ["source"] Decoder.text
    <*> Record.defaulted ["operation", "transform", "op"]
      Operation.decoder .copy

def TransformTask.record : Record TransformTask :=
  TransformTask.mk
    <$> Record.defaulted ["transformations", "outputs", "mappings"]
      (Decoder.tableOf
        (Transform.record.decoder "struct TransformSpec"))
      []

def BranchTask.record : Record BranchTask :=
  BranchTask.mk
    <$> Record.required ["condition", "conditions"] Condition.decoder
    <*> Record.optional ["thenAction", "then"] Action.decoder
    <*> Record.optional ["elseAction", "else"] Action.decoder

def RuleTask.record : Record RuleTask :=
  RuleTask.mk
    <$> Record.required ["ruleId", "targetRuleId", "rule_id"] Decoder.text
    <*> Record.optional ["inputMapping", "input", "input_mapping"]
      Decoder.document

namespace Task

/- Read a configuration by the decoder of its kind. -/
def read
    {α : Type}
    (kind : ActionKind)
    (decode : Decoder α)
    (config : Document) :
    Except ActionFault α :=
  match decode .plain config.node with
  | .ok a => .ok a
  | .error fault =>
      .error (.configuration
        ("Invalid " ++ kind.name ++ " config: " ++ fault.message .null))

/- The task that a configuration describes; null configures nothing. -/
def ofConfig
    (kind : ActionKind)
    (config : Document) :
    Except ActionFault Task :=
  let config := if config.isNull then .object [] else config
  match kind with
  | .triggerModel =>
      (read kind (ModelTask.record.decoder "struct TriggerModelConfig")
        config).map .model
  | .sendNotification =>
      (read kind (NoticeTask.record.decoder "struct NotificationConfig")
        config).map .notice
  | .callWebhook =>
      (read kind WebhookRequest.decoder config).map .webhook
  | .storeData =>
      (read kind (StoreTask.record.decoder "struct StoreDataConfig")
        config).map .store
  | .transformData =>
      (read kind (TransformTask.record.decoder "struct TransformConfig")
        config).map .transform
  | .branch =>
      (read kind (BranchTask.record.decoder "struct ConditionalConfig")
        config).map .branch
  | .triggerRule =>
      (read kind (RuleTask.record.decoder "struct TriggerRuleConfig")
        config).map .rule
  | .unsupported type => .ok (.unsupported type)

end Task

------------------------------------------------------------
-- Writing
------------------------------------------------------------

def ModelTask.document
    (task : ModelTask) :
    Document :=
  .record
    [("modelId", (task.model?.map .text).getD .null),
      ("inputMapping", task.input?.getD .null)]

def Recipients.document : Recipients → Document
  | .list addresses => .array (addresses.map .text)
  | .joined addresses => .text addresses

def NoticeTask.document
    (task : NoticeTask) :
    Document :=
  .record
    ([("message", .text task.message),
      ("recipients", task.recipients.document)] ++
      Document.entryOf "subject" (task.subject?.map .text) ++
      Document.entryOf "channel" (task.channel?.map .text))

def StoreTask.document
    (task : StoreTask) :
    Document :=
  .record [("key", .text task.key), ("value", task.value)]

def Transform.document
    (transform : Transform) :
    Document :=
  .record
    [("source", .text transform.source),
      ("operation", .text transform.operation.name)]

def TransformTask.document
    (task : TransformTask) :
    Document :=
  .record
    [("transformations",
      .object (task.outputs.map fun (key, t) => (key, t.document)))]

def BranchTask.document
    (task : BranchTask) :
    Document :=
  .record
    ([("condition", task.condition.document)] ++
      Document.entryOf "thenAction"
        (task.thenAction?.map (·.document)) ++
      Document.entryOf "elseAction"
        (task.elseAction?.map (·.document)))

def RuleTask.document
    (task : RuleTask) :
    Document :=
  .record
    [("ruleId", .text task.rule),
      ("inputMapping", task.input?.getD .null)]

def Task.document : Task → Document
  | .model task => task.document
  | .notice task => task.document
  | .webhook request => request.document
  | .store task => task.document
  | .transform task => task.document
  | .branch task => task.document
  | .rule task => task.document
  | .unsupported type => .record [("unsupported", .text type)]

end Automation
