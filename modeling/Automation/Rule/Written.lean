import Automation.Rule

/-
  The written form of rules.

  Key definitions include:
    * `Rule.decoder` and `Rule.document`
    * `TriggerKind.ofName?`, a kind of trigger named in any letter case
-/

namespace Automation

------------------------------------------------------------
-- Modes And Triggers
------------------------------------------------------------

namespace Mode

def name : Mode → String
  | .sequential => "sequential"
  | .parallel => "parallel"

def decoder : Decoder Mode :=
  Decoder.enumeration
    [("sequential", .sequential), ("parallel", .parallel)]

end Mode

namespace TriggerKind

def name : TriggerKind → String
  | .manual => "manual"
  | .webhook => "webhook"
  | .chained => "chained"

def known : List (String × TriggerKind) :=
  [("manual", .manual), ("webhook", .webhook), ("chained", .chained)]

def decoder : Decoder TriggerKind := Decoder.enumeration known

/- The kind with a name, in any letter case. -/
def ofName?
    (s : String) :
    Except String TriggerKind :=
  let small := String.ofList (s.toList.map Char.toLower)
  match known.lookup small with
  | some kind => .ok kind
  | none => .error ("unknown trigger kind: " ++ small)

end TriggerKind

namespace InputField

def record : Record InputField :=
  InputField.mk
    <$> Record.required ["name"] Decoder.text
    <*> Record.optional ["type"] Decoder.text
    <*> Record.defaulted ["required"] Decoder.boolean false

def document
    (field : InputField) :
    Document :=
  .record
    ([("name", .text field.name), ("required", .bool field.required)] ++
      Document.entryOf "type" (field.type?.map .text))

end InputField

namespace InputSchema

def record : Record InputSchema :=
  InputSchema.mk
    <$> Record.defaulted ["fields"]
      (Decoder.listOf (InputField.record.decoder "struct InputField")) []

def document
    (schema : InputSchema) :
    Document :=
  .record [("fields", .array (schema.fields.map (·.document)))]

end InputSchema

namespace Trigger

def record : Record Trigger :=
  Trigger.mk
    <$> Record.defaulted ["type"] TriggerKind.decoder .manual
    <*> Record.optional ["webhookToken"] Decoder.text
    <*> Record.optional ["inputSchema"]
      (InputSchema.record.decoder "struct InputSchema")

def document
    (trigger : Trigger) :
    Document :=
  .record
    ([("type", .text trigger.kind.name)] ++
      Document.entryOf "webhookToken" (trigger.token?.map .text) ++
      Document.entryOf "inputSchema" (trigger.schema?.map (·.document)))

end Trigger

------------------------------------------------------------
-- Rules
------------------------------------------------------------

namespace Logic

def record : Record Logic :=
  Logic.mk
    <$> Record.defaulted ["conditions"] Condition.decoder .always
    <*> Record.defaulted ["actions"] (Decoder.listOf Action.decoder) []

def document
    (logic : Logic) :
    Document :=
  .record
    [("conditions", logic.condition.document),
      ("actions", .array (logic.actions.map (·.document)))]

end Logic

namespace Rule

def record : Record Rule :=
  Rule.mk
    <$> Record.required ["id"] Decoder.text
    <*> Record.defaulted ["userId"] Decoder.text ""
    <*> Record.required ["name"] Decoder.text
    <*> Record.optional ["description"] Decoder.text
    <*> Record.defaulted ["logic"]
      (Logic.record.decoder "struct RuleLogic") .none
    <*> Record.defaulted ["executionMode"] Mode.decoder .sequential
    <*> Record.defaulted ["triggerConfig"]
      (Trigger.record.decoder "struct TriggerConfig") .manual
    <*> Record.defaulted ["isActive"] Decoder.boolean true
    <*> Record.optional ["baseCost"] Decoder.word
    <*> Record.optional ["parentRuleId"] Decoder.text
    <*> Record.optional ["generatedModelId"] Decoder.text

def decoder : Decoder Rule :=
  record.decoder "struct Rule"

def document
    (rule : Rule) :
    Document :=
  .record
    ([("id", .text rule.id),
      ("userId", .text rule.user),
      ("name", .text rule.name),
      ("logic", rule.logic.document),
      ("executionMode", .text rule.mode.name),
      ("triggerConfig", rule.trigger.document),
      ("isActive", .bool rule.active)] ++
      Document.entryOf "description" (rule.description?.map .text) ++
      Document.entryOf "baseCost"
        (rule.baseCost?.map fun cost => .integer cost.toNat) ++
      Document.entryOf "parentRuleId" (rule.parent?.map .text) ++
      Document.entryOf "generatedModelId" (rule.model?.map .text))

end Rule

end Automation
