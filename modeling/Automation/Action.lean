import Automation.Decoding.Record

/-
  Actions, as rules state them.

  An action has a type, a document that configures it, and says what a
  failure means for the actions after it.  The type is free text; it is
  looked up among the kinds of action when the action is carried out.

  Key definitions include:
    * `Action` and `Strategy`
    * `ActionKind.ofType`, the kind that a type names
    * `Action.decoder` and `Action.document`, the written form
-/

namespace Automation

------------------------------------------------------------
-- Actions
------------------------------------------------------------

/- Whether the actions after a failed one are still carried out. -/
inductive Strategy where
  | stop
  | «continue»
deriving DecidableEq, Inhabited

structure Action where
  id : String
  type : String
  config : Document
  strategy : Strategy
  /- The variable that receives the output. -/
  target? : Option String
deriving Inhabited

namespace Action

/- A failure of the action ends a sequential run. -/
def stopsOnFailure
    (action : Action) :
    Bool :=
  action.strategy = .stop

end Action

------------------------------------------------------------
-- Kinds Of Action
------------------------------------------------------------

inductive ActionKind where
  | triggerModel
  | sendNotification
  | callWebhook
  | storeData
  | transformData
  | branch
  | triggerRule
  | unsupported (type : String)
deriving DecidableEq, Inhabited

namespace ActionKind

def ofType : String → ActionKind
  | "trigger-model" => .triggerModel
  | "send-notification" => .sendNotification
  | "call-webhook" => .callWebhook
  | "store-data" => .storeData
  | "transform-data" => .transformData
  | "conditional" => .branch
  | "conditional-action" => .branch
  | "trigger-rule" => .triggerRule
  | type => .unsupported type

def name : ActionKind → String
  | .triggerModel => "trigger-model"
  | .sendNotification => "send-notification"
  | .callWebhook => "call-webhook"
  | .storeData => "store-data"
  | .transformData => "transform-data"
  | .branch => "conditional-action"
  | .triggerRule => "trigger-rule"
  | .unsupported type => type

def isSupported : ActionKind → Bool
  | .unsupported _ => false
  | _ => true

end ActionKind

def Action.kind
    (action : Action) :
    ActionKind :=
  .ofType action.type

------------------------------------------------------------
-- Written Form
------------------------------------------------------------

/- An entry of an object, for a part that may be absent. -/
def Document.entryOf
    (key : String) :
    Option Document → List (String × Document)
  | some value => [(key, value)]
  | none => []

namespace Strategy

def name : Strategy → String
  | .stop => "stop"
  | .continue => "continue"

def decoder : Decoder Strategy :=
  Decoder.enumeration [("stop", .stop), ("continue", .continue)]

/- A strategy stands in a record of its own. -/
def record : Record Strategy :=
  id <$> Record.defaulted ["strategy"] decoder .stop

end Strategy

namespace Action

def record : Record Action :=
  Action.mk
    <$> Record.required ["id"] Decoder.text
    <*> Record.required ["type"] Decoder.text
    <*> Record.defaulted ["config"] Decoder.document .null
    <*> Record.defaulted ["errorHandling"]
      (Strategy.record.decoder "struct ErrorHandling") .stop
    <*> Record.optional ["outputVariable"] Decoder.text

def decoder : Decoder Action :=
  record.decoder "struct ActionDefinition"

def document
    (action : Action) :
    Document :=
  .record
    ([("id", .text action.id),
      ("type", .text action.type),
      ("config", action.config),
      ("errorHandling",
        .record [("strategy", .text action.strategy.name)])] ++
      Document.entryOf "outputVariable" (action.target?.map .text))

end Action

end Automation
