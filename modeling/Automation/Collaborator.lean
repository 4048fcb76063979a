import Automation.Decoding.Record
import Automation.Rule
import Automation.Action

/-
  The parties outside the library that actions turn to.

  A model answers with a document, a notifier takes a message, and a
  webhook answers with a status and a body.  A collaborator answers after
  some time; it may also fail or crash.  What it does may differ from one
  time to the next, for the same request.

  Key definitions include:
    * `ModelRequest`, `Notification` and `WebhookRequest`
    * `Call`, a request to one of the three
    * `Reply`, and `Collaborators`
-/

namespace Automation

------------------------------------------------------------
-- Requests
------------------------------------------------------------

structure ModelRequest where
  model : String
  input : Document
  rule : String
  user : String
deriving Inhabited

structure Notification where
  recipients : List String
  subject? : Option String
  message : String
  channel? : Option String
  rule : String
  user : String
deriving Inhabited

inductive Method where
  | get
  | post
  | put
  | patch
  | delete
deriving DecidableEq, Inhabited

structure WebhookRequest where
  url : String
  method : Method
  headers : Table String
  payload? : Option Document
deriving Inhabited

inductive Call where
  | model (request : ModelRequest)
  | notifier (notification : Notification)
  | webhook (request : WebhookRequest)
deriving Inhabited

------------------------------------------------------------
-- Replies
------------------------------------------------------------

structure WebhookResponse where
  status : Nat
  body : Document
deriving Inhabited

namespace WebhookResponse

def isSuccess
    (response : WebhookResponse) :
    Bool :=
  200 ≤ response.status ∧ response.status < 300

end WebhookResponse

inductive CollaboratorFault where
  | notConfigured (name : String)
  | http (reason : String)
  | failed (reason : String)
deriving DecidableEq, Inhabited

namespace CollaboratorFault

def message : CollaboratorFault → String
  | .notConfigured name => name ++ " is not configured"
  | .http reason => "HTTP error: " ++ reason
  | .failed reason => reason

end CollaboratorFault

/- What is left of a crash: its message, when it had one. -/
structure Crash where
  message? : Option String
deriving DecidableEq, Inhabited

inductive Outcome (α : Type) where
  | answered (value : α)
  | failed (fault : CollaboratorFault)
  | crashed (crash : Crash)
deriving Inhabited

/- An outcome, and the milliseconds it takes. -/
structure Reply (α : Type) where
  delay : Nat
  outcome : Outcome α
deriving Inhabited

namespace Reply

variable {α : Type}

def answer
    (value : α) :
    Reply α :=
  ⟨0, .answered value⟩

def fail
    (fault : CollaboratorFault) :
    Reply α :=
  ⟨0, .failed fault⟩

end Reply

structure Collaborators where
  model : (time : Nat) → ModelRequest → Reply Document
  notify : (time : Nat) → Notification → Reply Unit
  webhook : (time : Nat) → WebhookRequest → Reply WebhookResponse
  /- Looking up a rule takes no time. -/
  rule : String → Except CollaboratorFault (Option Rule)

namespace Collaborators

/- Models as long as none are configured. -/
def noModel
    (_ : Nat)
    (_ : ModelRequest) :
    Reply Document :=
  .fail (.notConfigured "model executor")

end Collaborators

------------------------------------------------------------
-- Written Form
------------------------------------------------------------

namespace Method

def name : Method → String
  | .get => "GET"
  | .post => "POST"
  | .put => "PUT"
  | .patch => "PATCH"
  | .delete => "DELETE"

def decoder : Decoder Method :=
  Decoder.enumeration
    [("GET", .get), ("POST", .post), ("PUT", .put), ("PATCH", .patch),
      ("DELETE", .delete)]

end Method

def ModelRequest.document
    (request : ModelRequest) :
    Document :=
  .record
    [("modelId", .text request.model),
      ("input", request.input),
      ("ruleId", .text request.rule),
      ("userId", .text request.user)]

def Notification.document
    (notification : Notification) :
    Document :=
  .record
    ([("recipients", .array (notification.recipients.map .text)),
      ("message", .text notification.message),
      ("ruleId", .text notification.rule),
      ("userId", .text notification.user)] ++
      Document.entryOf "subject" (notification.subject?.map .text) ++
      Document.entryOf "channel" (notification.channel?.map .text))

namespace WebhookRequest

def record : Record WebhookRequest :=
  WebhookRequest.mk
    <$> Record.required ["url"] Decoder.text
    <*> Record.defaulted ["method"] Method.decoder .post
    <*> Record.defaulted ["headers"] (Decoder.tableOf Decoder.text) []
    <*> Record.optional ["payload", "body"] Decoder.document

def decoder : Decoder WebhookRequest :=
  record.decoder "struct WebhookRequest"

def document
    (request : WebhookRequest) :
    Document :=
  .record
    ([("url", .text request.url),
      ("method", .text request.method.name),
      ("headers",
        .object (request.headers.map fun (key, s) => (key, .text s)))] ++
      Document.entryOf "payload" request.payload?)

end WebhookRequest

def WebhookResponse.document
    (response : WebhookResponse) :
    Document :=
  .record
    [("status", .integer response.status), ("body", response.body)]

namespace Call

/- The collaborator that a call is made to. -/
def target : Call → String
  | .model _ => "model"
  | .notifier _ => "notifier"
  | .webhook _ => "webhook"

def document : Call → Document
  | .model request => request.document
  | .notifier notification => notification.document
  | .webhook request => request.document

end Call

end Automation
