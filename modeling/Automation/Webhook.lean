import Automation.Collaborator
import Automation.Decoding.Json
import Automation.Webhook.Url

/-
  Webhook calls over a network.

  A request is checked before it is sent: the address must be one of a
  host, its scheme must be known, and the headers must be well formed.  The
  body of an answer is a document when it is the text of one, and else the
  text itself.

  Key definitions include:
    * `Webhook.prepare`, what is sent for a request
    * `Webhook.call`, the reply to a request on a network
-/

namespace Automation

namespace Webhook

------------------------------------------------------------
-- Requests
------------------------------------------------------------

/- What is sent over the network. -/
structure Message where
  url : Url
  method : Method
  headers : Table String
  body? : Option String
deriving Inhabited

inductive RequestFault where
  | malformed
  | badScheme (url : Url)
  | unreachable (url : Url)
deriving Inhabited

namespace RequestFault

def message : RequestFault → String
  | .malformed => "builder error"
  | .badScheme url => "builder error for url (" ++ url.text ++ ")"
  | .unreachable url =>
      "error sending request for url (" ++ url.text ++ ")"

end RequestFault

def isNameChar
    (c : Char) :
    Bool :=
  c.isAlphanum || "!#$%&'*+-.^_|~".toList.contains c || c = '\x60'

/- A header with a name, and with a value that has no controls. -/
def isHeader
    (header : String × String) :
    Bool :=
  !header.1.isEmpty && header.1.toList.all isNameChar &&
    header.2.toList.all fun c =>
      c = '\t' || (32 ≤ c.toNat && c.toNat ≠ 127)

/- The headers of a message: the type of a document is stated. -/
def messageHeaders
    (request : WebhookRequest) :
    Table String :=
  let named := request.headers.map fun (name, value) =>
    (String.ofList (name.toList.map Char.toLower), value)
  match request.payload? with
  | none => named
  | some (.string _) => named
  | some _ =>
      if (Table.find? named "content-type").isSome then named
      else Table.insert "content-type" "application/json" named

/- A string is sent as it is, any other document as its compact text. -/
def messageBody? : Option Document → Option String
  | none => none
  | some (.string s) => some s
  | some d => some d.compact

/- What is sent for a request. -/
def prepare
    (request : WebhookRequest) :
    Except RequestFault Message :=
  match Url.ofText? request.url with
  | none => .error .malformed
  | some url =>
      if url.host? = none then .error (.badScheme url)
      else if !request.headers.all isHeader then .error .malformed
      else if url.scheme ≠ "http" ∧ url.scheme ≠ "https" then
        .error (.badScheme { url with credentials? := none })
      else
        .ok
          { url := { url with credentials? := none }
            method := request.method
            headers := messageHeaders request
            body? := messageBody? request.payload? }

------------------------------------------------------------
-- Answers
------------------------------------------------------------

/- The body of an answer with the given text. -/
def bodyOf
    (s : String) :
    Document :=
  match Json.decode Decoder.document s with
  | .ok d => d
  | .error _ => .text s

/-
  What a network answers to a message: a status, and the text of a body.
-/
abbrev Network := Message → Option (Nat × String)

/- A network that reaches nobody. -/
def noNetwork : Network := fun _ => none

/- The reply to a request on a network. -/
def call
    (network : Network)
    (request : WebhookRequest) :
    Reply WebhookResponse :=
  match prepare request with
  | .error fault => .fail (.http fault.message)
  | .ok message =>
      match network message with
      | some (status, body) => .answer ⟨status, bodyOf body⟩
      | none =>
          .fail (.http (RequestFault.unreachable message.url).message)

end Webhook

end Automation
