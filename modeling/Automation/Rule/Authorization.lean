import Automation.Rule.Validity

/-
  The gate before a run that a webhook asks for.

  A call is let through when the rule takes webhook calls, the secret is
  right, and every required field of the payload has a value.  The checks
  are made in this order, so that a caller without the secret learns
  nothing about the fields.

  Key definitions include:
    * `Rejection`, why a run is not started
    * `Rule.authorize`, the gate
-/

namespace Automation

inductive Rejection where
  | ruleNotFound (id : String)
  | ruleInactive (id : String)
  | invalidToken (id : String)
  | webhookNotEnabled (id : String)
  | missingField (name : String)
  | invalidRule (fault : RuleFault)
  | storeFailed (reason : String)
deriving DecidableEq, Inhabited

namespace Rejection

def message : Rejection → String
  | .ruleNotFound id => "Rule not found: " ++ id
  | .ruleInactive id => "Rule is inactive: " ++ id
  | .invalidToken id => "Invalid webhook token for rule " ++ id
  | .webhookNotEnabled id =>
      "Rule " ++ id ++ " does not accept webhook triggers"
  | .missingField name => "Missing required input field: " ++ name
  | .invalidRule fault => "Invalid rule: " ++ fault.message
  | .storeFailed reason => "Rule store error: " ++ reason

end Rejection

namespace Document

/- Follow keys into objects. -/
def follow
    (d : Document) :
    List String → Option Document
  | [] => some d
  | key :: rest =>
      match d.entry? key with
      | some inner => inner.follow rest
      | none => none

/- Whether a dotted path leads through objects to a value. -/
def hasField
    (payload : Document)
    (path : String) :
    Bool :=
  match payload.follow (Text.splitOn '.' path) with
  | some value => !value.isNull
  | none => false

end Document

namespace InputSchema

/- The first required field that a payload lacks. -/
def missingField?
    (schema : InputSchema)
    (payload : Document) :
    Option String :=
  schema.requiredFields.find? fun name => !payload.hasField name

end InputSchema

namespace Rule

def authorize
    (rule : Rule)
    (token : String)
    (payload : Document) :
    Except Rejection Unit :=
  if rule.trigger.kind ≠ .webhook then
    .error (.webhookNotEnabled rule.id)
  else
    match rule.trigger.secret? with
    | none => .error (.webhookNotEnabled rule.id)
    | some secret =>
        if secret ≠ token then .error (.invalidToken rule.id)
        else
          match rule.trigger.schema?.bind (·.missingField? payload) with
          | some name => .error (.missingField name)
          | none => .ok ()

end Rule

end Automation
