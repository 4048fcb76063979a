import Automation.Action
import Automation.Condition

/-
  Rules: a condition on the input, and the actions to carry out when it
  holds.

  Key definitions include:
    * `Rule`, with its `Logic`, `Mode` and `Trigger`
    * `Rule.basic`, a rule with nothing but a name and its logic
    * `Rule.cloneAs`, a copy that remembers where it came from
-/

namespace Automation

/- How the actions of a rule are carried out. -/
inductive Mode where
  | sequential
  | parallel
deriving DecidableEq, Inhabited

/- What starts a run. -/
inductive TriggerKind where
  | manual
  | webhook
  | chained
deriving DecidableEq, Inhabited

/- A field that a webhook call may or must bring. -/
structure InputField where
  name : String
  type? : Option String
  required : Bool
deriving DecidableEq, Inhabited

structure InputSchema where
  fields : List InputField
deriving DecidableEq, Inhabited

structure Trigger where
  kind : TriggerKind
  /- The secret that a webhook call has to present. -/
  token? : Option String
  schema? : Option InputSchema
deriving DecidableEq, Inhabited

structure Logic where
  condition : Condition
  actions : List Action
deriving Inhabited

structure Rule where
  id : String
  user : String
  name : String
  description? : Option String
  logic : Logic
  mode : Mode
  trigger : Trigger
  active : Bool
  baseCost? : Option UInt64
  /- The rule that this one was cloned from. -/
  parent? : Option String
  /- The model that this rule is also published as. -/
  model? : Option String
deriving Inhabited

namespace InputSchema

/- The names of the fields that a call must bring. -/
def requiredFields
    (schema : InputSchema) :
    List String :=
  (schema.fields.filter (·.required)).map (·.name)

end InputSchema

def Trigger.manual : Trigger := ⟨.manual, none, none⟩

/- No condition, and nothing to do. -/
def Logic.none : Logic := ⟨.always, []⟩

namespace Rule

/- An active rule that is run by hand, one action after the other. -/
def basic
    (id name : String)
    (logic : Logic) :
    Rule where
  id := id
  user := ""
  name := name
  description? := none
  logic := logic
  mode := .sequential
  trigger := .manual
  active := true
  baseCost? := none
  parent? := none
  model? := none

/-
  A copy under another id.  It shares neither the secret nor the published
  model of the rule it is made from.
-/
def cloneAs
    (rule : Rule)
    (id name : String) :
    Rule :=
  { rule with
    id := id
    name := name
    parent? := some rule.id
    model? := none
    trigger := { rule.trigger with token? := none } }

end Rule

end Automation
