import Automation.Rule
import Automation.Text.Blank

/-
  What makes a rule fit to be loaded.

  Key definitions include:
    * `RuleFault`, what can be wrong with a rule
    * `Rule.validate`, the first fault of a rule
-/

namespace Automation

inductive RuleFault where
  | blankId
  | blankActionId (type : String)
  | repeatedActionId (id : String)
  | missingToken
deriving DecidableEq, Inhabited

namespace RuleFault

def message : RuleFault → String
  | .blankId => "rule id is empty"
  | .blankActionId type =>
      "action of type '" ++ type ++ "' has an empty id"
  | .repeatedActionId id => "duplicate action id '" ++ id ++ "'"
  | .missingToken => "webhook rules require a webhookToken"

end RuleFault

/- The first action whose id is blank or was seen before. -/
def validateActions :
    (seen : List String) → List Action → Except RuleFault Unit
  | _, [] => .ok ()
  | seen, action :: rest =>
      if Text.isBlankText action.id then
        .error (.blankActionId action.type)
      else if seen.contains action.id then
        .error (.repeatedActionId action.id)
      else validateActions (action.id :: seen) rest

namespace Trigger

/- The secret of the trigger, where it has one that is not empty. -/
def secret?
    (trigger : Trigger) :
    Option String :=
  trigger.token?.filter fun token => !token.isEmpty

end Trigger

namespace Rule

def validate
    (rule : Rule) :
    Except RuleFault Unit :=
  if Text.isBlankText rule.id then .error .blankId
  else
    match validateActions [] rule.logic.actions with
    | .error fault => .error fault
    | .ok () =>
        if rule.trigger.kind = .webhook ∧ rule.trigger.secret? = none then
          .error .missingToken
        else .ok ()

end Rule

end Automation
