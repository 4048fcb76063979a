import Automation.Rule
import Automation.Table

/-
  Rules under their ids.

  Key definitions include:
    * `RuleStore.ofRules`, in which a later rule replaces an earlier one
      with its id
    * `RuleStore.insert`
-/

namespace Automation

abbrev RuleStore := Table Rule

namespace RuleStore

def insert
    (store : RuleStore)
    (rule : Rule) :
    RuleStore :=
  Table.insert rule.id rule store

def ofRules
    (rules : List Rule) :
    RuleStore :=
  rules.foldl insert []

end RuleStore

end Automation
