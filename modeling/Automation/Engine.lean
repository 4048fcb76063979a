import Automation.Activity
import Automation.Condition.Evaluation
import Automation.Report
import Automation.Scope
import Automation.Settings

/-
  What runs are carried out with.

  Key definitions include:
    * `Engine`, with its `Stamp`
    * `Setup`, an engine with any limit on the time of a run
    * `Context.forRun`, the values that a run starts with
-/

namespace Automation

/- What a report says of a run that the run does not decide. -/
structure Stamp where
  executionId : Identifier
  startedAt : Timestamp
  elapsedMs : UInt64
deriving DecidableEq, Inhabited

structure Engine where
  settings : Settings
  collaborators : Collaborators
  patterns : PatternLibrary
  stamp : Stamp
  /- Every deadline is a time that a clock can tell. -/
  timely : settings.runTimeout ≤ Clock.longest

/- What an engine is asked for, its timeout however long. -/
structure Setup where
  settings : Settings
  collaborators : Collaborators
  patterns : PatternLibrary
  stamp : Stamp

/-
  The engine of a setup.  No clock gets as far as the end of the longest
  timeout, so a longer one is no different where it has an end at all.
-/
def Setup.engine
    (setup : Setup) :
    Engine where
  settings :=
    { setup.settings with
      runTimeout := min setup.settings.runTimeout Clock.longest }
  collaborators := setup.collaborators
  patterns := setup.patterns
  stamp := setup.stamp
  timely := Nat.min_le_right _ _

/- Carry out a rule on an input within the scope of another run. -/
abbrev RunChild := Rule → Document → Scope → Activity Report

namespace Context

/- The fixed scope of a run. -/
def forRun
    (rule : Rule)
    (input : Document)
    (trigger : TriggerKind)
    (startedAt : Timestamp) :
    Context :=
  .ofFixed
    (Table.ofList
      [("input", input),
        ("trigger", .text trigger.name),
        ("rule",
          .record [("id", .text rule.id), ("name", .text rule.name)]),
        ("user", .record [("id", .text rule.user)]),
        ("timestamp", .text startedAt.textWithOffset)])

end Context

end Automation
