import Automation.Proofs.Chains

/-
  The bound on runs inside runs.

  What an action does depends on other runs only by the runs that the chain
  of its scope allows.  A scope that a run can have leaves enough of the
  bound on the nesting of runs, so the bound is never reached: every run
  below an outermost one is carried out in full.

  Key definitions include:
    * `RunChild.Agree`, ways to carry out runs that agree below a scope

  Key theorems include:
    * `Engine.runWithin_congr`, only the runs below a scope matter
    * `Engine.runBelow_eq`, a run below another is a run like any other
-/

namespace Automation

/- Two ways to carry out the runs that a scope allows are the same. -/
def RunChild.Agree
    (engine : Engine)
    (scope : Scope)
    (first second : RunChild) : Prop :=
  scope.depth + 1 ≤ engine.settings.maxChainDepth →
    ∀ rule input time,
      first rule input
          (scope.child rule engine.settings.runTimeout time) =
        second rule input
          (scope.child rule engine.settings.runTimeout time)

namespace Engine

variable {engine : Engine}
variable {scope : Scope}
variable {first second : RunChild}

theorem runRule_congr
    (hAgree : RunChild.Agree engine scope first second)
    (task : RuleTask)
    (context : Context) :
    engine.runRule first scope task context =
      engine.runRule second scope task context := by
  cases hRule : engine.chainedRule scope task.rule with
  | error fault =>
      rw [runRule_of_fault hRule, runRule_of_fault hRule]
  | ok rule =>
      have hDepth := (chainedRule_eq_ok hRule).2.1
      simp only [runRule, hRule, hAgree hDepth]

theorem runTask_congr
    (hAgree : RunChild.Agree engine scope first second)
    (execute :
      Action → Context → Activity (ActionResult × Context))
    (task : Task)
    (context : Context) :
    engine.runTask first scope execute task context =
      engine.runTask second scope execute task context := by
  cases task with
  | rule task =>
      simp only [runTask, runRule_congr hAgree]
  | _ => rfl

theorem executeWithin_congr
    (hAgree : RunChild.Agree engine scope first second)
    (depth : Nat) :
    engine.executeWithin first scope depth =
      engine.executeWithin second scope depth := by
  induction depth with
  | zero => rfl
  | succ depth ih =>
      funext action context
      simp only [executeWithin, ih, runTask_congr hAgree]

theorem dispatch_congr
    (hAgree : RunChild.Agree engine scope first second) :
    engine.dispatch first scope =
      engine.dispatch second scope := by
  funext action context
  simp only [dispatch, execute, executeWithin_congr hAgree]

/- A run depends on other runs only by those below its scope. -/
theorem runWithin_congr
    (hAgree : RunChild.Agree engine scope first second)
    (rule : Rule)
    (input : Document)
    (trigger : TriggerKind) :
    engine.runWithin first rule input trigger scope =
      engine.runWithin second rule input trigger scope := by
  simp only [runWithin, evaluateAndAct, dispatch_congr hAgree]

/- Any two bounds that a scope leaves something of will do. -/
theorem runChained_eq
    {bound other : Nat}
    (hDepth : scope.depth ≤ engine.settings.maxChainDepth)
    (hBound :
      engine.settings.maxChainDepth < scope.depth + bound)
    (hOther :
      engine.settings.maxChainDepth < scope.depth + other)
    (rule : Rule)
    (input : Document) :
    engine.runChained bound rule input scope =
      engine.runChained other rule input scope := by
  induction bound generalizing other scope rule input with
  | zero => omega
  | succ bound ih =>
      cases other with
      | zero => omega
      | succ other =>
          refine runWithin_congr ?_ rule input .chained
          intro hChild next nextInput time
          have hNext :
              (scope.child next engine.settings.runTimeout
                time).depth = scope.depth + 1 := rfl
          exact ih (by omega) (by omega) (by omega) next
            nextInput

/-
  A run below an outermost run is a run like any other: the runs below it
  are found in the same way.
-/
theorem runBelow_eq
    (hInner : 0 < scope.depth)
    (hDepth : scope.depth ≤ engine.settings.maxChainDepth)
    (rule : Rule)
    (input : Document) :
    engine.runBelow rule input scope =
      engine.runWithin engine.runBelow rule input .chained
        scope := by
  have hMore :
      engine.runBelow rule input scope =
        engine.runChained (engine.settings.maxChainDepth + 1)
          rule input scope :=
    runChained_eq hDepth (by omega) (by omega) rule input
  exact hMore

end Engine

end Automation
