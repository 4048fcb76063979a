import Automation.Proofs.Deadlines

/-
  Waits that can come to an end.

  A step may wait for an answer or for branches.  The answer is due when
  the wait is over, or later when a deadline ends the wait.  Branches share
  at least one permit, and a wait for them that a deadline ends is over by
  the deadline.

  Key definitions include:
    * `Joinable`, steps whose waits can come to an end

  Key theorems include:
    * `Joinable.stepsBy`, what a deadline leaves
    * `Joinable.fan_of_occurs`, the branches in the steps
    * `Unfolds.joinable`, the steps of every part of a run
    * `Engine.run_joinable`, the steps of an outermost run
-/

namespace Automation

inductive Joinable : Nat → List Step → Prop
  | nil
      {deadline : Nat} :
      Joinable deadline []
  | call
      {deadline time due : Nat}
      {call : Call}
      {pause? : Option Pause}
      {rest : List Step}
      (hDue :
        ∀ pause, pause? = some pause → pause.resume ≤ due)
      (hRest : Joinable deadline rest) :
      Joinable deadline (.call time call due pause? :: rest)
  | milestone
      {deadline time : Nat}
      {milestone : Milestone}
      {rest : List Step}
      (hRest : Joinable deadline rest) :
      Joinable deadline (.milestone time milestone :: rest)
  | fan
      {deadline time permits limit : Nat}
      {branches : List (Nat × List Step)}
      {pause : Pause}
      {rest : List Step}
      (hPermits : permits ≠ 0)
      (hSome : branches ≠ [])
      (hAdmitted : Admitted [time] branches)
      (hTime : time ≤ deadline)
      (hCut : pause.cut = true → pause.resume ≤ deadline)
      (hBranches :
        ∀ branch ∈ branches, Joinable limit branch.2)
      (hRest : Joinable deadline rest) :
      Joinable deadline
        (.fan time permits limit branches pause :: rest)

namespace Joinable

variable {deadline : Nat}
variable {steps : List Step}

theorem append
    {later : List Step}
    (hSteps : Joinable deadline steps)
    (hLater : Joinable deadline later) :
    Joinable deadline (steps ++ later) := by
  induction hSteps with
  | nil => exact hLater
  | call hDue _ ih => exact .call hDue (ih hLater)
  | milestone _ ih => exact .milestone (ih hLater)
  | fan hPermits hSome hAdmitted hTime hCut hBranches _ _ ih =>
      exact
        .fan hPermits hSome hAdmitted hTime hCut hBranches
          (ih hLater)

/- A deadline only ends waits sooner. -/
theorem stepsBy
    (hSteps : Joinable deadline steps) :
    Joinable deadline (stepsBy deadline steps) := by
  induction hSteps with
  | nil => exact .nil
  | @call deadline time due call pause? rest hDue _ ih =>
      rw [stepsBy_cons]
      cases hStep :
          (Step.call time call due pause?).cut? deadline with
      | none => exact .call hDue ih
      | some last =>
          cases pause? with
          | none => cases hStep
          | some pause =>
              simp only [Step.cut?] at hStep
              split at hStep
              · rename_i hOverruns
                cases hStep
                have hLate :
                    time < pause.resume ∧
                      deadline < pause.resume := by
                  simpa [Pause.overruns] using hOverruns
                have hAnswer := hDue pause rfl
                refine .call ?_ .nil
                intro other hOther
                cases hOther
                exact Nat.max_le.mpr ⟨by omega, by omega⟩
              · cases hStep
  | milestone _ ih =>
      rw [stepsBy_milestone]
      exact .milestone ih
  | @fan deadline time permits limit branches pause rest
      hPermits hSome hAdmitted hTime hCut hBranches _ _ ih =>
      rcases stepsBy_fan_cases deadline time permits limit
          branches pause rest with hLeft | hLeft
      · rw [hLeft]
        exact
          .fan hPermits hSome hAdmitted hTime hCut hBranches ih
      · rw [hLeft]
        refine
          .fan hPermits hSome hAdmitted hTime ?_ hBranches .nil
        intro _
        exact Nat.max_le.mpr ⟨Nat.le_refl _, hTime⟩

/- All branches get permits, also those inside of branches. -/
theorem fan_of_occurs
    {time permits limit : Nat}
    {branches : List (Nat × List Step)}
    {pause : Pause}
    (hSteps : Joinable deadline steps)
    (hOccurs :
      (Step.fan time permits limit branches pause).Occurs
        steps) :
    permits ≠ 0 ∧ Admitted [time] branches := by
  induction hSteps with
  | nil => exact absurd hOccurs Step.not_occurs_nil
  | call _ _ ih =>
      cases hOccurs with
      | tail hRest => exact ih hRest
  | milestone _ ih =>
      cases hOccurs with
      | tail hRest => exact ih hRest
  | fan hPermits _ hAdmitted _ _ _ _ ihBranches ihRest =>
      cases hOccurs with
      | head => exact ⟨hPermits, hAdmitted⟩
      | tail hRest => exact ihRest hRest
      | branch hBranch hInner =>
          exact ihBranches _ hBranch hInner

end Joinable

namespace Unfolds

variable {engine : Engine}
variable {part : Part}
variable {scope : Scope}
variable {start : Nat}
variable {steps : List Step}

/- The waits of a part of a run can come to an end. -/
theorem joinable
    (hUnfolds : Unfolds engine part scope start steps)
    (hCovers :
      scope.Covers engine.settings.runTimeout start) :
    Joinable scope.deadline steps := by
  induction hUnfolds with
  | idle => exact .nil
  | call call delay =>
      refine .call ?_ .nil
      intro pause hPause
      split at hPause
      · cases hPause
      · cases hPause
        exact Nat.le_refl _
  | @chained scope time id rule steps hRule hRun ih =>
      have hSteps := ih (hCovers.child _)
      rw [hCovers.child_deadline] at hSteps
      exact .milestone (hSteps.append (.milestone .nil))
  | within hExecution ih => exact (ih hCovers).stepsBy
  | finished => exact .nil
  | next hTime hFirst hRest ihFirst ihRest =>
      have hOrderly := hFirst.orderly hCovers
      have hLater :=
        hCovers.later hOrderly.1.le_finishOf
          (hOrderly.2 (by simp))
      exact (ihFirst hCovers).append (ihRest hLater)
  | still => exact .nil
  | sequential hSteps ih => exact ih hCovers
  | parallel hMode hPermits hSome hAdmitted hBranches hFinish
      hLast ih =>
      have hStarts := branch_covers hAdmitted hBranches hCovers
      refine
        .fan ?_ hSome hAdmitted hCovers.not_after ?_ ?_ .nil
      · rw [hPermits]
        exact permitsFor_ne_zero _ _
      · intro hCut
        cases hCut
      · intro branch hBranch
        exact ih branch hBranch (hStarts branch hBranch).2

end Unfolds

/- The waits of an outermost run can come to an end. -/
theorem Engine.run_joinable
    {engine : Engine}
    {rule : Rule}
    {input : Document}
    {trigger : TriggerKind}
    {activity : Activity Report}
    (hRun : engine.run rule input trigger = .ok activity)
    (start : Nat) :
    Joinable (start + engine.settings.runTimeout)
      (activity start).steps := by
  rcases run_spec hRun start with
    ⟨steps, report, hActivity, hUnfolds⟩
  have hCovers :=
    Scope.Covers.root rule engine.settings.runTimeout start
  have hSteps := hUnfolds.joinable hCovers
  rw [hActivity]
  exact .milestone (hSteps.append (.milestone .nil))

end Automation
