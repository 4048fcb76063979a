import Automation.Proofs.Activities

/-
  Steps that go forward in time.

  Each step is taken when the one before is over, and is over no earlier
  than it is taken, whatever the deadlines are.  So steps that are over
  before a deadline are not ended by it, and steps that a deadline ends
  are over only then.

  Key definitions include:
    * `Forward`, steps that go forward from a time on

  Key theorems include:
    * `Forward.cutSteps?_eq_none`, a deadline after the last step
    * `deadline_le_finishOf_of_cut`, a deadline that ends a step
-/

namespace Automation

------------------------------------------------------------
-- Steps That A Deadline Ends
------------------------------------------------------------

/- A step that a deadline ends would be over no earlier, and is not. -/
theorem Step.deadline_le_overAt_of_cut
    {deadline : Nat}
    {step last : Step}
    (hCut : step.cut? deadline = some last) :
    deadline ≤ step.overAt ∧ deadline ≤ last.overAt := by
  rcases Step.cut?_cases hCut with
    ⟨time, call, due, pause, rfl, rfl⟩ |
      ⟨time, permits, limit, branches, pause, rfl, rfl⟩
  · refine ⟨?_, Nat.le_max_left _ _⟩
    simp only [Step.cut?] at hCut
    split at hCut
    · rename_i hOverruns
      have hLess :
          time < pause.resume ∧ deadline < pause.resume := by
        simpa [Pause.overruns] using hOverruns
      exact Nat.le_of_lt hLess.2
    · cases hCut
  · refine ⟨?_, Nat.le_max_left _ _⟩
    simp only [Step.cut?] at hCut
    split at hCut
    · rename_i hOverruns
      simp only [Step.overAt, Step.resume?, Option.getD_some]
      cases hCutOff : pause.cut <;>
        simp [Pause.overruns, hCutOff] at hOverruns <;> omega
    · cases hCut

/- Steps that a deadline ends are over no earlier. -/
theorem deadline_le_finishOf_of_cut
    {deadline start : Nat}
    {steps left : List Step}
    (hCut : cutSteps? deadline steps = some left) :
    deadline ≤ finishOf start left := by
  induction steps generalizing start left with
  | nil => cases hCut
  | cons step rest ih =>
      rw [cutSteps?] at hCut
      cases hStep : step.cut? deadline with
      | none =>
          simp only [hStep] at hCut
          rcases Option.map_eq_some_iff.mp hCut with
            ⟨later, hLater, rfl⟩
          rw [finishOf_cons]
          exact ih hLater
      | some last =>
          simp only [hStep] at hCut
          cases hCut
          have hOver := (Step.deadline_le_overAt_of_cut hStep).2
          rcases Step.cut?_cases hStep with
            ⟨_, _, _, _, _, rfl⟩ | ⟨_, _, _, _, _, _, rfl⟩ <;>
            exact hOver

------------------------------------------------------------
-- Going Forward
------------------------------------------------------------

inductive Forward : Nat → List Step → Prop
  | nil
      {time : Nat} :
      Forward time []
  | cons
      {time : Nat}
      {step : Step}
      {rest : List Step}
      (hTime : step.time = time)
      (hOver : time ≤ step.overAt)
      (hRest : Forward step.overAt rest) :
      Forward time (step :: rest)

theorem finishOf_cons_of_time
    {start : Nat}
    {step : Step}
    (hTime : step.time = start)
    (rest : List Step) :
    finishOf start (step :: rest) =
      finishOf step.overAt rest := by
  rw [finishOf_cons, Step.overAt, hTime]

namespace Forward

variable {start deadline : Nat}
variable {steps : List Step}

theorem le_finishOf
    (hSteps : Forward start steps) :
    start ≤ finishOf start steps := by
  induction hSteps with
  | nil => exact Nat.le_refl _
  | cons hTime hOver _ ih =>
      rw [finishOf_cons_of_time hTime]
      exact Nat.le_trans hOver ih

theorem append
    {later : List Step}
    (hSteps : Forward start steps)
    (hLater : Forward (finishOf start steps) later) :
    Forward start (steps ++ later) := by
  induction hSteps with
  | nil => exact hLater
  | cons hTime hOver _ ih =>
      rw [finishOf_cons_of_time hTime] at hLater
      exact .cons hTime hOver (ih hLater)

theorem milestone
    {milestone : Milestone}
    (hSteps : Forward start steps) :
    Forward start (.milestone start milestone :: steps) :=
  .cons rfl (Nat.le_refl _) hSteps

theorem announced
    (rule : String)
    (scope : Scope)
    (hSteps : Forward start steps) :
    Forward start (announcedSteps rule scope start steps) :=
  .milestone (hSteps.append (.milestone .nil))

theorem stepsBy
    (deadline : Nat)
    (hSteps : Forward start steps) :
    Forward start (stepsBy deadline steps) := by
  induction hSteps with
  | nil => exact .nil
  | @cons start step rest hTime hOver _ ih =>
      rw [stepsBy_cons]
      cases hCut : step.cut? deadline with
      | none => exact .cons hTime hOver ih
      | some last =>
          rcases Step.cut?_cases hCut with
            ⟨_, _, _, _, rfl, rfl⟩ |
              ⟨_, _, _, _, _, rfl, rfl⟩
          · exact .cons hTime
              (hTime ▸ Nat.le_max_right _ _) .nil
          · exact .cons hTime
              (hTime ▸ Nat.le_max_right _ _) .nil

/- Steps that are over before a deadline are not ended by it. -/
theorem cutSteps?_eq_none
    (hSteps : Forward start steps)
    (hFinish : finishOf start steps < deadline) :
    cutSteps? deadline steps = none := by
  induction hSteps with
  | nil => rfl
  | @cons start step rest hTime hOver hRest ih =>
      rw [finishOf_cons_of_time hTime] at hFinish
      have hStep : step.overAt < deadline :=
        Nat.lt_of_le_of_lt hRest.le_finishOf hFinish
      have hCut : step.cut? deadline = none := by
        cases hLast : step.cut? deadline with
        | none => rfl
        | some last =>
            have hOver :=
              (Step.deadline_le_overAt_of_cut hLast).1
            omega
      rw [cutSteps?, hCut]
      simp only [ih hFinish, Option.map_none]

end Forward

end Automation
