import Automation.Proofs.Steps

/-
  Steps that are taken in order, and by a deadline.

  Steps are orderly when each is taken at the time the one before is over,
  none is taken after the deadline, and the wait for branches is over
  neither before the branches are nor after the deadline.  They are prompt
  when every call is made before the deadline, apart from those in branches
  that start only then.

  Key definitions include:
    * `Orderly` and `Prompt`
    * `CallsBefore` and `BranchesBefore`

  Key theorems include:
    * `Orderly.stepsBy`, what a deadline leaves is over by the deadline
    * `Orderly.time_of_occurs`, the times of steps at any depth
    * `callsBefore_iff`, when every call is made before the deadline
-/

namespace Automation

------------------------------------------------------------
-- Orderly Steps
------------------------------------------------------------

inductive Orderly
    (deadline : Nat) :
    Nat → List Step → Prop
  | nil
      {time : Nat} :
      Orderly deadline time []
  | call
      {time due : Nat}
      {call : Call}
      {pause? : Option Pause}
      {rest : List Step}
      (hTime : time ≤ deadline)
      (hOver :
        time ≤ (Step.call time call due pause?).overAt)
      (hRest :
        Orderly deadline
          (Step.call time call due pause?).overAt rest) :
      Orderly deadline time
        (.call time call due pause? :: rest)
  | milestone
      {time : Nat}
      {milestone : Milestone}
      {rest : List Step}
      (hTime : time ≤ deadline)
      (hRest : Orderly deadline time rest) :
      Orderly deadline time
        (.milestone time milestone :: rest)
  | fan
      {time permits limit : Nat}
      {branches : List (Nat × List Step)}
      {pause : Pause}
      {rest : List Step}
      (hTime : time ≤ pause.resume)
      (hPause : pause.resume ≤ deadline)
      (hCut : pause.cut = true → pause.resume = deadline)
      (hStart : ∀ branch ∈ branches, time ≤ branch.1)
      (hFinish :
        ∀ branch ∈ branches,
          finishOf branch.1 branch.2 ≤ pause.resume)
      (hBranches :
        ∀ branch ∈ branches,
          Orderly deadline branch.1 branch.2)
      (hRest : Orderly deadline pause.resume rest) :
      Orderly deadline time
        (.fan time permits limit branches pause :: rest)

namespace Orderly

variable {deadline start : Nat}
variable {step : Step}
variable {steps : List Step}

theorem le_finishOf
    (hSteps : Orderly deadline start steps) :
    start ≤ finishOf start steps := by
  induction hSteps with
  | nil => exact Nat.le_refl _
  | @call _ _ _ pause? _ _ hOver _ ih =>
      cases pause? <;> exact Nat.le_trans hOver ih
  | milestone _ _ ih => exact ih
  | fan hTime _ _ _ _ _ _ _ ih => exact Nat.le_trans hTime ih

theorem append
    {later : List Step}
    (hSteps : Orderly deadline start steps)
    (hLater :
      Orderly deadline (finishOf start steps) later) :
    Orderly deadline start (steps ++ later) := by
  induction hSteps with
  | nil => exact hLater
  | @call _ _ _ pause? _ hTime hOver _ ih =>
      refine .call hTime hOver (ih ?_)
      cases pause? <;> exact hLater
  | milestone hTime _ ih => exact .milestone hTime (ih hLater)
  | fan hTime hPause hCut hStart hFinish hBranches _ _ ih =>
      exact .fan hTime hPause hCut hStart hFinish hBranches
        (ih hLater)

/- From any step on, steps are orderly. -/
theorem exists_from
    (hSteps : Orderly deadline start steps)
    (hOccurs : step.Occurs steps) :
    ∃ rest, Orderly deadline step.time (step :: rest) := by
  induction hSteps with
  | nil => exact absurd hOccurs Step.not_occurs_nil
  | call hTime hOver hRest ih =>
      cases hOccurs with
      | head => exact ⟨_, .call hTime hOver hRest⟩
      | tail hOccurs => exact ih hOccurs
  | milestone hTime hRest ih =>
      cases hOccurs with
      | head => exact ⟨_, .milestone hTime hRest⟩
      | tail hOccurs => exact ih hOccurs
  | fan hTime hPause hCut hStart hFinish hBranches hRest
      ihBranches ih =>
      cases hOccurs with
      | head =>
          exact
            ⟨_, .fan hTime hPause hCut hStart hFinish
              hBranches hRest⟩
      | tail hOccurs => exact ih hOccurs
      | branch hBranch hOccurs =>
          exact ihBranches _ hBranch hOccurs

/-
  A step is taken neither before the first nor after the deadline, and is
  over when all steps are.
-/
theorem time_of_occurs
    (hSteps : Orderly deadline start steps)
    (hOccurs : step.Occurs steps) :
    start ≤ step.time ∧
      step.time ≤ deadline ∧
      step.time ≤ step.overAt ∧
      step.overAt ≤ finishOf start steps := by
  induction hSteps with
  | nil => exact absurd hOccurs Step.not_occurs_nil
  | @call _ _ _ pause? _ hTime hOver hRest ih =>
      have hFinish := hRest.le_finishOf
      cases hOccurs with
      | head =>
          cases pause? <;>
            exact ⟨Nat.le_refl _, hTime, hOver, hFinish⟩
      | tail hOccurs =>
          have hLater := ih hOccurs
          cases pause? <;>
            exact ⟨Nat.le_trans hOver hLater.1, hLater.2⟩
  | milestone hTime hRest ih =>
      cases hOccurs with
      | head =>
          exact ⟨Nat.le_refl _, hTime, Nat.le_refl _,
            hRest.le_finishOf⟩
      | tail hOccurs => exact ih hOccurs
  | fan hTime hPause _ hStart hFinish _ hRest ihBranches ih =>
      cases hOccurs with
      | head =>
          exact ⟨Nat.le_refl _, Nat.le_trans hTime hPause, hTime,
            hRest.le_finishOf⟩
      | tail hOccurs =>
          have hLater := ih hOccurs
          exact ⟨Nat.le_trans hTime hLater.1, hLater.2⟩
      | branch hBranch hOccurs =>
          have hInner := ihBranches _ hBranch hOccurs
          refine ⟨Nat.le_trans (hStart _ hBranch) hInner.1,
            hInner.2.1, hInner.2.2.1, ?_⟩
          calc
            step.overAt ≤ _ := hInner.2.2.2
            _ ≤ _ := hFinish _ hBranch
            _ ≤ _ := hRest.le_finishOf

/- What a deadline leaves is orderly, and over by the deadline. -/
theorem stepsBy
    (hSteps : Orderly deadline start steps)
    (hStart : start ≤ deadline) :
    Orderly deadline start (stepsBy deadline steps) ∧
      finishOf start (Automation.stepsBy deadline steps) ≤
        deadline := by
  induction hSteps with
  | nil => exact ⟨.nil, hStart⟩
  | @call time due call pause? rest hTime hOver _ ih =>
      rcases stepsBy_call_cases deadline time due call pause?
          rest with ⟨hCut, hLeft⟩ | hLeft
      · have hLater := ih
          (Step.overAt_le_of_cut?_eq_none hCut hTime)
        rw [hLeft]
        refine ⟨.call hTime hOver hLater.1, ?_⟩
        cases pause? <;> exact hLater.2
      · rw [hLeft]
        refine ⟨.call hTime ?_ .nil, ?_⟩
        · exact Nat.le_max_right _ _
        · exact Nat.max_le.mpr ⟨Nat.le_refl _, hTime⟩
  | @milestone time milestone rest hTime _ ih =>
      rw [stepsBy_milestone]
      exact ⟨.milestone hTime (ih hStart).1, (ih hStart).2⟩
  | @fan time permits limit branches pause rest hTime hPause
      hPauseCut hBranchStart hFinish hBranches _ _ ih =>
      rcases stepsBy_fan_cases deadline time permits limit
          branches pause rest with hLeft | hLeft
      · have hLater := ih hPause
        rw [hLeft]
        exact
          ⟨.fan hTime hPause hPauseCut hBranchStart hFinish
            hBranches hLater.1, hLater.2⟩
      · have hResume : max deadline time = deadline :=
          Nat.max_eq_left hStart
        rw [hLeft]
        refine
          ⟨.fan (Nat.le_max_right _ _) (Nat.le_of_eq hResume)
            (fun _ => hResume) hBranchStart ?_ hBranches .nil,
            Nat.le_of_eq hResume⟩
        intro branch hBranch
        calc
          finishOf branch.1 branch.2 ≤ pause.resume :=
            hFinish branch hBranch
          _ ≤ deadline := hPause
          _ ≤ max deadline time := Nat.le_max_left _ _

end Orderly

------------------------------------------------------------
-- Calls Before A Deadline
------------------------------------------------------------

/- Some collaborator is called, at any depth. -/
def HasCall
    (steps : List Step) : Prop :=
  ∃ time call due pause?,
    (Step.call time call due pause?).Occurs steps

/- Every call is made before a deadline, at any depth. -/
def CallsBefore
    (deadline : Nat)
    (steps : List Step) : Prop :=
  ∀ time call due pause?,
    (Step.call time call due pause?).Occurs steps →
      time < deadline

/- Every branch with a call starts before a deadline. -/
def BranchesBefore
    (deadline : Nat)
    (steps : List Step) : Prop :=
  ∀ time permits limit branches pause,
    (Step.fan time permits limit branches pause).Occurs
        steps →
      ∀ branch ∈ branches,
        HasCall branch.2 → branch.1 < deadline

theorem Unbranched.branchesBefore
    {steps : List Step}
    (hSteps : Unbranched steps)
    (deadline : Nat) :
    BranchesBefore deadline steps := by
  intro time permits limit branches pause hFan
  exact absurd hFan (hSteps _ _ _ _ _)

------------------------------------------------------------
-- Prompt Steps
------------------------------------------------------------

inductive Prompt
    (deadline : Nat) :
    List Step → Prop
  | nil :
      Prompt deadline []
  | call
      {time due : Nat}
      {call : Call}
      {pause? : Option Pause}
      {rest : List Step}
      (hTime : time < deadline)
      (hRest : Prompt deadline rest) :
      Prompt deadline (.call time call due pause? :: rest)
  | milestone
      {time : Nat}
      {milestone : Milestone}
      {rest : List Step}
      (hRest : Prompt deadline rest) :
      Prompt deadline (.milestone time milestone :: rest)
  | fan
      {time permits limit : Nat}
      {branches : List (Nat × List Step)}
      {pause : Pause}
      {rest : List Step}
      (hBranches :
        ∀ branch ∈ branches,
          branch.1 < deadline → Prompt deadline branch.2)
      (hRest : Prompt deadline rest) :
      Prompt deadline
        (.fan time permits limit branches pause :: rest)

namespace Prompt

variable {deadline start : Nat}
variable {steps : List Step}

theorem append
    {later : List Step}
    (hSteps : Prompt deadline steps)
    (hLater : Prompt deadline later) :
    Prompt deadline (steps ++ later) := by
  induction hSteps with
  | nil => exact hLater
  | call hTime _ ih => exact .call hTime ih
  | milestone _ ih => exact .milestone ih
  | fan hBranches _ _ ih => exact .fan hBranches ih

theorem stepsBy
    (hSteps : Prompt deadline steps) :
    Prompt deadline (stepsBy deadline steps) := by
  induction hSteps with
  | nil => exact .nil
  | @call time due call pause? rest hTime _ ih =>
      rcases stepsBy_call_cases deadline time due call pause?
          rest with ⟨_, hLeft⟩ | hLeft
      · rw [hLeft]
        exact .call hTime ih
      · rw [hLeft]
        exact .call hTime .nil
  | milestone _ ih =>
      rw [stepsBy_milestone]
      exact .milestone ih
  | @fan time permits limit branches pause rest hBranches _ _
      ih =>
      rcases stepsBy_fan_cases deadline time permits limit
          branches pause rest with hLeft | hLeft
      · rw [hLeft]
        exact .fan hBranches ih
      · rw [hLeft]
        exact .fan hBranches .nil

/- Only branches that start too late make calls too late. -/
theorem callsBefore
    (hSteps : Prompt deadline steps)
    (hBranches : BranchesBefore deadline steps) :
    CallsBefore deadline steps := by
  induction hSteps with
  | nil =>
      intro time call due pause? hOccurs
      exact absurd hOccurs Step.not_occurs_nil
  | call hTime _ ih =>
      intro time call due pause? hOccurs
      cases hOccurs with
      | head => exact hTime
      | tail hOccurs =>
          refine ih ?_ time call due pause? hOccurs
          intro time permits limit branches pause hFan
          exact hBranches _ _ _ _ _ (.tail hFan)
  | milestone _ ih =>
      intro time call due pause? hOccurs
      cases hOccurs with
      | tail hOccurs =>
          refine ih ?_ time call due pause? hOccurs
          intro time permits limit branches pause hFan
          exact hBranches _ _ _ _ _ (.tail hFan)
  | fan hPrompt _ ihBranches ih =>
      intro time call due pause? hOccurs
      cases hOccurs with
      | tail hOccurs =>
          refine ih ?_ time call due pause? hOccurs
          intro time permits limit branches pause hFan
          exact hBranches _ _ _ _ _ (.tail hFan)
      | branch hBranch hOccurs =>
          have hStart :=
            hBranches _ _ _ _ _ .head _ hBranch
              ⟨time, call, due, pause?, hOccurs⟩
          refine
            ihBranches _ hBranch hStart ?_ time call due
              pause? hOccurs
          intro time permits limit branches pause hFan
          exact hBranches _ _ _ _ _ (.branch hBranch hFan)

end Prompt

/-
  Every call of orderly and prompt steps is made before the deadline just
  when no branch with a call starts only then.
-/
theorem callsBefore_iff
    {deadline start : Nat}
    {steps : List Step}
    (hOrderly : Orderly deadline start steps)
    (hPrompt : Prompt deadline steps) :
    CallsBefore deadline steps ↔
      BranchesBefore deadline steps := by
  constructor
  · intro hCalls time permits limit branches pause hFan
      branch hBranch hCall
    rcases hCall with ⟨callTime, call, due, pause?, hOccurs⟩
    have hBefore : callTime < deadline :=
      hCalls callTime call due pause?
        (.of_branch hFan hBranch hOccurs)
    rcases hOrderly.exists_from hFan with ⟨rest, hFrom⟩
    cases hFrom with
    | fan _ _ _ _ _ hBranches _ =>
        have hStart :=
          ((hBranches branch hBranch).time_of_occurs
            hOccurs).1
        exact Nat.lt_of_le_of_lt hStart hBefore
  · exact hPrompt.callsBefore

end Automation
