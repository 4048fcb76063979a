import Automation.Activity

/-
  Steps at any depth, and the steps that a deadline leaves.

  A step is taken among some steps when it is one of them, or is taken in
  a branch of one of them.  A deadline leaves the steps up to the first
  that it ends, and of that step it only changes the wait.

  Key definitions include:
    * `Step.Occurs`, a step that is taken at any depth
    * `stepsBy`, the steps that a deadline leaves
    * `Unbranched`, steps without branches

  Key theorems include:
    * `stepsBy_call_cases` and `stepsBy_fan_cases`, what a deadline makes
      of a step and those after it
    * `Step.overAt_le_of_cut?_eq_none`, a step it does not end is over
    * `occurs_of_stepsBy`, a deadline adds no step
-/

namespace Automation

------------------------------------------------------------
-- Steps At Any Depth
------------------------------------------------------------

namespace Step

/- The time at which a step is taken. -/
def time : Step → Nat
  | .call time _ _ _ => time
  | .milestone time _ => time
  | .fan time _ _ _ _ => time

/- The time at which a step is over. -/
def overAt
    (step : Step) :
    Nat :=
  step.resume?.getD step.time

/- A step that is one of some steps, or is taken in a branch of one. -/
inductive Occurs
    (step : Step) :
    List Step → Prop
  | head
      {rest : List Step} :
      Occurs step (step :: rest)
  | tail
      {other : Step}
      {rest : List Step}
      (hRest : Occurs step rest) :
      Occurs step (other :: rest)
  | branch
      {time permits limit : Nat}
      {branches : List (Nat × List Step)}
      {pause : Pause}
      {rest : List Step}
      {branch : Nat × List Step}
      (hBranch : branch ∈ branches)
      (hOccurs : Occurs step branch.2) :
      Occurs step (.fan time permits limit branches pause :: rest)

theorem not_occurs_nil
    {step : Step} :
    ¬ step.Occurs [] := by
  intro hOccurs
  cases hOccurs

theorem occurs_append
    {step : Step}
    {earlier later : List Step} :
    step.Occurs (earlier ++ later) ↔
      step.Occurs earlier ∨ step.Occurs later := by
  induction earlier with
  | nil =>
      simp [not_occurs_nil]
  | cons first rest ih =>
      constructor
      · intro hOccurs
        cases hOccurs with
        | head => exact Or.inl .head
        | tail hRest =>
            rcases ih.mp hRest with hEarlier | hLater
            · exact Or.inl (.tail hEarlier)
            · exact Or.inr hLater
        | branch hBranch hOccurs =>
            exact Or.inl (.branch hBranch hOccurs)
      · intro hOccurs
        rcases hOccurs with hEarlier | hLater
        · cases hEarlier with
          | head => exact .head
          | tail hRest =>
              exact .tail (ih.mpr (Or.inl hRest))
          | branch hBranch hOccurs =>
              exact .branch hBranch hOccurs
        · exact .tail (ih.mpr (Or.inr hLater))

theorem Occurs.of_mem
    {step : Step}
    {steps : List Step}
    (hStep : step ∈ steps) :
    step.Occurs steps := by
  induction hStep with
  | head => exact .head
  | tail _ _ ih => exact .tail ih

/- What is taken in a branch of a step is taken with the step. -/
theorem Occurs.of_branch
    {step : Step}
    {time permits limit : Nat}
    {branches : List (Nat × List Step)}
    {pause : Pause}
    {branch : Nat × List Step}
    {steps : List Step}
    (hFan :
      (Step.fan time permits limit branches pause).Occurs
        steps)
    (hBranch : branch ∈ branches)
    (hOccurs : step.Occurs branch.2) :
    step.Occurs steps := by
  induction hFan with
  | head => exact .branch hBranch hOccurs
  | tail _ ih => exact .tail ih
  | branch hOuter _ ih => exact .branch hOuter ih

end Step

------------------------------------------------------------
-- The End Of Steps
------------------------------------------------------------

@[simp] theorem finishOf_nil
    (start : Nat) :
    finishOf start [] = start := rfl

@[simp] theorem finishOf_cons
    (start : Nat)
    (step : Step)
    (rest : List Step) :
    finishOf start (step :: rest) =
      finishOf (step.resume?.getD start) rest := rfl

@[simp] theorem finishOf_append
    (start : Nat)
    (earlier later : List Step) :
    finishOf start (earlier ++ later) =
      finishOf (finishOf start earlier) later := by
  simp [finishOf, List.foldl_append]

------------------------------------------------------------
-- The Steps That A Deadline Leaves
------------------------------------------------------------

/- Steps up to the one that a deadline ends, or all of them. -/
def stepsBy
    (deadline : Nat)
    (steps : List Step) :
    List Step :=
  (cutSteps? deadline steps).getD steps

@[simp] theorem stepsBy_nil
    (deadline : Nat) :
    stepsBy deadline [] = [] := rfl

theorem stepsBy_cons
    (deadline : Nat)
    (step : Step)
    (rest : List Step) :
    stepsBy deadline (step :: rest) =
      match step.cut? deadline with
      | some last => [last]
      | none => step :: stepsBy deadline rest := by
  cases hStep : step.cut? deadline with
  | some last => simp [stepsBy, cutSteps?, hStep]
  | none =>
      cases hRest : cutSteps? deadline rest <;>
        simp [stepsBy, cutSteps?, hStep, hRest]

/-
  A deadline ends a step of the earlier steps, or leaves all of them and
  what it leaves of the later ones.
-/
theorem stepsBy_append
    (deadline : Nat)
    (earlier later : List Step) :
    stepsBy deadline (earlier ++ later) =
        stepsBy deadline earlier ∨
      stepsBy deadline (earlier ++ later) =
        earlier ++ stepsBy deadline later := by
  induction earlier with
  | nil => exact Or.inr rfl
  | cons step rest ih =>
      rw [List.cons_append, stepsBy_cons, stepsBy_cons]
      cases step.cut? deadline with
      | some last => exact Or.inl rfl
      | none =>
          rcases ih with hEarlier | hLater
          · exact Or.inl (congrArg (step :: ·) hEarlier)
          · exact Or.inr (congrArg (step :: ·) hLater)

/- A deadline only changes the wait of the step that it ends. -/
theorem Step.cut?_cases
    {deadline : Nat}
    {step last : Step}
    (hCut : step.cut? deadline = some last) :
    (∃ time call due pause,
      step = .call time call due (some pause) ∧
        last =
          .call time call due (some (.cutAt time deadline))) ∨
      ∃ time permits limit branches pause,
        step = .fan time permits limit branches pause ∧
          last =
            .fan time permits limit branches
              (.cutAt time deadline) := by
  cases step with
  | call time call due pause? =>
      cases pause? with
      | none => cases hCut
      | some pause =>
          simp only [Step.cut?] at hCut
          split at hCut
          · cases hCut
            exact Or.inl ⟨time, call, due, pause, rfl, rfl⟩
          · cases hCut
  | milestone => cases hCut
  | fan time permits limit branches pause =>
      simp only [Step.cut?] at hCut
      split at hCut
      · cases hCut
        exact Or.inr
          ⟨time, permits, limit, branches, pause, rfl, rfl⟩
      · cases hCut

/- A milestone takes no time, so a deadline leaves it. -/
theorem stepsBy_milestone
    (deadline time : Nat)
    (milestone : Milestone)
    (rest : List Step) :
    stepsBy deadline (.milestone time milestone :: rest) =
      .milestone time milestone :: stepsBy deadline rest := by
  rw [stepsBy_cons]
  rfl

theorem stepsBy_call_cases
    (deadline time due : Nat)
    (call : Call)
    (pause? : Option Pause)
    (rest : List Step) :
    ((Step.call time call due pause?).cut? deadline = none ∧
      stepsBy deadline (.call time call due pause? :: rest) =
        .call time call due pause? :: stepsBy deadline rest) ∨
      stepsBy deadline (.call time call due pause? :: rest) =
        [.call time call due
          (some (.cutAt time deadline))] := by
  rw [stepsBy_cons]
  cases hCut :
      (Step.call time call due pause?).cut? deadline with
  | none => exact Or.inl ⟨rfl, rfl⟩
  | some last =>
      rcases Step.cut?_cases hCut with
        ⟨_, _, _, _, hStep, rfl⟩ | ⟨_, _, _, _, _, hStep, _⟩
      · cases hStep
        exact Or.inr rfl
      · cases hStep

theorem stepsBy_fan_cases
    (deadline time permits limit : Nat)
    (branches : List (Nat × List Step))
    (pause : Pause)
    (rest : List Step) :
    stepsBy deadline
        (.fan time permits limit branches pause :: rest) =
        .fan time permits limit branches pause ::
          stepsBy deadline rest ∨
      stepsBy deadline
          (.fan time permits limit branches pause :: rest) =
        [.fan time permits limit branches
          (.cutAt time deadline)] := by
  rw [stepsBy_cons]
  cases hCut :
      (Step.fan time permits limit branches pause).cut?
        deadline with
  | none => exact Or.inl rfl
  | some last =>
      rcases Step.cut?_cases hCut with
        ⟨_, _, _, _, hStep, _⟩ | ⟨_, _, _, _, _, hStep, rfl⟩
      · cases hStep
      · cases hStep
        exact Or.inr rfl

/- A step that a deadline does not end is over by the deadline. -/
theorem Step.overAt_le_of_cut?_eq_none
    {deadline : Nat}
    {step : Step}
    (hCut : step.cut? deadline = none)
    (hTime : step.time ≤ deadline) :
    step.overAt ≤ deadline := by
  cases step with
  | call time call due pause? =>
      cases pause? with
      | none => simpa [Step.overAt, Step.resume?] using hTime
      | some pause =>
          have hNot :
              pause.overruns time deadline false = false := by
            simpa [Step.cut?] using hCut
          have hPause :
              ¬ (time < pause.resume ∧
                deadline < pause.resume) := by
            simpa [Pause.overruns] using hNot
          simp only [Step.time] at hTime
          simp only [Step.overAt, Step.resume?, Option.map_some,
            Option.getD_some]
          omega
  | milestone time milestone =>
      simpa [Step.overAt, Step.resume?] using hTime
  | fan time permits limit branches pause =>
      have hNot :
          pause.overruns time deadline true = false := by
        simpa [Step.cut?] using hCut
      simp only [Step.time] at hTime
      simp only [Step.overAt, Step.resume?, Option.getD_some]
      cases hPause : pause.cut <;>
        simp [Pause.overruns, hPause] at hNot <;> omega

/-
  A deadline adds no step: each was taken before, or is the step that the
  deadline ends.
-/
theorem occurs_of_stepsBy
    {deadline : Nat}
    {step : Step}
    {steps : List Step}
    (hOccurs : step.Occurs (stepsBy deadline steps)) :
    step.Occurs steps ∨
      ∃ other : Step,
        other.Occurs steps ∧
          other.cut? deadline = some step := by
  induction steps with
  | nil => exact Or.inl hOccurs
  | cons first rest ih =>
      rw [stepsBy_cons] at hOccurs
      cases hCut : first.cut? deadline with
      | none =>
          simp only [hCut] at hOccurs
          cases hOccurs with
          | head => exact Or.inl .head
          | tail hRest =>
              rcases ih hRest with hRest | ⟨other, hOther, hStep⟩
              · exact Or.inl (.tail hRest)
              · exact Or.inr ⟨other, .tail hOther, hStep⟩
          | branch hBranch hInner =>
              exact Or.inl (.branch hBranch hInner)
      | some last =>
          simp only [hCut] at hOccurs
          cases hOccurs with
          | head => exact Or.inr ⟨first, .head, hCut⟩
          | tail hRest =>
              exact absurd hRest Step.not_occurs_nil
          | branch hBranch hInner =>
              rcases Step.cut?_cases hCut with
                ⟨_, _, _, _, _, hLast⟩ |
                  ⟨_, _, _, _, _, rfl, hLast⟩
              · cases hLast
              · cases hLast
                exact Or.inl (.branch hBranch hInner)

theorem milestone_occurs_of_stepsBy
    {deadline time : Nat}
    {milestone : Milestone}
    {steps : List Step}
    (hOccurs :
      (Step.milestone time milestone).Occurs
        (stepsBy deadline steps)) :
    (Step.milestone time milestone).Occurs steps := by
  rcases occurs_of_stepsBy hOccurs with
    hSteps | ⟨other, _, hCut⟩
  · exact hSteps
  · rcases Step.cut?_cases hCut with
      ⟨_, _, _, _, _, hStep⟩ | ⟨_, _, _, _, _, _, hStep⟩
    · cases hStep
    · cases hStep

/- No branches are started among some steps. -/
def Unbranched
    (steps : List Step) : Prop :=
  ∀ time permits limit branches pause,
    ¬ (Step.fan time permits limit branches pause).Occurs
        steps

namespace Unbranched

variable {steps : List Step}

theorem nil :
    Unbranched [] := by
  intro time permits limit branches pause hOccurs
  exact Step.not_occurs_nil hOccurs

theorem append
    {later : List Step}
    (hSteps : Unbranched steps)
    (hLater : Unbranched later) :
    Unbranched (steps ++ later) := by
  intro time permits limit branches pause hOccurs
  rcases Step.occurs_append.mp hOccurs with hOccurs | hOccurs
  · exact hSteps _ _ _ _ _ hOccurs
  · exact hLater _ _ _ _ _ hOccurs

theorem milestone
    {time : Nat}
    {milestone : Milestone}
    (hSteps : Unbranched steps) :
    Unbranched (.milestone time milestone :: steps) := by
  intro fanTime permits limit branches pause hOccurs
  cases hOccurs with
  | tail hOccurs => exact hSteps _ _ _ _ _ hOccurs

theorem stepsBy
    (deadline : Nat)
    (hSteps : Unbranched steps) :
    Unbranched (stepsBy deadline steps) := by
  intro time permits limit branches pause hOccurs
  rcases occurs_of_stepsBy hOccurs with
    hOccurs | ⟨other, hOther, hCut⟩
  · exact hSteps _ _ _ _ _ hOccurs
  · rcases Step.cut?_cases hCut with
      ⟨_, _, _, _, _, hStep⟩ | ⟨_, _, _, _, _, rfl, _⟩
    · cases hStep
    · exact hSteps _ _ _ _ _ hOther

end Unbranched

end Automation
