import Automation.Proofs.Rousing
import Automation.Proofs.Unfolding

/-
  As many permits as the cap allows.

  Wherever branches start among the steps of a run, at any depth, they
  share as many permits as there are branches, up to the cap, and one at
  least.  This holds of the steps that are left to the strands of a
  journal, whichever turns they have had.

  Key definitions include:
    * `Rationed`, steps whose branches share permits by the cap
    * `Journal.Rations`, journals with such steps left

  Key theorems include:
    * `Unfolds.rationed`, the steps of every part of a run
    * `Engine.run_rationed`, the steps of an outermost run
    * `Journal.Rations.turn`, what a turn leaves
-/

namespace Automation

def Rationed
    (cap : Nat)
    (steps : List Step) : Prop :=
  ∀ time permits limit branches pause,
    (Step.fan time permits limit branches pause).Occurs
        steps →
      permits = permitsFor cap branches.length

namespace Rationed

variable {cap : Nat}
variable {steps : List Step}

theorem nil
    (cap : Nat) :
    Rationed cap [] := by
  intro time permits limit branches pause hOccurs
  exact absurd hOccurs Step.not_occurs_nil

theorem append
    {later : List Step}
    (hSteps : Rationed cap steps)
    (hLater : Rationed cap later) :
    Rationed cap (steps ++ later) := by
  intro time permits limit branches pause hOccurs
  rcases Step.occurs_append.mp hOccurs with hOccurs | hOccurs
  · exact hSteps _ _ _ _ _ hOccurs
  · exact hLater _ _ _ _ _ hOccurs

theorem call
    {time due : Nat}
    {call : Call}
    {pause? : Option Pause}
    (hSteps : Rationed cap steps) :
    Rationed cap (.call time call due pause? :: steps) := by
  intro fanTime permits limit branches pause hOccurs
  cases hOccurs with
  | tail hRest => exact hSteps _ _ _ _ _ hRest

theorem milestone
    {time : Nat}
    {milestone : Milestone}
    (hSteps : Rationed cap steps) :
    Rationed cap (.milestone time milestone :: steps) := by
  intro fanTime permits limit branches pause hOccurs
  cases hOccurs with
  | tail hRest => exact hSteps _ _ _ _ _ hRest

theorem announced
    (rule : String)
    (scope : Scope)
    (start : Nat)
    (hSteps : Rationed cap steps) :
    Rationed cap (announcedSteps rule scope start steps) :=
  (hSteps.append (nil cap).milestone).milestone

theorem fan
    {time permits limit : Nat}
    {branches : List (Nat × List Step)}
    {pause : Pause}
    (hPermits : permits = permitsFor cap branches.length)
    (hBranches : ∀ branch ∈ branches, Rationed cap branch.2) :
    Rationed cap
      [.fan time permits limit branches pause] := by
  intro innerTime inner innerLimit others wait hOccurs
  cases hOccurs with
  | head => exact hPermits
  | tail hRest => exact absurd hRest Step.not_occurs_nil
  | branch hBranch hInner =>
      exact hBranches _ hBranch _ _ _ _ _ hInner

/- A deadline changes no permits. -/
theorem stepsBy
    (deadline : Nat)
    (hSteps : Rationed cap steps) :
    Rationed cap (stepsBy deadline steps) := by
  intro time permits limit branches pause hOccurs
  rcases occurs_of_stepsBy hOccurs with
    hOccurs | ⟨other, hOther, hCut⟩
  · exact hSteps _ _ _ _ _ hOccurs
  · rcases Step.cut?_cases hCut with
      ⟨_, _, _, _, _, hStep⟩ | ⟨_, _, _, _, _, rfl, hStep⟩
    · cases hStep
    · cases hStep
      exact hSteps _ _ _ _ _ hOther

theorem tail
    {step : Step}
    (hSteps : Rationed cap (step :: steps)) :
    Rationed cap steps :=
  fun _ _ _ _ _ hOccurs =>
    hSteps _ _ _ _ _ (.tail hOccurs)

/- The branches that start first, and the steps of each. -/
theorem head
    {time permits limit : Nat}
    {branches : List (Nat × List Step)}
    {pause : Pause}
    (hSteps :
      Rationed cap
        (.fan time permits limit branches pause :: steps)) :
    permits = permitsFor cap branches.length ∧
      ∀ branch ∈ branches, Rationed cap branch.2 :=
  ⟨hSteps _ _ _ _ _ .head,
    fun _ hBranch _ _ _ _ _ hOccurs =>
      hSteps _ _ _ _ _ (.branch hBranch hOccurs)⟩

end Rationed

------------------------------------------------------------
-- Runs
------------------------------------------------------------

theorem Unfolds.rationed
    {engine : Engine}
    {part : Part}
    {scope : Scope}
    {start : Nat}
    {steps : List Step}
    (hUnfolds : Unfolds engine part scope start steps) :
    Rationed engine.settings.maxParallelActions steps := by
  induction hUnfolds with
  | idle => exact .nil _
  | call => exact (Rationed.nil _).call
  | chained _ _ ih => exact ih.announced _ _ _
  | within _ ih => exact ih.stepsBy _
  | finished => exact .nil _
  | next _ _ _ ihFirst ihRest => exact ihFirst.append ihRest
  | still => exact .nil _
  | sequential _ ih => exact ih
  | parallel _ hPermits _ _ _ _ _ ih => exact .fan hPermits ih

theorem Engine.run_rationed
    {engine : Engine}
    {rule : Rule}
    {input : Document}
    {trigger : TriggerKind}
    {activity : Activity Report}
    (hRun : engine.run rule input trigger = .ok activity)
    (start : Nat) :
    Rationed engine.settings.maxParallelActions
      (activity start).steps := by
  rcases run_spec hRun start with
    ⟨steps, report, hActivity, hUnfolds⟩
  rw [hActivity]
  exact hUnfolds.rationed.announced _ _ _

------------------------------------------------------------
-- Turns
------------------------------------------------------------

namespace Journal

variable {j later : Journal}
variable {cap id : Nat}

def Rations
    (cap : Nat)
    (j : Journal) : Prop :=
  ∀ s ∈ j.strands, Rationed cap s.steps

namespace Rations

theorem of_same
    (hRations : j.Rations cap)
    (hStrands : later.strands = j.strands) :
    later.Rations cap := by
  rw [Journal.Rations, hStrands]
  exact hRations

theorem strand
    (hRations : j.Rations cap)
    (id : Nat) :
    Rationed cap (j.strand id).steps := by
  unfold Journal.strand List.getD
  cases hStrand : j.strands[id]? with
  | none => exact .nil cap
  | some s => exact hRations s (List.mem_of_getElem? hStrand)

theorem setStrand
    {s : Strand}
    (hRations : j.Rations cap)
    (hSteps : Rationed cap s.steps) :
    (j.setStrand id s).Rations cap := by
  intro other hOther
  rcases List.mem_or_eq_of_mem_set hOther with hOld | rfl
  · exact hRations other hOld
  · exact hSteps

theorem addStrand
    {s : Strand}
    (hRations : j.Rations cap)
    (hSteps : Rationed cap s.steps) :
    (j.addStrand s).Rations cap := by
  intro other hOther
  rw [addStrand_eq] at hOther
  rcases List.mem_append.mp hOther with hOld | hNew
  · exact hRations other hOld
  · rw [List.mem_singleton.mp hNew]
    exact hSteps

theorem spawn
    {groupId deadline position : Nat}
    {branches : List (Nat × List Step)}
    (hRations : j.Rations cap)
    (hBranches :
      ∀ branch ∈ branches,
        Rationed cap branch.2) :
    (Journal.spawn groupId deadline position branches
      j).Rations cap := by
  induction branches generalizing position j with
  | nil => exact hRations
  | cons branch rest ih =>
      rcases branch with ⟨start, steps⟩
      rw [spawn_cons]
      refine ih (hRations.addStrand ?_) ?_
      · exact hBranches _ List.mem_cons_self
      · exact fun other hOther =>
          hBranches other (List.mem_cons_of_mem _ hOther)

theorem addAlarm
    {resume : Nat}
    (hRations : j.Rations cap) :
    (j.addAlarm id resume).Rations cap := by
  unfold Journal.addAlarm
  dsimp only
  split
  · exact hRations
  · split
    · exact hRations
    · exact hRations.setStrand (hRations.strand id)

theorem finish
    (hRations : j.Rations cap) :
    (j.finish id).Rations cap := by
  have hRetired : (j.retire id).Rations cap :=
    hRations.setStrand (.nil cap)
  rw [finish_eq]
  split
  · exact hRetired
  · rw [passOn_eq]
    exact hRetired

theorem proceed
    {steps : List Step}
    (hRations : j.Rations cap)
    (hSteps : Rationed cap steps) :
    (Journal.proceed id steps j).Rations cap := by
  induction steps generalizing j with
  | nil => exact hRations.finish
  | cons step rest ih =>
      have hRest := hSteps.tail
      cases step with
      | call time call due pause? =>
          rcases proceed_call id time due call pause? rest j with
            hNext | ⟨pause, _, _, hNext⟩
          · rw [hNext]
            exact
              ih (hRations.of_same (release_strands _ _)) hRest
          · have hKept :
                ((j.note call).keep id rest
                  (.answer pause.resume)
                  (isModelCall call)).Rations cap :=
              hRations.setStrand hRest
            rw [hNext]
            exact addAlarm (hKept.of_same rfl)
      | milestone => exact ih hRations hRest
      | fan time permits limit branches pause =>
          have hOut :
              (j.branchOut id permits limit branches).Rations
                cap :=
            spawn hRations hSteps.head.2
          have hKept :
              ((j.branchOut id permits limit branches).keep id
                rest (.branches j.groups.length pause)
                false).Rations cap :=
            hOut.setStrand hRest
          rcases proceed_fan id time permits limit branches
              pause rest j with
            hNext | ⟨_, hNext | ⟨_, hNext⟩⟩
          · rw [hNext]
            exact ih hOut hRest
          · rw [hNext]
            exact hKept.addAlarm
          · rw [hNext]
            exact hKept

theorem poll
    (hRations : j.Rations cap)
    (id : Nat) :
    (j.poll id).Rations cap := by
  have hSteps := hRations.strand id
  have hPolled := polled_poll j id
  generalize j.poll id = next at hPolled ⊢
  cases hPolled with
  | finished => exact hRations
  | permitted => exact hRations.proceed hSteps
  | alone => exact hRations.proceed hSteps
  | queued =>
      exact Rations.setStrand (hRations.of_same rfl) hSteps
  | admitted =>
      exact proceed (hRations.of_same rfl) hSteps
  | answered =>
      exact
        proceed (hRations.of_same (release_strands _ _)) hSteps
  | unanswered => exact hRations
  | joined => exact proceed (hRations.of_same rfl) hSteps
  | unjoined => exact hRations

/- A turn leaves steps whose branches share permits by the cap. -/
theorem turn
    (hRations : j.Rations cap) :
    j.turn.Rations cap := by
  have hTurned := turned_turn j
  generalize j.turn = next at hTurned ⊢
  cases hTurned with
  | root =>
      refine poll ?_ 0
      exact hRations
  | branch =>
      refine poll ?_ _
      exact hRations
  | drained => exact hRations
  | timers =>
      rw [fire_eq]
      exact hRations
  | stuck => exact hRations

end Rations

end Journal

end Automation
