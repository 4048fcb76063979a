import Automation.Journal
import Mathlib.Data.List.Basic

/-
  What a strand does when it has its turn.

  A turn of the thread is given to strand 0, to a strand that is ready, or
  else to time.  A strand that has its turn takes the steps that are left
  to it, or waits on.  When it has taken the last, its permit goes to the
  first strand in the queue.

  Key definitions include:
    * `Journal.Polled`, what comes of the turn of a strand
    * `Journal.Turned`, what comes of a turn of the thread
    * `Journal.Stuck`, no strand is to be woken

  Key theorems include:
    * `Journal.proceed_call` and `Journal.proceed_fan`, one step
    * `Journal.polled_poll`, all that a strand can do
    * `Journal.turned_turn`, all that can come of a turn
-/

namespace Automation

------------------------------------------------------------
-- Strands And Groups
------------------------------------------------------------

/- The strand when it has taken its last step. -/
def Strand.over
    (s : Strand) :
    Strand :=
  { s with steps := [], waiting := .finished }

/- The strand when it waits for a permit. -/
def Strand.queued
    (s : Strand) :
    Strand :=
  { s with waiting := .permit }

/-
  The group when a branch is over: its permit goes to the first strand in
  the queue, or else is free.
-/
def Group.passing
    (g : Group)
    (position : Nat) :
    Group :=
  match g.queue with
  | [] =>
      { g with
        free := g.free + 1
        finished := g.finished.set position true }
  | _ :: rest =>
      { g with
        queue := rest
        finished := g.finished.set position true }

namespace Group

variable (g : Group)
variable (position : Nat)

@[simp] theorem passing_queue :
    (g.passing position).queue = g.queue.tail := by
  unfold passing
  split <;> rename_i hQueue <;> simp [hQueue]

@[simp] theorem passing_finished :
    (g.passing position).finished =
      g.finished.set position true := by
  unfold passing
  split <;> rfl

@[simp] theorem passing_joiner :
    (g.passing position).joiner = g.joiner := by
  unfold passing
  split <;> rfl

@[simp] theorem passing_awaiting :
    (g.passing position).awaiting = g.awaiting := by
  unfold passing
  split <;> rfl

/- A permit that is handed on is not free in between. -/
theorem passing_free
    {next : Nat}
    {rest : List Nat}
    (hQueue : g.queue = next :: rest) :
    (g.passing position).free = g.free := by
  unfold passing
  rw [hQueue]

theorem passing_free_of_empty
    (hQueue : g.queue = []) :
    (g.passing position).free = g.free + 1 := by
  unfold passing
  rw [hQueue]

end Group

namespace Journal

variable {j : Journal}
variable {id : Nat}

/- A branch that is to start. -/
def branchStrand
    (groupId deadline position : Nat)
    (steps : List Step) :
    Strand where
  steps := steps
  waiting := .turn
  asksModel := false
  group? := some (groupId, position)
  deadline := deadline
  hasAlarm := false

------------------------------------------------------------
-- A Strand That Has Taken Its Last Step
------------------------------------------------------------

/- The strand waits for nothing. -/
def retire
    (j : Journal)
    (id : Nat) :
    Journal :=
  (j.setStrand id (j.strand id).over).dropTimers id true

/- The permit of a branch goes to the first strand in the queue. -/
def passPermit
    (j : Journal)
    (groupId position : Nat) :
    Journal :=
  let passed :=
    j.setGroup groupId ((j.group groupId).passing position)
  match (j.group groupId).queue with
  | [] => passed
  | next :: _ => passed.wake next

/- A branch is over, and the strand that waits for it can go on. -/
def passOn
    (j : Journal)
    (groupId position : Nat) :
    Journal :=
  let passed := j.passPermit groupId position
  if (j.group groupId).awaiting = position then
    passed.wake (j.group groupId).joiner
  else passed

theorem passPermit_eq
    (j : Journal)
    (groupId position : Nat) :
    j.passPermit groupId position =
      match (j.group groupId).queue with
      | [] =>
          j.setGroup groupId
            { j.group groupId with
              free := (j.group groupId).free + 1
              finished :=
                (j.group groupId).finished.set position true }
      | next :: rest =>
          (j.setGroup groupId
            { j.group groupId with
              queue := rest
              finished :=
                (j.group groupId).finished.set position
                  true }).wake next := by
  unfold passPermit Group.passing
  dsimp only
  cases (j.group groupId).queue <;> rfl

theorem finish_eq
    (j : Journal)
    (id : Nat) :
    j.finish id =
      match (j.strand id).group? with
      | none => j.retire id
      | some (groupId, position) =>
          (j.retire id).passOn groupId position := by
  unfold finish passOn
  simp only [passPermit_eq]
  rfl

------------------------------------------------------------
-- Taking Steps
------------------------------------------------------------

/- Steps that are left to a strand, and what it waits for. -/
def keep
    (j : Journal)
    (id : Nat)
    (steps : List Step)
    (waiting : Waiting)
    (asksModel : Bool) :
    Journal :=
  j.setStrand id
    { j.strand id with
      steps := steps
      waiting := waiting
      asksModel := asksModel }

/- A strand that starts at the end of the others. -/
def addStrand
    (j : Journal)
    (s : Strand) :
    Journal :=
  { j with strands := j.strands ++ [s] }.wake j.strands.length

theorem spawn_cons
    (groupId deadline position start : Nat)
    (steps : List Step)
    (rest : List (Nat × List Step))
    (j : Journal) :
    spawn groupId deadline position ((start, steps) :: rest)
        j =
      spawn groupId deadline (position + 1) rest
        (j.addStrand
          (branchStrand groupId deadline position steps)) :=
  rfl

/- Branches of which none has started, and who waits for them. -/
def newGroup
    (id permits : Nat)
    (branches : List (Nat × List Step)) :
    Group where
  free := permits
  queue := []
  finished := branches.map fun _ => false
  joiner := id
  awaiting := 0

/- The branches of a group start. -/
def branchOut
    (j : Journal)
    (id permits deadline : Nat)
    (branches : List (Nat × List Step)) :
    Journal :=
  spawn j.groups.length deadline 0 branches
    { j with groups := j.groups ++ [newGroup id permits branches] }

theorem proceed_call_eq
    (id time due : Nat)
    (call : Call)
    (pause? : Option Pause)
    (rest : List Step)
    (j : Journal) :
    proceed id (.call time call due pause? :: rest) j =
      match pause? with
      | none =>
          proceed id rest
            ((j.note call).release (isModelCall call))
      | some pause =>
          if pause.resume ≤ j.time then
            proceed id rest
              ((j.note call).release (isModelCall call))
          else
            (((j.note call).keep id rest (.answer pause.resume)
                (isModelCall call)).addTimer
              ⟨due, id, false⟩).addAlarm id pause.resume :=
  rfl

theorem proceed_fan_eq
    (id time permits deadline : Nat)
    (branches : List (Nat × List Step))
    (pause : Pause)
    (rest : List Step)
    (j : Journal) :
    proceed id
        (.fan time permits deadline branches pause :: rest) j =
      if pause.cut &&
          pause.resume ≤
            (j.branchOut id permits deadline branches).time then
        proceed id rest
          (j.branchOut id permits deadline branches)
      else if pause.cut || id ≠ 0 then
        ((j.branchOut id permits deadline branches).keep id rest
          (.branches j.groups.length pause) false).addAlarm id
            pause.resume
      else
        (j.branchOut id permits deadline branches).keep id rest
          (.branches j.groups.length pause) false :=
  rfl

/- A call lets the strand go on, or makes it wait for the answer. -/
theorem proceed_call
    (id time due : Nat)
    (call : Call)
    (pause? : Option Pause)
    (rest : List Step)
    (j : Journal) :
    (proceed id (.call time call due pause? :: rest) j =
        proceed id rest
          ((j.note call).release (isModelCall call))) ∨
      ∃ pause,
        pause? = some pause ∧
          j.time < pause.resume ∧
          proceed id (.call time call due pause? :: rest) j =
            (((j.note call).keep id rest (.answer pause.resume)
                (isModelCall call)).addTimer
              ⟨due, id, false⟩).addAlarm id pause.resume := by
  cases pause? with
  | none => exact Or.inl rfl
  | some pause =>
      rw [proceed_call_eq]
      dsimp only
      split
      · exact Or.inl rfl
      · rename_i hTime
        exact
          Or.inr ⟨pause, rfl, Nat.lt_of_not_le hTime, rfl⟩

/- Branches are waited for, unless the wait is cut short at once. -/
theorem proceed_fan
    (id time permits deadline : Nat)
    (branches : List (Nat × List Step))
    (pause : Pause)
    (rest : List Step)
    (j : Journal) :
    (proceed id
          (.fan time permits deadline branches pause :: rest) j =
        proceed id rest
          (j.branchOut id permits deadline branches)) ∨
      ((pause.cut = true →
          (j.branchOut id permits deadline branches).time <
            pause.resume) ∧
        (proceed id
              (.fan time permits deadline branches pause ::
                rest) j =
            ((j.branchOut id permits deadline branches).keep id
              rest (.branches j.groups.length pause)
              false).addAlarm id pause.resume ∨
          pause.cut = false ∧
            proceed id
                (.fan time permits deadline branches pause ::
                  rest) j =
              (j.branchOut id permits deadline branches).keep id
                rest (.branches j.groups.length pause)
                false)) := by
  rw [proceed_fan_eq]
  split
  · exact Or.inl rfl
  · rename_i hOver
    refine Or.inr ⟨?_, ?_⟩
    · intro hCut
      rw [hCut, Bool.true_and, decide_eq_true_eq] at hOver
      exact Nat.lt_of_not_le hOver
    · split
      · exact Or.inl rfl
      · rename_i hAlarm
        refine Or.inr ⟨?_, rfl⟩
        cases hCut : pause.cut with
        | false => rfl
        | true => simp [hCut] at hAlarm

------------------------------------------------------------
-- The Turn Of A Strand
------------------------------------------------------------

/- A strand joins the queue of its group. -/
def enqueue
    (j : Journal)
    (groupId id : Nat) :
    Journal :=
  (j.setGroup groupId
      { j.group groupId with
        queue := (j.group groupId).queue ++ [id] }).setStrand id
    (j.strand id).queued

def takePermit
    (j : Journal)
    (groupId : Nat) :
    Journal :=
  j.setGroup groupId
    { j.group groupId with free := (j.group groupId).free - 1 }

/- A strand sees which of its branches is over. -/
def lookAt
    (j : Journal)
    (groupId : Nat) :
    Journal :=
  j.setGroup groupId
    { j.group groupId with
      awaiting := firstUnfinished (j.group groupId) }

/- The wait for branches is over. -/
def IsOver
    (j : Journal)
    (groupId : Nat)
    (pause : Pause) : Prop :=
  if pause.cut then pause.resume ≤ j.time
  else
    firstUnfinished (j.group groupId) =
      (j.group groupId).finished.length

/- What a strand does when it has its turn. -/
inductive Polled
    (j : Journal)
    (id : Nat) :
    Journal → Prop
  | finished
      (hWaiting : (j.strand id).waiting = .finished) :
      Polled j id j
  | permitted
      (hWaiting : (j.strand id).waiting = .permit) :
      Polled j id (proceed id (j.strand id).steps j)
  | alone
      (hWaiting : (j.strand id).waiting = .turn)
      (hGroup : (j.strand id).group? = none) :
      Polled j id (proceed id (j.strand id).steps j)
  | queued
      {groupId position : Nat}
      (hWaiting : (j.strand id).waiting = .turn)
      (hGroup :
        (j.strand id).group? = some (groupId, position))
      (hFull : (j.group groupId).free = 0) :
      Polled j id (j.enqueue groupId id)
  | admitted
      {groupId position : Nat}
      (hWaiting : (j.strand id).waiting = .turn)
      (hGroup :
        (j.strand id).group? = some (groupId, position))
      (hFree : (j.group groupId).free ≠ 0) :
      Polled j id
        (proceed id (j.strand id).steps (j.takePermit groupId))
  | answered
      {resume : Nat}
      (hWaiting : (j.strand id).waiting = .answer resume)
      (hTime : resume ≤ j.time) :
      Polled j id
        (proceed id (j.strand id).steps
          ((j.release (j.strand id).asksModel).dropTimers id
            false))
  | unanswered
      {resume : Nat}
      (hWaiting : (j.strand id).waiting = .answer resume)
      (hTime : j.time < resume) :
      Polled j id j
  | joined
      {groupId : Nat}
      {pause : Pause}
      (hWaiting :
        (j.strand id).waiting = .branches groupId pause)
      (hOver : j.IsOver groupId pause) :
      Polled j id
        (proceed id (j.strand id).steps
          ((j.lookAt groupId).dropTimers id false))
  | unjoined
      {groupId : Nat}
      {pause : Pause}
      (hWaiting :
        (j.strand id).waiting = .branches groupId pause)
      (hWaits : ¬ j.IsOver groupId pause) :
      Polled j id (j.lookAt groupId)

theorem polled_poll
    (j : Journal)
    (id : Nat) :
    j.Polled id (j.poll id) := by
  unfold poll
  dsimp only
  split
  · rename_i hWaiting
    exact .finished hWaiting
  · rename_i hWaiting
    exact .permitted hWaiting
  · rename_i hWaiting
    split
    · rename_i hGroup
      exact .alone hWaiting hGroup
    · rename_i hGroup
      split
      · rename_i hFull
        exact .queued hWaiting hGroup hFull
      · rename_i hFree
        exact .admitted hWaiting hGroup hFree
  · rename_i hWaiting
    split
    · rename_i hTime
      exact .answered hWaiting hTime
    · rename_i hTime
      exact .unanswered hWaiting (Nat.lt_of_not_le hTime)
  · rename_i groupId pause hWaiting
    by_cases hOver : j.IsOver groupId pause
    · have hJoined := Polled.joined hWaiting hOver
      unfold IsOver at hOver
      exact (if_pos hOver) ▸ hJoined
    · have hUnjoined := Polled.unjoined hWaiting hOver
      unfold IsOver at hOver
      exact (if_neg hOver) ▸ hUnjoined

/- A strand that is not there has nothing to do. -/
theorem poll_of_missing
    (hId : j.strands.length ≤ id) :
    j.poll id = j.retire id := by
  have hStrand : j.strand id = default := by
    simp [strand, hId]
  unfold poll
  rw [hStrand]
  exact (finish_eq j id).trans (by rw [hStrand]; rfl)

------------------------------------------------------------
-- The Turn Of The Thread
------------------------------------------------------------

/- No strand is to be woken, now or at any time. -/
structure Stuck
    (j : Journal) : Prop where
  ready : j.ready = []
  woken : j.woken = false
  timers : j.timers = []

theorem turn_of_stuck
    (hStuck : j.Stuck) :
    j.turn = j := by
  unfold turn
  rw [hStuck.ready, hStuck.woken, hStuck.timers]
  rfl

theorem takeTurns_of_stuck
    (hStuck : j.Stuck)
    (turns : Nat) :
    takeTurns turns j = j := by
  induction turns with
  | zero => rfl
  | succ turns ih =>
      rw [takeTurns]
      split
      · rfl
      · rw [turn_of_stuck hStuck]
        exact ih

/- The time of the next timer is that of a timer. -/
theorem exists_of_nextDue?
    {timers : List Timer}
    {due : Nat}
    (hDue : nextDue? timers = some due) :
    ∃ timer ∈ timers, timer.due = due := by
  induction timers generalizing due with
  | nil => cases hDue
  | cons timer rest ih =>
      rw [nextDue?] at hDue
      cases hRest : nextDue? rest with
      | none =>
          rw [hRest] at hDue
          cases hDue
          exact ⟨timer, List.mem_cons_self, rfl⟩
      | some later =>
          rw [hRest] at hDue
          cases hDue
          rcases ih hRest with ⟨other, hOther, hLater⟩
          rcases Nat.le_total timer.due later with hLe | hLe
          · exact
              ⟨timer, List.mem_cons_self,
                (Nat.min_eq_left hLe).symm⟩
          · exact
              ⟨other, List.mem_cons_of_mem _ hOther,
                hLater.trans (Nat.min_eq_right hLe).symm⟩

theorem nextDue?_eq_none
    {timers : List Timer}
    (hDue : nextDue? timers = none) :
    timers = [] := by
  cases timers with
  | nil => rfl
  | cons timer rest =>
      rw [nextDue?] at hDue
      cases hRest : nextDue? rest <;> rw [hRest] at hDue <;>
        cases hDue

/- What a turn of the thread is spent on. -/
inductive Turned
    (j : Journal) :
    Journal → Prop
  | root
      (hWoken : j.woken = true)
      (hDraining : j.draining = false) :
      Turned j
        ({ j with woken := false, draining := true }.poll 0)
  | branch
      {id : Nat}
      {rest : List Nat}
      (hReady : j.ready = id :: rest) :
      Turned j
        ({ j with ready := rest, draining := true }.poll id)
  | drained
      (hWoken : j.woken = true)
      (hDraining : j.draining = true) :
      Turned j { j with draining := false }
  | timers
      {due : Nat}
      (hDue : nextDue? j.timers = some due) :
      Turned j
        { j with
          time := max j.time due
          draining := false }.fire
  | stuck
      (hStuck : j.Stuck) :
      Turned j j

theorem turned_turn
    (j : Journal) :
    j.Turned j.turn := by
  unfold turn
  split
  · rename_i hRoot
    rw [Bool.and_eq_true, Bool.not_eq_true'] at hRoot
    exact .root hRoot.1 hRoot.2
  · rename_i hRoot
    split
    · rename_i hReady
      exact .branch hReady
    · rename_i hReady
      split
      · rename_i hWoken
        rw [hWoken, Bool.true_and, Bool.not_eq_true',
          Bool.not_eq_false] at hRoot
        exact .drained hWoken hRoot
      · rename_i hWoken
        split
        · rename_i hDue
          exact
            .stuck
              { ready := hReady
                woken := Bool.eq_false_iff.mpr hWoken
                timers := nextDue?_eq_none hDue }
        · rename_i hDue
          exact .timers hDue

------------------------------------------------------------
-- What Stays As It Is
------------------------------------------------------------

theorem strand_setGroup
    (j : Journal)
    (groupId : Nat)
    (g : Group)
    (id : Nat) :
    (j.setGroup groupId g).strand id = j.strand id := rfl

theorem release_strands
    (j : Journal)
    (asksModel : Bool) :
    (j.release asksModel).strands = j.strands := by
  unfold release
  split <;> rfl

theorem wake_strands
    (j : Journal)
    (id : Nat) :
    (j.wake id).strands = j.strands := by
  unfold wake
  split
  · rfl
  · split <;> rfl

theorem length_keep
    (j : Journal)
    (id : Nat)
    (steps : List Step)
    (waiting : Waiting)
    (asksModel : Bool) :
    (j.keep id steps waiting asksModel).strands.length =
      j.strands.length :=
  List.length_set

theorem wake_eq
    (j : Journal)
    (id : Nat) :
    j.wake id =
      { j with
        ready := (j.wake id).ready
        woken := (j.wake id).woken } := by
  unfold wake
  split
  · rfl
  · split <;> rfl

theorem addStrand_eq
    (j : Journal)
    (s : Strand) :
    j.addStrand s =
      { j with
        strands := j.strands ++ [s]
        ready := (j.addStrand s).ready
        woken := (j.addStrand s).woken } :=
  wake_eq _ _

/- A strand is as it was when others have started. -/
theorem strand_addStrand
    (hId : id < j.strands.length)
    (s : Strand) :
    (j.addStrand s).strand id = j.strand id := by
  unfold addStrand strand
  rw [wake_strands]
  simp [List.getD, List.getElem?_append_left hId]

theorem length_addStrand
    (j : Journal)
    (s : Strand) :
    (j.addStrand s).strands.length = j.strands.length + 1 := by
  unfold addStrand
  rw [wake_strands]
  exact List.length_append

/- Branches that start leave time, groups and other strands alone. -/
theorem spawn_keeps
    (groupId deadline position : Nat)
    (branches : List (Nat × List Step))
    (hId : id < j.strands.length) :
    id < (spawn groupId deadline position branches
        j).strands.length ∧
      (spawn groupId deadline position branches j).strand id =
        j.strand id ∧
      (spawn groupId deadline position branches j).groups =
        j.groups ∧
      (spawn groupId deadline position branches j).time =
        j.time := by
  induction branches generalizing position j with
  | nil => exact ⟨hId, rfl, rfl, rfl⟩
  | cons branch rest ih =>
      rcases branch with ⟨start, steps⟩
      rw [spawn_cons]
      have hLess :
          id < (j.addStrand
            (branchStrand groupId deadline position
              steps)).strands.length := by
        rw [length_addStrand]
        exact Nat.lt_succ_of_lt hId
      rcases ih (position + 1) hLess with
        ⟨hLength, hStrand, hGroups, hTime⟩
      refine ⟨hLength, ?_, ?_, ?_⟩
      · rw [hStrand, strand_addStrand hId]
      · rw [hGroups, addStrand_eq]
      · rw [hTime, addStrand_eq]

theorem branchOut_keeps
    {other : Nat}
    (id permits deadline : Nat)
    (branches : List (Nat × List Step))
    (hOther : other < j.strands.length) :
    other < (j.branchOut id permits deadline
        branches).strands.length ∧
      (j.branchOut id permits deadline branches).strand other =
        j.strand other ∧
      (j.branchOut id permits deadline branches).groups =
        j.groups ++ [newGroup id permits branches] ∧
      (j.branchOut id permits deadline branches).time =
        j.time :=
  @spawn_keeps
    { j with groups := j.groups ++ [newGroup id permits branches] }
    other j.groups.length deadline 0 branches hOther

end Journal

end Automation
