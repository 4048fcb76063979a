import Automation.Proofs.Polls

/-
  Strands that are to have a turn.

  Strand 0 is to have a turn when it was woken, and every other strand when
  it is among those that are ready.  The end of a branch wakes the first
  strand in the queue, and the strand that waits for the branch.

  Key definitions include:
    * `Journal.Roused`, the strand is to have a turn

  Key theorems include:
    * `Journal.roused_wake_iff` and `Journal.roused_passOn_iff`
    * `Journal.roused_fire_iff`, the strands that timers wake
-/

namespace Automation

namespace Journal

variable {j : Journal}
variable {id : Nat}

------------------------------------------------------------
-- Looking Up
------------------------------------------------------------

theorem getD_set
    {α : Type}
    {xs : List α}
    {i : Nat}
    (hIndex : i < xs.length)
    (x missing : α)
    (other : Nat) :
    (xs.set i x).getD other missing =
      if other = i then x else xs.getD other missing := by
  split
  · rename_i hSame
    subst hSame
    simp [List.getD, hIndex]
  · rename_i hNot
    simp [List.getD, List.getElem?_set_ne (Ne.symm hNot)]

theorem getD_concat
    {α : Type}
    (xs : List α)
    (x missing : α)
    (other : Nat) :
    (xs ++ [x]).getD other missing =
      if other = xs.length then x
      else xs.getD other missing := by
  split
  · rename_i hSame
    simp [List.getD, hSame]
  · rename_i hNot
    rcases Nat.lt_or_gt_of_ne hNot with hLess | hMore
    · simp [List.getD, List.getElem?_append_left hLess]
    · have hBeyond : (xs ++ [x]).length ≤ other := by
        rw [List.length_append]
        exact hMore
      simp [List.getD, List.getElem?_eq_none hBeyond,
        List.getElem?_eq_none (Nat.le_of_lt hMore)]

theorem lt_of_lt_concat
    {α : Type}
    {xs : List α}
    {x : α}
    {i : Nat}
    (hIndex : i < (xs ++ [x]).length)
    (hNot : i ≠ xs.length) :
    i < xs.length := by
  rw [List.length_append, List.length_singleton] at hIndex
  omega

theorem strand_setStrand
    (hId : id < j.strands.length)
    (s : Strand)
    (other : Nat) :
    (j.setStrand id s).strand other =
      if other = id then s else j.strand other :=
  getD_set hId s default other

theorem group?_setStrand
    {s : Strand}
    (hId : id < j.strands.length)
    (hGroup : s.group? = (j.strand id).group?)
    (other : Nat) :
    ((j.setStrand id s).strand other).group? =
      (j.strand other).group? := by
  rw [strand_setStrand hId]
  split
  · rename_i hSame
    rw [hSame, hGroup]
  · rfl

theorem group_setGroup
    {groupId : Nat}
    (hGroup : groupId < j.groups.length)
    (g : Group)
    (other : Nat) :
    (j.setGroup groupId g).group other =
      if other = groupId then g else j.group other :=
  getD_set hGroup g default other

theorem joiner_setGroup
    {groupId : Nat}
    {g : Group}
    (hGroup : groupId < j.groups.length)
    (hJoiner : g.joiner = (j.group groupId).joiner)
    (other : Nat) :
    ((j.setGroup groupId g).group other).joiner =
      (j.group other).joiner := by
  rw [group_setGroup hGroup]
  split
  · rename_i hSame
    rw [hSame, hJoiner]
  · rfl

theorem strand_append
    (j : Journal)
    (s : Strand)
    (other : Nat) :
    strand { j with strands := j.strands ++ [s] } other =
      if other = j.strands.length then s
      else j.strand other :=
  getD_concat j.strands s default other

theorem group_append
    (j : Journal)
    (g : Group)
    (other : Nat) :
    group { j with groups := j.groups ++ [g] } other =
      if other = j.groups.length then g
      else j.group other :=
  getD_concat j.groups g default other

/- A strand that is not there waits for its turn. -/
theorem waiting_of_missing
    (hId : ¬ id < j.strands.length) :
    (j.strand id).waiting = .turn := by
  have hMissing : j.strand id = default := by
    simp [strand, hId]
  rw [hMissing]
  rfl

theorem group?_of_missing
    (hId : ¬ id < j.strands.length) :
    (j.strand id).group? = none := by
  have hMissing : j.strand id = default := by
    simp [strand, hId]
  rw [hMissing]
  rfl

theorem retire_strand
    (hId : id < j.strands.length) :
    (j.retire id).strand id = (j.strand id).over :=
  (strand_setStrand hId _ _).trans (if_pos rfl)

theorem keep_strand
    (hId : id < j.strands.length)
    (steps : List Step)
    (waiting : Waiting)
    (asksModel : Bool) :
    (j.keep id steps waiting asksModel).strand id =
      { j.strand id with
        steps := steps
        waiting := waiting
        asksModel := asksModel } :=
  (strand_setStrand hId _ _).trans (if_pos rfl)

/- What an alarm leaves as it is, and the timer that it makes sure of. -/
theorem addAlarm_spec
    (hId : id < j.strands.length)
    (resume : Nat) :
    ((j.addAlarm id resume).strand id).waiting =
        (j.strand id).waiting ∧
      ((j.addAlarm id resume).strand id).group? =
        (j.strand id).group? ∧
      (j.addAlarm id resume).groups = j.groups ∧
      ∀ timer ∈ j.timers,
        timer ∈ (j.addAlarm id resume).timers := by
  unfold addAlarm
  dsimp only
  split
  · exact
      ⟨rfl, rfl, rfl, fun _ h => List.mem_append_left _ h⟩
  · split
    · exact ⟨rfl, rfl, rfl, fun _ h => h⟩
    · have hStrand :
          (j.setStrand id
            { j.strand id with hasAlarm := true }).strand id =
              { j.strand id with hasAlarm := true } :=
        (strand_setStrand hId _ _).trans (if_pos rfl)
      refine
        ⟨?_, ?_, rfl, fun _ h => List.mem_append_left _ h⟩
      · have hWaiting := congrArg Strand.waiting hStrand
        exact hWaiting
      · have hGroup := congrArg Strand.group? hStrand
        exact hGroup

------------------------------------------------------------
-- Waking Strands
------------------------------------------------------------

/- The strand is to have a turn. -/
def Roused
    (j : Journal)
    (id : Nat) : Prop :=
  if id = 0 then j.woken = true else id ∈ j.ready

theorem wake_ready
    (hNodup : j.ready.Nodup)
    (hPos : 0 ∉ j.ready)
    (id : Nat) :
    (j.wake id).ready.Nodup ∧ 0 ∉ (j.wake id).ready := by
  unfold wake
  split
  · exact ⟨hNodup, hPos⟩
  · rename_i hRoot
    split
    · exact ⟨hNodup, hPos⟩
    · rename_i hNew
      have hNotIn : id ∉ j.ready := by simpa using hNew
      constructor
      · rw [List.nodup_append]
        refine ⟨hNodup, by simp, ?_⟩
        intro one hOne other hOther hSame
        rw [List.mem_singleton.mp hOther] at hSame
        exact hNotIn (hSame ▸ hOne)
      · intro hZero
        rcases List.mem_append.mp hZero with hOld | hLast
        · exact hPos hOld
        · exact hRoot (List.mem_singleton.mp hLast).symm

theorem wake_groups
    (j : Journal)
    (id : Nat) :
    (j.wake id).groups = j.groups := by
  rw [wake_eq]

theorem addStrand_groups
    (j : Journal)
    (s : Strand) :
    (j.addStrand s).groups = j.groups :=
  wake_groups _ _

/- Waking a strand gives it a turn, and no other. -/
theorem roused_wake_iff
    (j : Journal)
    (id other : Nat) :
    (j.wake id).Roused other ↔ j.Roused other ∨ other = id := by
  unfold Roused
  by_cases hRoot : id = 0
  · subst hRoot
    by_cases hOther : other = 0 <;> simp [wake, hOther]
  · by_cases hIn : id ∈ j.ready
    · have hSame : j.wake id = j := by simp [wake, hRoot, hIn]
      rw [hSame]
      refine ⟨Or.inl, ?_⟩
      rintro (hTurn | rfl)
      · exact hTurn
      · rw [if_neg hRoot]
        exact hIn
    · by_cases hOther : other = 0
      · simp [wake, hRoot, hIn, hOther, Ne.symm hRoot]
      · simp [wake, hRoot, hIn, hOther]

------------------------------------------------------------
-- The Queue Of A Group
------------------------------------------------------------

section Enqueue

variable {groupId : Nat}

theorem strand_enqueue
    (hId : id < j.strands.length)
    (groupId other : Nat) :
    (j.enqueue groupId id).strand other =
      if other = id then (j.strand id).queued
      else j.strand other :=
  @strand_setStrand (j.setGroup groupId _) id hId _ other

theorem group_enqueue
    (hLess : groupId < j.groups.length)
    (id line : Nat) :
    (j.enqueue groupId id).group line =
      if line = groupId then
        { j.group groupId with
          queue := (j.group groupId).queue ++ [id] }
      else j.group line :=
  group_setGroup hLess _ line

/- A strand that joins the queue takes the last place. -/
theorem queue_enqueue
    (hLess : groupId < j.groups.length)
    (id line : Nat) :
    ((j.enqueue groupId id).group line).queue =
      (j.group line).queue ++
        if line = groupId then [id] else [] := by
  rw [group_enqueue hLess]
  split
  · rename_i hSame
    rw [hSame]
  · rw [List.append_nil]

theorem mem_queue_enqueue_iff
    (hLess : groupId < j.groups.length)
    (id line other : Nat) :
    other ∈ ((j.enqueue groupId id).group line).queue ↔
      other ∈ (j.group line).queue ∨
        line = groupId ∧ other = id := by
  rw [queue_enqueue hLess, List.mem_append]
  by_cases hSame : line = groupId <;> simp [hSame]

/- Nothing but the queue of a group changes. -/
theorem group_enqueue_eq
    (hLess : groupId < j.groups.length)
    (id line : Nat) :
    (j.enqueue groupId id).group line =
      { j.group line with
        queue := ((j.enqueue groupId id).group line).queue } := by
  rw [group_enqueue hLess]
  split
  · rename_i hSame
    rw [hSame]
  · rfl

theorem group?_enqueue
    (hId : id < j.strands.length)
    (groupId other : Nat) :
    ((j.enqueue groupId id).strand other).group? =
      (j.strand other).group? :=
  @group?_setStrand (j.setGroup groupId _) id
    (j.strand id).queued hId rfl other

end Enqueue

------------------------------------------------------------
-- The End Of A Branch
------------------------------------------------------------

theorem passOn_eq
    (j : Journal)
    (groupId position : Nat) :
    j.passOn groupId position =
      { j.setGroup groupId
          ((j.group groupId).passing position) with
        ready := (j.passOn groupId position).ready
        woken := (j.passOn groupId position).woken } := by
  unfold passOn passPermit
  dsimp only
  split
  · split
    · exact wake_eq _ _
    · rw [wake_eq, wake_eq]
  · split
    · rfl
    · exact wake_eq _ _

/-
  The end of a branch wakes the first strand in the queue, and the strand
  that waits for the branch.
-/
theorem roused_passOn_iff
    (j : Journal)
    (groupId position other : Nat) :
    (j.passOn groupId position).Roused other ↔
      j.Roused other ∨
        (j.group groupId).queue.head? = some other ∨
        (j.group groupId).awaiting = position ∧
          other = (j.group groupId).joiner := by
  have hPermit :
      (j.passPermit groupId position).Roused other ↔
        j.Roused other ∨
          (j.group groupId).queue.head? = some other := by
    unfold passPermit
    dsimp only
    split
    · rename_i hQueue
      rw [hQueue]
      simp [Roused, setGroup]
    · rename_i next rest hQueue
      rw [roused_wake_iff, hQueue, List.head?_cons,
        Option.some.injEq, eq_comm]
      rfl
  unfold passOn
  dsimp only
  split
  · rename_i hAwaited
    rw [roused_wake_iff, hPermit, or_assoc]
    simp [hAwaited]
  · rename_i hAwaited
    rw [hPermit]
    simp [hAwaited]

theorem passOn_ready
    (hNodup : j.ready.Nodup)
    (hPos : 0 ∉ j.ready)
    (groupId position : Nat) :
    (j.passOn groupId position).ready.Nodup ∧
      0 ∉ (j.passOn groupId position).ready := by
  have hPermit :
      (j.passPermit groupId position).ready.Nodup ∧
        0 ∉ (j.passPermit groupId position).ready := by
    unfold passPermit
    dsimp only
    split
    · exact ⟨hNodup, hPos⟩
    · rename_i next rest _
      exact
        @wake_ready
          (j.setGroup groupId
            ((j.group groupId).passing position))
          hNodup hPos next
  unfold passOn
  dsimp only
  split
  · exact wake_ready hPermit.1 hPermit.2 _
  · exact hPermit

------------------------------------------------------------
-- Timers
------------------------------------------------------------

def wakeAll
    (timers : List Timer)
    (j : Journal) :
    Journal :=
  timers.foldl (fun j timer => j.wake timer.strand) j

theorem wakeAll_eq
    (timers : List Timer)
    (j : Journal) :
    wakeAll timers j =
      { j with
        ready := (wakeAll timers j).ready
        woken := (wakeAll timers j).woken } := by
  induction timers generalizing j with
  | nil => rfl
  | cons timer rest ih =>
      refine (ih (j.wake timer.strand)).trans ?_
      have hWith :
          ∀ ready woken,
            { j.wake timer.strand with
                ready := ready
                woken := woken } =
              { j with ready := ready, woken := woken } := by
        intro ready woken
        rw [wake_eq]
      exact hWith _ _

theorem roused_wakeAll_iff
    (timers : List Timer)
    (j : Journal)
    (id : Nat) :
    (wakeAll timers j).Roused id ↔
      j.Roused id ∨ ∃ timer ∈ timers, timer.strand = id := by
  induction timers generalizing j with
  | nil => simp [wakeAll]
  | cons timer rest ih =>
      have hRest := ih (j.wake timer.strand)
      rw [roused_wake_iff] at hRest
      refine Iff.trans hRest ?_
      rw [or_assoc]
      simp [eq_comm]

theorem wakeAll_ready
    (timers : List Timer)
    (hNodup : j.ready.Nodup)
    (hPos : 0 ∉ j.ready) :
    (wakeAll timers j).ready.Nodup ∧
      0 ∉ (wakeAll timers j).ready := by
  induction timers generalizing j with
  | nil => exact ⟨hNodup, hPos⟩
  | cons timer rest ih =>
      have hReady := wake_ready hNodup hPos timer.strand
      exact ih hReady.1 hReady.2

/- Time wakes strands, and uses their timers up. -/
theorem fire_eq
    (j : Journal) :
    j.fire =
      { j with
        timers :=
          j.timers.filter fun timer => !(timer.due ≤ j.time)
        ready := j.fire.ready
        woken := j.fire.woken } :=
  wakeAll_eq _ _

theorem roused_fire_iff
    (j : Journal)
    (id : Nat) :
    j.fire.Roused id ↔
      j.Roused id ∨
        ∃ timer ∈ j.timers,
          timer.due ≤ j.time ∧ timer.strand = id := by
  refine (roused_wakeAll_iff _ _ id).trans ?_
  simp only [List.mem_mergeSort, List.mem_filter,
    decide_eq_true_eq, and_assoc]
  rfl

theorem fire_ready
    (hNodup : j.ready.Nodup)
    (hPos : 0 ∉ j.ready) :
    j.fire.ready.Nodup ∧ 0 ∉ j.fire.ready :=
  wakeAll_ready _ hNodup hPos

end Journal

end Automation
