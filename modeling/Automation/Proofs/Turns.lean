import Automation.Proofs.Polls

/-
  Every turn of the thread uses something up.

  A journal is worth what its strands may still do: each step that is left
  is worth as much as all that taking it may bring about, and so is each
  strand that is to be woken.  A turn makes a journal worth less, unless
  no strand is to be woken at all.  So after as many turns as a journal is
  worth, strand 0 has finished or nothing is left to do.

  Key definitions include:
    * `Journal.worth`, what is left to do

  Key theorems include:
    * `Journal.worth_proceed`, a strand that takes its steps
    * `Journal.worth_turn`, a turn uses something up
    * `Journal.takeTurns_settles`, enough turns
-/

namespace Automation

------------------------------------------------------------
-- What Is Left To Do
------------------------------------------------------------

/- A strand that waits for its first turn is still to be admitted. -/
def Waiting.worth : Waiting → Nat
  | .turn => 4
  | .finished => 0
  | _ => 2

def Strand.worth
    (s : Strand) :
    Nat :=
  8 * Journal.countSteps s.steps + s.waiting.worth

namespace Journal

variable {j : Journal}
variable {id : Nat}

/- What the members of a list are worth together. -/
def total
    {α : Type}
    (value : α → Nat) :
    List α → Nat
  | [] => 0
  | x :: xs => value x + total value xs

/-
  A step is worth eight, a strand in a queue or to be woken two, and a
  timer three.
-/
def worth
    (j : Journal) :
    Nat :=
  total Strand.worth j.strands +
    2 * total (fun g => g.queue.length) j.groups +
    2 * j.ready.length + 3 * j.timers.length +
    2 * j.woken.toNat + j.draining.toNat

variable {j : Journal}
variable {id : Nat}

------------------------------------------------------------
-- Waking And Waiting
------------------------------------------------------------

theorem total_append
    {α : Type}
    (value : α → Nat)
    (xs ys : List α) :
    total value (xs ++ ys) = total value xs + total value ys := by
  induction xs with
  | nil => exact (Nat.zero_add _).symm
  | cons x xs ih =>
      rw [List.cons_append, total, total, ih, Nat.add_assoc]

/- What is put in the place of a member counts instead of it. -/
theorem total_set
    {α : Type}
    (value : α → Nat)
    (xs : List α)
    {i : Nat}
    (x missing : α)
    (hIndex : i < xs.length) :
    total value (xs.set i x) + value (xs.getD i missing) =
      total value xs + value x := by
  induction xs generalizing i with
  | nil => cases hIndex
  | cons first rest ih =>
      cases i with
      | zero =>
          simp only [List.set_cons_zero, total,
            List.getD_cons_zero]
          omega
      | succ i =>
          have hRest := ih (Nat.lt_of_succ_lt_succ hIndex)
          simp only [List.set_cons_succ, total,
            List.getD_cons_succ]
          omega

theorem worth_wake
    (j : Journal)
    (id : Nat) :
    (j.wake id).worth ≤ j.worth + 2 := by
  unfold wake
  split
  · simp only [worth, Bool.toNat_true]
    omega
  · split
    · exact Nat.le_add_right _ _
    · simp only [worth, List.length_append,
        List.length_singleton]
      omega

theorem worth_setStrand
    (hId : id < j.strands.length)
    (s : Strand) :
    (j.setStrand id s).worth + (j.strand id).worth =
      j.worth + s.worth := by
  have hSum := total_set Strand.worth j.strands s default hId
  simp only [worth, setStrand, strand]
  omega

theorem worth_setGroup
    (j : Journal)
    (id : Nat)
    (g : Group) :
    (j.setGroup id g).worth + 2 * (j.group id).queue.length ≤
      j.worth + 2 * g.queue.length := by
  by_cases hId : id < j.groups.length
  · have hSum :=
      total_set (fun g : Group => g.queue.length) j.groups g
        default hId
    simp only [worth, setGroup, group]
    omega
  · have hMissing : j.group id = default := by
      simp [group, hId]
    have hSame : j.setGroup id g = j := by
      simp [setGroup,
        List.set_eq_of_length_le (Nat.le_of_not_lt hId)]
    rw [hMissing, hSame]
    exact Nat.add_le_add_left (Nat.zero_le _) _

theorem worth_addTimer
    (j : Journal)
    (timer : Timer) :
    (j.addTimer timer).worth = j.worth + 3 := by
  simp only [worth, addTimer, List.length_append,
    List.length_singleton]
  omega

theorem worth_addAlarm
    (hId : id < j.strands.length)
    (resume : Nat) :
    (j.addAlarm id resume).worth ≤ j.worth + 3 := by
  unfold addAlarm
  dsimp only
  split
  · exact Nat.le_of_eq (worth_addTimer _ _)
  · split
    · exact Nat.le_add_right _ _
    · have hSet :=
        worth_setStrand hId
          { j.strand id with hasAlarm := true }
      rw [worth_addTimer]
      simp only [Strand.worth] at hSet
      omega

theorem worth_dropTimers
    (j : Journal)
    (id : Nat)
    (alarms : Bool) :
    (j.dropTimers id alarms).worth ≤ j.worth := by
  have hLess :
      (j.timers.filter fun timer =>
        timer.strand ≠ id || (timer.alarm && !alarms)).length ≤
          j.timers.length :=
    List.length_filter_le _ _
  simp only [worth, dropTimers]
  omega

theorem worth_release
    (j : Journal)
    (asksModel : Bool) :
    (j.release asksModel).worth = j.worth := by
  unfold release
  split <;> rfl

------------------------------------------------------------
-- Taking Steps
------------------------------------------------------------

theorem worth_retire
    (hId : id < j.strands.length) :
    (j.retire id).worth + (j.strand id).worth ≤ j.worth := by
  have hSet := worth_setStrand hId (j.strand id).over
  have hNothing : (j.strand id).over.worth = 0 := rfl
  have hDrop :
      (j.retire id).worth ≤
        (j.setStrand id (j.strand id).over).worth :=
    worth_dropTimers _ id true
  omega

theorem worth_passPermit
    (j : Journal)
    (groupId position : Nat) :
    (j.passPermit groupId position).worth ≤ j.worth := by
  have hSet :=
    worth_setGroup j groupId
      ((j.group groupId).passing position)
  rw [Group.passing_queue, List.length_tail] at hSet
  unfold passPermit
  dsimp only
  split
  · omega
  · rename_i next rest hQueue
    have hWoken :=
      worth_wake
        (j.setGroup groupId
          ((j.group groupId).passing position))
        next
    rw [hQueue, List.length_cons] at hSet
    omega

theorem worth_finish
    (hId : id < j.strands.length) :
    (j.finish id).worth + (j.strand id).worth ≤
      j.worth + 2 := by
  have hRetired := worth_retire hId
  rw [finish_eq]
  split
  · omega
  · rename_i groupId position hGroup
    have hPassed :=
      worth_passPermit (j.retire id) groupId position
    have hWoken :=
      worth_wake
        ((j.retire id).passPermit groupId position)
        ((j.retire id).group groupId).joiner
    unfold passOn
    dsimp only
    split <;> omega

theorem worth_keep
    (hId : id < j.strands.length)
    (steps : List Step)
    (waiting : Waiting)
    (asksModel : Bool) :
    (j.keep id steps waiting asksModel).worth +
        (j.strand id).worth =
      j.worth + 8 * countSteps steps + waiting.worth := by
  have hSet :=
    worth_setStrand hId
      { j.strand id with
        steps := steps
        waiting := waiting
        asksModel := asksModel }
  simp only [Strand.worth] at hSet
  simp only [keep, Strand.worth]
  omega

theorem worth_addStrand
    (j : Journal)
    (s : Strand) :
    (j.addStrand s).worth ≤ j.worth + s.worth + 2 := by
  have hWoken :=
    worth_wake { j with strands := j.strands ++ [s] }
      j.strands.length
  have hStrands :
      Journal.worth { j with strands := j.strands ++ [s] } =
        j.worth + s.worth := by
    simp only [worth, total_append, total]
    omega
  rw [hStrands] at hWoken
  exact hWoken

theorem worth_spawn
    (groupId deadline position : Nat)
    (branches : List (Nat × List Step))
    (j : Journal) :
    (spawn groupId deadline position branches j).worth ≤
      j.worth + 8 * countBranches branches := by
  induction branches generalizing position j with
  | nil => exact Nat.le_refl _
  | cons branch rest ih =>
      rcases branch with ⟨start, steps⟩
      have hAdded :=
        worth_addStrand j
          (branchStrand groupId deadline position steps)
      have hWorth :
          (branchStrand groupId deadline position steps).worth =
            8 * countSteps steps + 4 := rfl
      have hRest :=
        ih (position + 1)
          (j.addStrand
            (branchStrand groupId deadline position steps))
      rw [spawn_cons, countBranches]
      omega

theorem worth_branchOut
    (j : Journal)
    (id permits deadline : Nat)
    (branches : List (Nat × List Step)) :
    (j.branchOut id permits deadline branches).worth ≤
      j.worth + 8 * countBranches branches := by
  have hGrouped :
      Journal.worth
          { j with
            groups :=
              j.groups ++ [newGroup id permits branches] } =
        j.worth := by
    simp [newGroup, worth, total_append, total]
  have hSpawned :=
    worth_spawn j.groups.length deadline 0 branches
      { j with
        groups := j.groups ++ [newGroup id permits branches] }
  rw [hGrouped] at hSpawned
  exact hSpawned

/- A strand that takes its steps brings about what they are worth. -/
theorem worth_proceed
    (steps : List Step)
    (hId : id < j.strands.length) :
    (proceed id steps j).worth + (j.strand id).worth ≤
      j.worth + 8 * countSteps steps + 2 := by
  induction steps generalizing j with
  | nil => exact worth_finish hId
  | cons step rest ih =>
      rw [countSteps]
      cases step with
      | call time call due pause? =>
          rw [countStep]
          rcases proceed_call id time due call pause? rest j with
            hNext | ⟨pause, _, _, hNext⟩
          · have hStrands :
                ((j.note call).release
                  (isModelCall call)).strands = j.strands :=
              release_strands _ _
            have hRest := @ih ((j.note call).release
              (isModelCall call)) (by rw [hStrands]; exact hId)
            have hWorth :
                ((j.note call).release
                  (isModelCall call)).worth = j.worth :=
              worth_release _ _
            rw [hWorth, strand, hStrands, ← strand] at hRest
            rw [hNext]
            omega
          · have hKeep :
                ((j.note call).keep id rest
                      (.answer pause.resume)
                      (isModelCall call)).worth +
                    (j.strand id).worth =
                  j.worth + 8 * countSteps rest + 2 :=
              worth_keep hId rest (.answer pause.resume)
                (isModelCall call)
            have hTimer :=
              worth_addTimer
                ((j.note call).keep id rest
                  (.answer pause.resume) (isModelCall call))
                ⟨due, id, false⟩
            have hLess :
                id < (((j.note call).keep id rest
                    (.answer pause.resume)
                    (isModelCall call)).addTimer
                  ⟨due, id, false⟩).strands.length :=
              Nat.lt_of_lt_of_eq hId (length_keep _ _ _ _ _).symm
            have hAlarm := worth_addAlarm hLess pause.resume
            rw [hNext]
            omega
      | milestone time milestone =>
          have hRest := ih hId
          rw [proceed, countStep]
          omega
      | fan time permits deadline branches pause =>
          rw [countStep]
          rcases branchOut_keeps id permits deadline branches
              hId with ⟨hLess, hStrand, _, _⟩
          have hBranches :=
            worth_branchOut j id permits deadline branches
          have hKeep :=
            worth_keep hLess rest
              (.branches j.groups.length pause) false
          have hWaiting :
              (Waiting.branches j.groups.length pause).worth =
                2 := rfl
          rcases proceed_fan id time permits deadline branches
              pause rest j with
            hNext | ⟨_, hNext | ⟨_, hNext⟩⟩
          · have hRest := ih hLess
            rw [hNext]
            rw [hStrand] at hRest
            omega
          · have hKept :
                id < ((j.branchOut id permits deadline
                    branches).keep id rest
                  (.branches j.groups.length pause)
                  false).strands.length :=
              Nat.lt_of_lt_of_eq hLess
                (length_keep _ _ _ _ _).symm
            have hAlarm := worth_addAlarm hKept pause.resume
            rw [hNext]
            rw [hStrand] at hKeep
            omega
          · rw [hNext]
            rw [hStrand] at hKeep
            omega

------------------------------------------------------------
-- Turns
------------------------------------------------------------

/- A strand that does not wait on does what it was worth. -/
theorem worth_goOn
    {now : Journal}
    (hId : id < j.strands.length)
    (hStrands : now.strands = j.strands)
    (hWorth : now.worth ≤ j.worth)
    (hWaiting : 2 ≤ (j.strand id).waiting.worth) :
    (proceed id (j.strand id).steps now).worth ≤ j.worth := by
  have hSame : now.strand id = j.strand id := by
    rw [strand, hStrands, strand]
  have hGoesOn :=
    @worth_proceed now id (j.strand id).steps
      (hStrands ▸ hId)
  rw [hSame, Strand.worth] at hGoesOn
  omega

theorem worth_enqueue
    {groupId : Nat}
    (hId : id < j.strands.length)
    (hWaiting : (j.strand id).waiting = .turn) :
    (j.enqueue groupId id).worth ≤ j.worth := by
  have hSet :=
    worth_setGroup j groupId
      { j.group groupId with
        queue := (j.group groupId).queue ++ [id] }
  have hPermit :=
    worth_setStrand
      (j := j.setGroup groupId
        { j.group groupId with
          queue := (j.group groupId).queue ++ [id] })
      hId (j.strand id).queued
  have hTurn :
      (j.strand id).worth =
        (j.strand id).queued.worth + 2 := by
    rw [Strand.worth, hWaiting]
    rfl
  rw [List.length_append, List.length_singleton] at hSet
  rw [strand_setGroup] at hPermit
  rw [enqueue]
  omega

/- A turn that is given to a strand is not worth more than it takes. -/
theorem worth_poll
    (j : Journal)
    (id : Nat) :
    (j.poll id).worth ≤ j.worth := by
  by_cases hId : id < j.strands.length
  · have hPolled := polled_poll j id
    generalize j.poll id = next at hPolled ⊢
    cases hPolled with
    | finished => exact Nat.le_refl _
    | permitted hWaiting =>
        exact
          worth_goOn hId rfl (Nat.le_refl _)
            (by rw [hWaiting]; decide)
    | alone hWaiting =>
        exact
          worth_goOn hId rfl (Nat.le_refl _)
            (by rw [hWaiting]; decide)
    | queued hWaiting => exact worth_enqueue hId hWaiting
    | admitted hWaiting =>
        refine worth_goOn hId rfl ?_ (by rw [hWaiting]; decide)
        exact Nat.le_of_add_le_add_right (worth_setGroup _ _ _)
    | answered hWaiting =>
        refine worth_goOn hId (release_strands _ _) ?_
          (by rw [hWaiting]; exact Nat.le_refl _)
        exact
          Nat.le_trans (worth_dropTimers _ _ _)
            (Nat.le_of_eq (worth_release _ _))
    | unanswered => exact Nat.le_refl _
    | joined hWaiting =>
        refine worth_goOn hId rfl ?_
          (by rw [hWaiting]; exact Nat.le_refl _)
        exact
          Nat.le_trans (worth_dropTimers _ _ _)
            (Nat.le_of_add_le_add_right (worth_setGroup _ _ _))
    | unjoined =>
        exact Nat.le_of_add_le_add_right (worth_setGroup _ _ _)
  · have hId' := Nat.le_of_not_lt hId
    have hSame :
        j.setStrand id (j.strand id).over = j := by
      simp [setStrand, List.set_eq_of_length_le hId']
    rw [poll_of_missing hId', retire, hSame]
    exact worth_dropTimers _ _ _

theorem worth_wakeAll
    (timers : List Timer)
    (j : Journal) :
    (timers.foldl (fun j timer => j.wake timer.strand)
        j).worth ≤
      j.worth + 2 * timers.length := by
  induction timers generalizing j with
  | nil => exact Nat.le_refl _
  | cons timer rest ih =>
      have hWoken := worth_wake j timer.strand
      have hRest := ih (j.wake timer.strand)
      rw [List.foldl_cons, List.length_cons]
      omega

/- A timer that is due is worth more than the strand that it wakes. -/
theorem worth_fire
    (hDue : ∃ timer ∈ j.timers, timer.due ≤ j.time) :
    j.fire.worth < j.worth := by
  let due := j.timers.filter fun timer => timer.due ≤ j.time
  let later :=
    j.timers.filter fun timer => !(timer.due ≤ j.time)
  have hLength : due.length + later.length = j.timers.length :=
    (List.length_eq_length_filter_add _).symm
  have hSome : 0 < due.length := by
    rcases hDue with ⟨timer, hTimer, hTime⟩
    exact
      List.length_pos_of_mem
        (List.mem_filter.mpr ⟨hTimer, decide_eq_true hTime⟩)
  have hWoken :=
    worth_wakeAll (due.mergeSort fun a b => a.due ≤ b.due)
      { j with timers := later }
  have hLater :
      Journal.worth { j with timers := later } +
          3 * j.timers.length =
        j.worth + 3 * later.length := by
    simp only [worth]
    omega
  rw [List.length_mergeSort] at hWoken
  have hFire :
      j.fire.worth ≤
        Journal.worth { j with timers := later } +
          2 * due.length := hWoken
  omega

/- Unless nothing is left to do, a turn uses something up. -/
theorem worth_turn
    (hStuck : ¬ j.Stuck) :
    j.turn.worth < j.worth := by
  have hTurned := turned_turn j
  generalize j.turn = next at hTurned ⊢
  cases hTurned with
  | root hWoken hDraining =>
      refine Nat.lt_of_le_of_lt (worth_poll _ _) ?_
      simp only [worth, hWoken, hDraining, Bool.toNat_true,
        Bool.toNat_false]
      omega
  | branch hReady =>
      refine Nat.lt_of_le_of_lt (worth_poll _ _) ?_
      simp only [worth, hReady, List.length_cons,
        Bool.toNat_true]
      omega
  | drained hWoken hDraining =>
      simp only [worth, hDraining, Bool.toNat_true,
        Bool.toNat_false]
      omega
  | @timers due hDue =>
      rcases exists_of_nextDue? hDue with
        ⟨timer, hTimer, hTime⟩
      refine Nat.lt_of_lt_of_le (worth_fire ⟨timer, hTimer, ?_⟩) ?_
      · exact hTime ▸ Nat.le_max_right _ _
      · simp only [worth, Bool.toNat_false]
        omega
  | stuck hStuck' => exact absurd hStuck' hStuck

/- A journal that is worth nothing has nothing left to do. -/
theorem stuck_of_worth
    (hWorth : j.worth = 0) :
    j.Stuck := by
  simp only [worth] at hWorth
  exact
    { ready := List.eq_nil_of_length_eq_zero (by omega)
      woken := Bool.toNat_eq_zero.mp (by omega)
      timers := List.eq_nil_of_length_eq_zero (by omega) }

/- After enough turns, strand 0 has finished or none is to be woken. -/
theorem takeTurns_settles
    {turns : Nat}
    (hWorth : j.worth ≤ turns) :
    ((takeTurns turns j).strand 0).waiting = .finished ∨
      (takeTurns turns j).Stuck := by
  induction turns generalizing j with
  | zero =>
      exact Or.inr (stuck_of_worth (Nat.le_zero.mp hWorth))
  | succ turns ih =>
      rw [takeTurns]
      split
      · rename_i hOver
        exact Or.inl hOver
      · by_cases hStuck : j.Stuck
        · rw [turn_of_stuck hStuck,
            takeTurns_of_stuck hStuck]
          exact Or.inr hStuck
        · have hTurn := worth_turn hStuck
          exact ih (by omega)

end Journal

end Automation
