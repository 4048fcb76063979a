import Automation.Proofs.Members
import Automation.Proofs.Turns

/-
  No strand waits forever.

  When no strand is to be woken any more, a strand that still waits does so
  in a queue, or for a branch that has not finished.  A queue has a strand
  of the same group that holds a permit, which waits for branches in turn,
  and these belong to a later group.  There is no last such group, so every
  strand has finished.

  Key theorems include:
    * `Journal.Stuck.finished`, nothing left to do, and nobody waiting
    * `Journal.follow_finishes`, the steps of an activity are all taken
-/

namespace Automation

namespace Journal

variable {j : Journal}
variable {id : Nat}

------------------------------------------------------------
-- When No Strand Is To Be Woken
------------------------------------------------------------

namespace Stuck

theorem not_roused
    (hStuck : j.Stuck)
    (id : Nat) :
    ¬ j.Roused id := by
  unfold Roused
  rw [hStuck.ready, hStuck.woken]
  split
  · nofun
  · nofun

theorem not_rousedAt
    (hStuck : j.Stuck)
    (id time : Nat) :
    ¬ j.RousedAt id time (j.Roused id) := by
  rintro (⟨hTurn, _⟩ | ⟨timer, hTimer, _⟩)
  · exact hStuck.not_roused id hTurn
  · rw [hStuck.timers] at hTimer
    cases hTimer

/- A strand that waits is in a queue, or waits for a later group. -/
theorem waits
    (hStuck : j.Stuck)
    (hSound : j.Sound none)
    (hId : id < j.strands.length)
    (hLive : (j.strand id).waiting ≠ .finished) :
    (∃ groupId position,
        (j.strand id).group? = some (groupId, position) ∧
          id ∈ (j.group groupId).queue) ∨
      ∃ groupId,
        Joins id (j.strand id) groupId j.groups ∧
          Unfinished (j.group groupId) := by
  have hAwaits := hSound.awaits id hId nofun
  unfold Awaits at hAwaits
  split at hAwaits
  · rename_i hOver
    exact absurd hOver hLive
  · exact absurd hAwaits (hStuck.not_roused id)
  · rcases hAwaits with hTurn | hQueue
    · exact absurd hTurn (hStuck.not_roused id)
    · exact Or.inl hQueue
  · exact absurd hAwaits (hStuck.not_rousedAt id _)
  · rename_i groupId pause hWaiting
    rcases hAwaits with ⟨hJoins, hEnds⟩
    refine Or.inr ⟨groupId, hJoins, ?_⟩
    split at hEnds
    · exact absurd hEnds (hStuck.not_rousedAt id _)
    · exact
        hEnds.resolve_left (hStuck.not_roused id)

/- A strand that holds a permit waits for a later group. -/
theorem holder_joins
    {groupId : Nat}
    (hStuck : j.Stuck)
    (hSound : j.Sound none)
    (hHolds :
      Holds none groupId id (j.strand id)
        (j.group groupId).queue) :
    ∃ later,
      Joins id (j.strand id) later j.groups ∧
        Unfinished (j.group later) := by
  rcases hHolds.active with hRuns | ⟨hLive, hStarted⟩
  · cases hRuns
  have hId : id < j.strands.length := by
    by_cases hLess : id < j.strands.length
    · exact hLess
    · exact absurd (waiting_of_missing hLess) hStarted
  rcases hStuck.waits hSound hId hLive with
    ⟨line, place, hPlace, hIn⟩ | hJoins
  · rcases hHolds.belongs with ⟨position, hBelongs⟩
    rw [hBelongs] at hPlace
    cases hPlace
    exact absurd hIn hHolds.served
  · exact hJoins

/- The branches of a group finish when those of later groups do. -/
theorem branches_finished
    (hStuck : j.Stuck)
    (hSound : j.Sound none)
    (hManned : j.Manned)
    {count groupId position : Nat}
    (hCount : j.groups.length ≤ groupId + count)
    (hBelongs :
      (j.strand id).group? = some (groupId, position)) :
    (j.strand id).waiting = .finished := by
  induction count generalizing groupId position id with
  | zero =>
      have hLess := hSound.grouped id groupId position hBelongs
      omega
  | succ count ih =>
      have hLess := hSound.grouped id groupId position hBelongs
      have hLater :
          ∀ other,
            (∃ place,
              (j.strand other).group? =
                some (groupId, place)) →
              ∀ line,
                Joins other (j.strand other) line j.groups →
                  ¬ Unfinished (j.group line) := by
        rintro other ⟨place, hOther⟩ line hJoins hLeft
        have hAfter := hJoins.later groupId place hOther
        rcases hManned line _ hLeft with
          ⟨member, hMember, hBusy⟩
        exact hBusy (ih (by omega) hMember)
      by_cases hOver : (j.strand id).waiting = .finished
      · exact hOver
      · have hId : id < j.strands.length := by
          by_cases hExists : id < j.strands.length
          · exact hExists
          · rw [group?_of_missing hExists] at hBelongs
            cases hBelongs
        rcases hStuck.waits hSound hId hOver with
          ⟨line, place, hPlace, hIn⟩ | ⟨line, hJoins, hLeft⟩
        · rw [hBelongs] at hPlace
          cases hPlace
          have hFree :=
            hSound.full groupId (List.ne_nil_of_mem hIn)
          rcases hSound.held groupId hLess hFree with
            ⟨holder, hHolds⟩
          rcases hStuck.holder_joins hSound hHolds with
            ⟨line, hJoins, hLeft⟩
          exact
            absurd hLeft
              (hLater holder hHolds.belongs line hJoins)
        · exact
            absurd hLeft
              (hLater id ⟨position, hBelongs⟩ line hJoins)

/- When no strand is to be woken, every strand has finished. -/
theorem finished
    (hStuck : j.Stuck)
    (hSound : j.Sound none)
    (hManned : j.Manned)
    (hId : id < j.strands.length) :
    (j.strand id).waiting = .finished := by
  have hBranches :
      ∀ other groupId position,
        (j.strand other).group? = some (groupId, position) →
          (j.strand other).waiting = .finished := by
    intro other groupId position hBelongs
    exact
      hStuck.branches_finished hSound hManned
        (Nat.le_add_left _ groupId) hBelongs
  by_cases hOver : (j.strand id).waiting = .finished
  · exact hOver
  · rcases hStuck.waits hSound hId hOver with
      ⟨line, place, hPlace, _⟩ | ⟨line, _, hLeft⟩
    · exact hBranches id line place hPlace
    · rcases hManned line _ hLeft with
        ⟨member, hMember, hBusy⟩
      exact absurd (hBranches member line _ hMember) hBusy

end Stuck

------------------------------------------------------------
-- Following An Activity
------------------------------------------------------------

theorem takeTurns_sound
    (hSound : j.Sound none)
    (hManned : j.Manned)
    (turns : Nat) :
    (takeTurns turns j).Sound none ∧
      (takeTurns turns j).Manned := by
  induction turns generalizing j with
  | zero => exact ⟨hSound, hManned⟩
  | succ turns ih =>
      rw [takeTurns]
      split
      · exact ⟨hSound, hManned⟩
      · exact ih hSound.turn (hManned.turn hSound)

/- A journal at a time, with the steps of an activity to be taken. -/
def fresh
    (start : Nat)
    (steps : List Step) :
    Journal :=
  { empty with
    time := start
    strands :=
      [{ empty.strand 0 with steps := steps, waiting := .turn }]
    draining := true }

/- There are no groups yet, and strand 0 is the only one. -/
theorem fresh_hasTurn
    {deadline : Nat}
    {steps : List Step}
    (hSteps : Joinable deadline steps)
    (start : Nat) :
    HasTurn 0 (fresh start steps) := by
  have hGroup :
      ∀ groupId, (fresh start steps).group groupId = default :=
    fun _ => rfl
  have hOnly :
      ∀ other < (fresh start steps).strands.length,
        other = 0 :=
    fun _ hOther => Nat.lt_one_iff.mp hOther
  have hAlone :
      ∀ other, ((fresh start steps).strand other).group? = none ∧
        ((fresh start steps).strand other).hasAlarm = false := by
    intro other
    cases other <;> exact ⟨rfl, rfl⟩
  have hIdle : ∀ other, ¬ (fresh start steps).Roused other := by
    intro other
    unfold Roused
    split <;> exact nofun
  exact
  { sound :=
      { awaits := by
          intro other hOther hNot
          exact absurd (congrArg some (hOnly other hOther).symm) hNot
        grouped := by
          intro other groupId position hBelongs
          rw [(hAlone other).1] at hBelongs
          cases hBelongs
        inLine := by
          intro groupId other hIn
          cases hIn
        distinct := fun _ => List.nodup_nil
        full := fun _ h => absurd rfl h
        held := fun _ h => absurd h (Nat.not_lt_zero _)
        fresh := fun _ _ _ =>
          ⟨fun _ h => absurd h List.not_mem_nil,
            fun _ h => absurd h (Nat.not_lt_zero _)⟩
        exists_root := Nat.one_pos
        roused_lt := fun other h => absurd h (hIdle other)
        ready_nodup := List.nodup_nil
        ready_pos := List.not_mem_nil
        steps := by
          intro other hOther
          rw [hOnly other hOther]
          exact ⟨deadline, fun h => absurd rfl h, hSteps⟩
        alarms := by
          intro other _ hAlarm
          rw [(hAlone other).2] at hAlarm
          cases hAlarm }
    exists_strand := Nat.one_pos
    awaits := trivial
    gone := hIdle 0
    held := fun _ h => absurd h (Nat.not_lt_zero _)
    fresh := fun _ =>
      ⟨fun _ h => absurd h List.not_mem_nil,
        fun _ h => absurd h (Nat.not_lt_zero _)⟩ }

/- The turns that are given are more than the steps are worth. -/
theorem worth_fresh
    (start : Nat)
    (steps : List Step) :
    (fresh start steps).worth = 8 * countSteps steps + 5 := by
  simp [fresh, worth, total, Strand.worth, Waiting.worth, empty]

/- The steps of an activity are all taken, whoever waits for whom. -/
theorem follow_finishes
    {deadline : Nat}
    {steps : List Step}
    (hSteps : Joinable deadline steps)
    (start : Nat) :
    ((({ empty with time := start } : Journal).follow
      steps).strand 0).waiting = .finished := by
  have hTurn := fresh_hasTurn hSteps start
  have hManned : (fresh start steps).Manned := by
    intro groupId position hLeft
    cases hLeft
  have hStill := hManned.poll hTurn
  have hWorth :
      ((fresh start steps).poll 0).worth ≤
        8 * (0 + countSteps steps + 1) + 8 := by
    have hPoll := worth_poll (fresh start steps) 0
    rw [worth_fresh] at hPoll
    omega
  have hTurns :=
    takeTurns_sound hTurn.sound_poll hStill
      (8 * (0 + countSteps steps + 1) + 8)
  have hEnd :
      ((takeTurns (8 * (0 + countSteps steps + 1) + 8)
        ((fresh start steps).poll 0)).strand 0).waiting =
          .finished := by
    rcases takeTurns_settles hWorth with hOver | hStuck
    · exact hOver
    · exact
        hStuck.finished hTurns.1 hTurns.2 hTurns.1.exists_root
  exact hEnd

/- Without permits, the first branch waits forever. -/
example :
    let branch := (0, [Step.milestone 0 (.ended "a" default)])
    ((empty.follow
        [.fan 0 0 9 [branch] ⟨0, false⟩]).strand 0).waiting =
      .branches 0 ⟨0, false⟩ := by
  decide

end Journal

end Automation
