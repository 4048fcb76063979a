import Automation.Proofs.Wakeups

/-
  Turns leave waits that come to an end.

  A strand that has its turn takes its steps until it waits again.  It
  relies on a timer, on a queue or on its branches then, and what it gives
  up on the way goes to others that wait for it.

  Key definitions include:
    * `Journal.HasTurn`, a strand that has its turn

  Key theorems include:
    * `Journal.Sound.finish`, a strand that has taken its last step
    * `Journal.Sound.proceed`, a strand that takes its steps
    * `Journal.HasTurn.sound_poll`, the turn of a strand
    * `Journal.Sound.turn`, a turn of the thread
-/

namespace Automation

namespace Journal

variable {j : Journal}
variable {id : Nat}

------------------------------------------------------------
-- A Strand That Has Taken Its Last Step
------------------------------------------------------------

/- Just the first strand leaves a queue. -/
theorem head_of_left
    {queue : List Nat}
    {other : Nat}
    (hIn : other ∈ queue)
    (hLeft : other ∉ queue.tail) :
    queue.head? = some other := by
  cases queue with
  | nil => cases hIn
  | cons next rest =>
      rcases List.mem_cons.mp hIn with rfl | hRest
      · rfl
      · exact absurd hRest hLeft

theorem not_mem_tail
    {queue : List Nat}
    {other : Nat}
    (hDistinct : queue.Nodup)
    (hHead : queue.head? = some other) :
    other ∉ queue.tail := by
  cases queue with
  | nil => cases hHead
  | cons next rest =>
      cases hHead
      exact (List.nodup_cons.mp hDistinct).1

namespace Sound

variable {running : Option Nat}

/- The strand that gets a permit from a branch. -/
theorem next_holds
    {groupId position : Nat}
    (hSound : j.Sound (some id))
    (hFree :
      ((j.group groupId).passing position).free = 0) :
    ∃ next,
      next ≠ id ∧
        Holds (some id) groupId next (j.strand next)
          ((j.group groupId).passing position).queue := by
  cases hQueue : (j.group groupId).queue with
  | nil =>
      rw [Group.passing_free_of_empty _ _ hQueue] at hFree
      cases hFree
  | cons next rest =>
      have hIn : next ∈ (j.group groupId).queue := by
        rw [hQueue]
        exact List.mem_cons_self
      rcases hSound.inLine groupId next hIn with
        ⟨hNot, _, hWaiting, hBelongs⟩
      refine
        ⟨next, fun h => hNot (congrArg some h.symm), hBelongs,
          ?_, Or.inr ?_⟩
      · rw [Group.passing_queue]
        exact
          not_mem_tail (hSound.distinct groupId)
            (by rw [hQueue]; rfl)
      · rw [hWaiting]
        exact ⟨nofun, nofun⟩

/- A branch that is over gives its permit to the first in the queue. -/
theorem regroups_passOn
    {groupId : Nat}
    (hSound : j.Sound (some id))
    (hId : id < j.strands.length)
    (hLess : groupId < j.groups.length)
    (position : Nat) :
    Regroups (some id) groupId
      ((j.group groupId).passing position)
      (j.passOn groupId position).ready
      (j.passOn groupId position).woken j := by
  have hRoused :
      ∀ other,
        Roused
            { j with
              ready := (j.passOn groupId position).ready
              woken := (j.passOn groupId position).woken }
            other ↔
          _ :=
    roused_passOn_iff j groupId position
  have hReady :=
    passOn_ready hSound.ready_nodup hSound.ready_pos groupId
      position
  exact
    { exists_group := hLess
      joiner_eq := Group.passing_joiner _ _
      queue_sublist := by
        rw [Group.passing_queue]
        exact List.tail_sublist _
      keeps := fun other hOther =>
        (hRoused other).mpr (Or.inl hOther)
      called := by
        intro other hOther hLeft
        rw [Group.passing_queue] at hLeft
        exact
          (hRoused other).mpr
            (Or.inr (Or.inl (head_of_left hOther hLeft)))
      stays := by
        intro line other hOther hStill hTurn
        rcases (hRoused other).mp hTurn with
          hBefore | hHead | ⟨_, rfl⟩
        · exact (hSound.inLine line other hOther).2.1 hBefore
        · have hFirst := List.mem_of_mem_head? hHead
          have hRest :=
            hStill (hSound.line_eq_of_mem hOther hFirst)
          rw [Group.passing_queue] at hRest
          exact
            not_mem_tail (hSound.distinct groupId) hHead hRest
        · exact hSound.ne_joiner_of_mem hOther hLess rfl
      waited := by
        refine Or.inr ?_
        intro hUnfinished
        rw [Unfinished, Group.passing_finished,
          Group.passing_awaiting, Group.passing_joiner]
        by_cases hAwaited :
            (j.group groupId).awaiting = position
        · refine Or.inl ((hRoused _).mpr ?_)
          exact Or.inr (Or.inr ⟨hAwaited, rfl⟩)
        · rw [List.getElem?_set_ne (Ne.symm hAwaited)]
          exact Or.inr hUnfinished
      roused_lt := by
        intro other hTurn
        rcases (hRoused other).mp hTurn with
          hBefore | hHead | ⟨_, rfl⟩
        · exact hSound.roused_lt other hBefore
        · exact hSound.lt_of_mem (List.mem_of_mem_head? hHead)
        · exact hSound.joiner_lt hId hLess
      ready_nodup := hReady.1
      ready_pos := hReady.2
      full := by
        intro hSome
        rw [Group.passing_queue] at hSome
        cases hQueue : (j.group groupId).queue with
        | nil =>
            rw [hQueue] at hSome
            exact absurd rfl hSome
        | cons next rest =>
            rw [Group.passing_free _ _ hQueue]
            refine hSound.full groupId ?_
            rw [hQueue]
            exact List.cons_ne_nil _ _
      held := by
        intro hFree
        rcases hSound.next_holds hFree with ⟨next, _, hHolds⟩
        exact ⟨next, hHolds⟩ }

/- A permit that is given back is free, or held by the next strand. -/
theorem passOn
    {groupId position : Nat}
    (hSound : j.Sound (some id))
    (hId : id < j.strands.length)
    (hOver : (j.strand id).waiting = .finished)
    (hGroup :
      (j.strand id).group? = some (groupId, position)) :
    (j.passOn groupId position).Sound none := by
  have hLess := hSound.grouped id groupId position hGroup
  have hPassed : (j.passOn groupId position).Sound (some id) := by
    rw [passOn_eq]
    exact
      hSound.regroup
        (hSound.regroups_passOn hId hLess position)
  refine hPassed.leave ?_ ?_
  · rw [passOn_eq]
    exact hOver
  · intro line place hBelongs
    rw [passOn_eq] at hBelongs
    have hSame := Option.some.inj (hGroup.symm.trans hBelongs)
    cases hSame
    have hAfter :
        (j.passOn groupId position).group groupId =
          (j.group groupId).passing position := by
      rw [passOn_eq]
      exact (group_setGroup hLess _ _).trans (if_pos rfl)
    rw [hAfter]
    intro hFree
    rcases hSound.next_holds hFree with ⟨next, hNot, hHolds⟩
    refine ⟨next, hNot, ?_⟩
    rw [passOn_eq]
    exact hHolds

theorem dropTimers
    {alarms : Bool}
    (hSound : j.Sound (some id))
    (hAlarms :
      alarms = true → (j.strand id).waiting = .finished) :
    (j.dropTimers id alarms).Sound (some id) := by
  refine hSound.retime ?_ ?_
  · intro timer hOther
    rw [List.mem_filter]
    simp [hOther]
  · intro hLive timer hTimer _ hKind
    rw [List.mem_filter]
    refine ⟨hTimer, ?_⟩
    cases alarms with
    | false => simp [hKind]
    | true => exact absurd (hAlarms rfl) hLive

/- A strand that has taken its last step leaves no wait behind. -/
theorem finish
    (hSound : j.Sound (some id))
    (hId : id < j.strands.length) :
    (j.finish id).Sound none := by
  have hStrand := retire_strand hId
  have hOver : ((j.retire id).strand id).waiting = .finished := by
    rw [hStrand]
    rfl
  have hRetired : (j.retire id).Sound (some id) := by
    have hSet :
        (j.setStrand id (j.strand id).over).Sound (some id) := by
      refine hSound.setStrand hId rfl ?_ ?_
      · intro hLive
        exact absurd rfl hLive
      · exact ⟨_, fun _ => rfl, .nil⟩
    refine hSet.dropTimers ?_
    intro _
    exact hOver
  rw [finish_eq]
  split
  · rename_i hGroup
    refine hRetired.leave hOver ?_
    intro groupId position hBelongs
    rw [hStrand] at hBelongs
    exact absurd (hGroup.symm.trans hBelongs) nofun
  · rename_i groupId position hGroup
    refine hRetired.passOn ?_ hOver ?_
    · exact Nat.lt_of_lt_of_eq hId List.length_set.symm
    · rw [hStrand]
      exact hGroup

------------------------------------------------------------
-- Waits
------------------------------------------------------------

theorem addTimer
    {timer : Timer}
    (hSound : j.Sound (some id))
    (hStrand : timer.strand = id) :
    (j.addTimer timer).Sound (some id) := by
  refine hSound.retime ?_ ?_
  · intro other hOther
    rw [List.mem_append, List.mem_singleton]
    constructor
    · rintro (hBefore | rfl)
      · exact hBefore
      · exact absurd hStrand hOther
    · exact Or.inl
  · intro _ other hTimer _ _
    exact List.mem_append_left _ hTimer

/- A strand that first waits has an alarm set for its deadline. -/
theorem addAlarm
    {resume : Nat}
    (hSound : j.Sound (some id))
    (hId : id < j.strands.length) :
    (j.addAlarm id resume).Sound (some id) := by
  unfold Journal.addAlarm
  dsimp only
  split
  · exact hSound.addTimer rfl
  · split
    · exact hSound
    · have hTimer :
          (j.addTimer
            ⟨(j.strand id).deadline, id, true⟩).Sound
              (some id) :=
        hSound.addTimer rfl
      refine hTimer.setStrand hId rfl ?_ ?_
      · intro _ _
        refine
          Or.inr
            ⟨⟨(j.strand id).deadline, id, true⟩, ?_, rfl, rfl,
              rfl⟩
        exact
          List.mem_append_right _ (List.mem_singleton_self _)
      · exact hSound.steps id hId

/- The alarm rings when a wait is over that ends by the deadline. -/
theorem exists_alarm
    {resume : Nat}
    (hSound : j.Sound (some id))
    (hLive : (j.strand id).waiting ≠ .finished)
    (hTime : j.time < resume)
    (hResume : id ≠ 0 → resume ≤ (j.strand id).deadline) :
    ∃ timer ∈ (j.addAlarm id resume).timers,
      timer.strand = id ∧ resume ≤ timer.due := by
  unfold Journal.addAlarm
  dsimp only
  split
  · exact
      ⟨_, List.mem_append_right _ (List.mem_singleton_self _),
        rfl, Nat.le_refl _⟩
  · rename_i hRoot
    split
    · rename_i hAlarm
      rcases hSound.alarms id hLive hAlarm with
        hOver | ⟨timer, hTimer, hStrand, _, hDue⟩
      · have hLate := hResume hRoot
        omega
      · exact ⟨timer, hTimer, hStrand, hDue ▸ hResume hRoot⟩
    · exact
        ⟨_, List.mem_append_right _ (List.mem_singleton_self _),
          rfl, hResume hRoot⟩

theorem keep
    {steps : List Step}
    {waiting : Waiting}
    {asksModel : Bool}
    (hSound : j.Sound (some id))
    (hId : id < j.strands.length)
    (hLive : (j.strand id).waiting ≠ .finished)
    (hSteps :
      ∃ deadline,
        (id ≠ 0 → deadline = (j.strand id).deadline) ∧
          Joinable deadline steps) :
    (j.keep id steps waiting asksModel).Sound (some id) :=
  hSound.setStrand hId rfl
    (fun _ hAlarm => hSound.alarms id hLive hAlarm) hSteps

/- A strand that makes a call is woken when the answer is there. -/
theorem awaitAnswer
    {due resume : Nat}
    {rest : List Step}
    {asksModel : Bool}
    (hSound : j.Sound (some id))
    (hId : id < j.strands.length)
    (hLive : (j.strand id).waiting ≠ .finished)
    (hDue : resume ≤ due)
    (hSteps :
      ∃ deadline,
        (id ≠ 0 → deadline = (j.strand id).deadline) ∧
          Joinable deadline rest) :
    (((j.keep id rest (.answer resume) asksModel).addTimer
        ⟨due, id, false⟩).addAlarm id resume).Sound none := by
  let kept := j.keep id rest (.answer resume) asksModel
  let timed := kept.addTimer ⟨due, id, false⟩
  have hKept : timed.Sound (some id) :=
    (hSound.keep hId hLive hSteps).addTimer rfl
  have hLess : id < timed.strands.length :=
    Nat.lt_of_lt_of_eq hId (length_keep _ _ _ _ _).symm
  rcases addAlarm_spec hLess resume with
    ⟨hWaits, _, _, hTimers⟩
  have hWaiting :
      ((timed.addAlarm id resume).strand id).waiting =
        .answer resume := by
    rw [hWaits]
    exact congrArg Strand.waiting (keep_strand hId _ _ _)
  refine (hKept.addAlarm hLess).settle ?_ ?_ ?_
  · unfold Awaits
    rw [hWaiting]
    refine Or.inr ⟨_, hTimers ⟨due, id, false⟩ ?_, rfl, hDue⟩
    exact List.mem_append_right _ (List.mem_singleton_self _)
  · rw [hWaiting]
    rfl
  · rw [hWaiting]
    nofun

/- A strand that waits for a branch which has not finished. -/
theorem settle_branches
    {groupId : Nat}
    {pause : Pause}
    (hSound : j.Sound (some id))
    (hWaiting :
      (j.strand id).waiting = .branches groupId pause)
    (hJoins : Joins id (j.strand id) groupId j.groups)
    (hLeft :
      if pause.cut then
        j.RousedAt id pause.resume (j.Roused id)
      else Unfinished (j.group groupId)) :
    j.Sound none := by
  refine hSound.settle ?_ ?_ ?_
  · unfold Awaits
    rw [hWaiting]
    refine ⟨hJoins, ?_⟩
    split
    · rename_i hCut
      rw [if_pos hCut] at hLeft
      exact hLeft
    · rename_i hCut
      rw [if_neg hCut] at hLeft
      exact Or.inr hLeft
  · rw [hWaiting]
    rfl
  · rw [hWaiting]
    nofun

/- A strand that waits for branches is woken when they are over. -/
theorem awaitBranches
    {groupId : Nat}
    {pause : Pause}
    {rest : List Step}
    (hSound : j.Sound (some id))
    (hId : id < j.strands.length)
    (hLive : (j.strand id).waiting ≠ .finished)
    (hJoins : Joins id (j.strand id) groupId j.groups)
    (hLeft : Unfinished (j.group groupId))
    (hTime : pause.cut = true → j.time < pause.resume)
    (hCut :
      pause.cut = true →
        id ≠ 0 → pause.resume ≤ (j.strand id).deadline)
    (hSteps :
      ∃ deadline,
        (id ≠ 0 → deadline = (j.strand id).deadline) ∧
          Joinable deadline rest) :
    ((j.keep id rest (.branches groupId pause)
          false).addAlarm id pause.resume).Sound none ∧
      (pause.cut = false →
        (j.keep id rest (.branches groupId pause)
          false).Sound none) := by
  let kept := j.keep id rest (.branches groupId pause) false
  have hKept : kept.Sound (some id) :=
    hSound.keep hId hLive hSteps
  have hLess : id < kept.strands.length :=
    Nat.lt_of_lt_of_eq hId (length_keep _ _ _ _ _).symm
  have hStrand : kept.strand id = _ :=
    keep_strand hId rest (.branches groupId pause) false
  have hWaiting :
      (kept.strand id).waiting = .branches groupId pause :=
    congrArg Strand.waiting hStrand
  have hStill : Joins id (kept.strand id) groupId j.groups :=
    { hJoins with
      later := by
        rw [hStrand]
        exact hJoins.later }
  constructor
  · rcases addAlarm_spec hLess pause.resume with
      ⟨hWaits, hGroup, hGroups, _⟩
    refine
      (hKept.addAlarm hLess).settle_branches
        (hWaits.trans hWaiting) ?_ ?_
    · rw [hGroups]
      exact
        { hStill with
          later := by
            rw [hGroup]
            exact hStill.later }
    · split
      · rename_i hEnds
        have hBusy : (kept.strand id).waiting ≠ .finished := by
          rw [hWaiting]
          nofun
        refine
          Or.inr
            (hKept.exists_alarm hBusy (hTime hEnds) ?_)
        rw [hStrand]
        exact hCut hEnds
      · rw [group, hGroups]
        exact hLeft
  · intro hUncut
    refine hKept.settle_branches hWaiting hStill ?_
    rw [hUncut]
    exact hLeft

------------------------------------------------------------
-- Taking Steps
------------------------------------------------------------

theorem spawn
    {groupId deadline position : Nat}
    {branches : List (Nat × List Step)}
    (hSound : j.Sound (some id))
    (hGroup : groupId < j.groups.length)
    (hSteps :
      ∀ branch ∈ branches, Joinable deadline branch.2) :
    (Journal.spawn groupId deadline position branches j).Sound
      (some id) := by
  induction branches generalizing position j with
  | nil => exact hSound
  | cons branch rest ih =>
      rcases branch with ⟨start, steps⟩
      rw [spawn_cons]
      refine ih ?_ ?_ ?_
      · exact
          hSound.addStrand hGroup
            (hSteps (start, steps) List.mem_cons_self)
      · rw [addStrand_groups]
        exact hGroup
      · intro branch hBranch
        exact hSteps branch (List.mem_cons_of_mem _ hBranch)

/- A group of branches that are to start, and share a permit. -/
theorem branchOut
    {permits deadline : Nat}
    {branches : List (Nat × List Step)}
    (hSound : j.Sound (some id))
    (hPermits : permits ≠ 0)
    (hBranches :
      ∀ branch ∈ branches, Joinable deadline branch.2) :
    (j.branchOut id permits deadline branches).Sound
      (some id) := by
  unfold Journal.branchOut
  refine (hSound.addGroup hPermits rfl rfl).spawn ?_ hBranches
  rw [List.length_append]
  exact Nat.lt_succ_self _

/- The group is a new one, and none of its branches has finished. -/
theorem branchOut_joins
    {branches : List (Nat × List Step)}
    (hSound : j.Sound (some id))
    (permits deadline : Nat)
    (hId : id < j.strands.length)
    (hSome : branches ≠ []) :
    Joins id
        ((j.branchOut id permits deadline branches).strand id)
        j.groups.length
        (j.branchOut id permits deadline branches).groups ∧
      Unfinished
        ((j.branchOut id permits deadline branches).group
          j.groups.length) := by
  rcases branchOut_keeps id permits deadline branches hId with
    ⟨_, hStrand, hGroups, _⟩
  have hNew :
      (j.branchOut id permits deadline branches).group
          j.groups.length =
        newGroup id permits branches := by
    rw [group, hGroups]
    exact (getD_concat _ _ _ _).trans (if_pos rfl)
  constructor
  · refine
      { exists_group := ?_
        joiner_eq := congrArg Group.joiner hNew
        later := ?_ }
    · rw [hGroups, List.length_append]
      exact Nat.lt_succ_self _
    · intro own position hOwn
      rw [hStrand] at hOwn
      exact hSound.grouped id own position hOwn
  · rw [hNew]
    exact newGroup_unfinished hSome

theorem release
    {asksModel : Bool}
    (hSound : j.Sound running) :
    (j.release asksModel).Sound running := by
  unfold Journal.release
  split
  · exact { hSound with }
  · exact hSound

theorem note
    {call : Call}
    (hSound : j.Sound running) :
    (j.note call).Sound running :=
  { hSound with }

/- A strand that takes its steps comes to an end, or waits soundly. -/
theorem proceed
    {deadline : Nat}
    {steps : List Step}
    (hSound : j.Sound (some id))
    (hId : id < j.strands.length)
    (hLive : (j.strand id).waiting ≠ .finished)
    (hDeadline : id ≠ 0 → deadline = (j.strand id).deadline)
    (hSteps : Joinable deadline steps) :
    (Journal.proceed id steps j).Sound none := by
  induction steps generalizing j with
  | nil => exact hSound.finish hId
  | cons step rest ih =>
      cases hSteps with
      | @call _ time due call pause? _ hDue hRest =>
          rcases proceed_call id time due call pause? rest j with
            hNext | ⟨pause, hPause, _, hNext⟩
          · have hStrands :
                ((j.note call).release
                  (isModelCall call)).strands = j.strands :=
              release_strands _ _
            have hSame :
                ((j.note call).release
                  (isModelCall call)).strand id =
                    j.strand id := by
              rw [strand, hStrands, strand]
            rw [hNext]
            refine ih hSound.note.release ?_ ?_ ?_ hRest
            · rw [hStrands]
              exact hId
            · rw [hSame]
              exact hLive
            · rw [hSame]
              exact hDeadline
          · rw [hNext]
            exact
              hSound.note.awaitAnswer hId hLive
                (hDue pause hPause) ⟨deadline, hDeadline, hRest⟩
      | milestone hRest =>
          exact ih hSound hId hLive hDeadline hRest
      | @fan _ time permits limit branches pause _ hPermits
          hSome _ hTime hCut hBranches hRest =>
          rcases branchOut_keeps id permits limit branches hId with
            ⟨hLess, hStrand, _, _⟩
          have hOut :
              (j.branchOut id permits limit branches).Sound
                (some id) :=
            hSound.branchOut hPermits hBranches
          rcases hSound.branchOut_joins permits limit hId hSome with
            ⟨hJoins, hLeft⟩
          rw [← hStrand] at hLive hDeadline
          rcases proceed_fan id time permits limit branches
              pause rest j with
            hNext | ⟨hEnds, hNext⟩
          · rw [hNext]
            exact ih hOut hLess hLive hDeadline hRest
          · have hWaits :=
              hOut.awaitBranches hLess hLive hJoins hLeft hEnds
                (fun hOver hInner =>
                  hDeadline hInner ▸ hCut hOver)
                ⟨deadline, hDeadline, hRest⟩
            rcases hNext with hNext | ⟨hUncut, hNext⟩
            · rw [hNext]
              exact hWaits.1
            · rw [hNext]
              exact hWaits.2 hUncut

/- A strand that does not wait on. -/
theorem goOn
    {now : Journal}
    (hNow : now.Sound (some id))
    (hStrands : now.strands = j.strands)
    (hId : id < j.strands.length)
    (hLive : (j.strand id).waiting ≠ .finished) :
    (Journal.proceed id (j.strand id).steps now).Sound none := by
  have hSame : now.strand id = j.strand id := by
    rw [strand, hStrands, strand]
  rw [← hStrands] at hId
  rcases hNow.steps id hId with ⟨deadline, hDeadline, hSteps⟩
  rw [← hSame] at hLive ⊢
  exact hNow.proceed hId hLive hDeadline hSteps

------------------------------------------------------------
-- The Turn Of A Strand
------------------------------------------------------------

/- A strand that takes a permit that is free. -/
theorem takePermit
    {groupId position : Nat}
    (hSound : j.Sound (some id))
    (hGroup :
      (j.strand id).group? = some (groupId, position))
    (hFree : (j.group groupId).free ≠ 0) :
    (j.takePermit groupId).Sound (some id) := by
  have hLess := hSound.grouped id groupId position hGroup
  have hEmpty : (j.group groupId).queue = [] := by
    by_cases hQueue : (j.group groupId).queue = []
    · exact hQueue
    · exact absurd (hSound.full groupId hQueue) hFree
  refine
    hSound.setGroup hLess rfl rfl (Or.inr fun h => h) ?_ ?_
  · intro hQueue
    exact absurd hEmpty hQueue
  · intro _
    refine ⟨id, ⟨position, hGroup⟩, ?_, Or.inl rfl⟩
    rw [hEmpty]
    exact List.not_mem_nil

/- A strand that sees which of its branches is over. -/
theorem lookAt
    {groupId : Nat}
    (hSound : j.Sound (some id))
    (hJoins : Joins id (j.strand id) groupId j.groups) :
    (j.lookAt groupId).Sound (some id) :=
  hSound.setGroup hJoins.exists_group rfl rfl
    (Or.inl hJoins.joiner_eq) (hSound.full groupId)
    (hSound.held groupId hJoins.exists_group)

/- A strand that finds its branches not over waits on. -/
theorem waitOn
    {groupId : Nat}
    {pause : Pause}
    (hSound : j.Sound (some id))
    (hWaiting :
      (j.strand id).waiting = .branches groupId pause)
    (hAwaits : j.Awaits id True (j.strand id))
    (hWaits : ¬ j.IsOver groupId pause) :
    (j.lookAt groupId).Sound none := by
  unfold Awaits at hAwaits
  rw [hWaiting] at hAwaits
  rcases hAwaits with ⟨hJoins, hEnds⟩
  have hGroup :
      (j.lookAt groupId).group groupId =
        { j.group groupId with
          awaiting := firstUnfinished (j.group groupId) } :=
    (group_setGroup hJoins.exists_group _ _).trans (if_pos rfl)
  have hJoiner :
      ((j.lookAt groupId).group groupId).joiner =
        (j.group groupId).joiner := by
    rw [hGroup]
  refine (hSound.lookAt hJoins).settle_branches hWaiting ?_ ?_
  · exact
      hJoins.of_joiner (Nat.le_of_eq List.length_set.symm)
        hJoiner
  · unfold IsOver at hWaits
    split
    · rename_i hCut
      rw [if_pos hCut] at hEnds hWaits
      have hEarly := Nat.lt_of_not_le hWaits
      exact
        (hEnds.of_early hEarly).of_more (fun h => h) rfl rfl
    · rename_i hCut
      rw [if_neg hCut] at hWaits
      rw [hGroup]
      exact unfinished_of_first hWaits

end Sound

/- What a strand that has its turn has waited for. -/
structure HasTurn
    (id : Nat)
    (j : Journal) : Prop where
  sound : j.Sound (some id)
  exists_strand : id < j.strands.length
  awaits : j.Awaits id True (j.strand id)
  gone : ¬ j.Roused id
  held :
    ∀ groupId < j.groups.length,
      (j.group groupId).free = 0 →
        ∃ other,
          Holds none groupId other (j.strand other)
            (j.group groupId).queue
  fresh :
    (j.strand id).waiting.isFresh = true →
      (∀ timer ∈ j.timers, timer.strand ≠ id) ∧
        ∀ groupId < j.groups.length,
          (j.group groupId).joiner ≠ id

/- A strand that has its turn comes to an end, or waits soundly. -/
theorem HasTurn.sound_poll
    (hTurn : HasTurn id j) :
    (j.poll id).Sound none := by
  have hSound := hTurn.sound
  have hId := hTurn.exists_strand
  have hAwaits := hTurn.awaits
  have hPolled := polled_poll j id
  generalize j.poll id = next at hPolled ⊢
  cases hPolled with
  | finished hWaiting =>
      refine hSound.leave hWaiting ?_
      intro groupId position hGroup hFree
      have hLess := hSound.grouped id groupId position hGroup
      rcases hTurn.held groupId hLess hFree with
        ⟨other, hBelongs, hServed, hActive⟩
      rcases hActive with hRuns | hActive
      · cases hRuns
      · refine
          ⟨other, ?_, hBelongs, hServed, Or.inr hActive⟩
        rintro rfl
        exact hActive.1 hWaiting
  | permitted hWaiting =>
      exact hSound.goOn rfl hId (by rw [hWaiting]; nofun)
  | alone hWaiting hGroup =>
      exact hSound.goOn rfl hId (by rw [hWaiting]; nofun)
  | queued hWaiting hGroup hFull =>
      exact
        hSound.enqueue hId hWaiting hGroup hFull hTurn.gone
          hTurn.held (hTurn.fresh (by rw [hWaiting]; rfl))
  | admitted hWaiting hGroup hFree =>
      exact
        (hSound.takePermit hGroup hFree).goOn rfl hId
          (by rw [hWaiting]; nofun)
  | answered hWaiting =>
      have hDropped :
          ((j.release
              (j.strand id).asksModel).dropTimers id
                false).Sound (some id) :=
        hSound.release.dropTimers nofun
      exact
        hDropped.goOn (release_strands _ _) hId
          (by rw [hWaiting]; nofun)
  | @unanswered resume hWaiting hTime =>
      refine hSound.settle ?_ ?_ ?_
      · unfold Awaits at hAwaits ⊢
        rw [hWaiting] at hAwaits ⊢
        exact hAwaits.of_early hTime
      · rw [hWaiting]
        rfl
      · rw [hWaiting]
        nofun
  | @joined groupId pause hWaiting hOver =>
      unfold Awaits at hAwaits
      rw [hWaiting] at hAwaits
      have hLooked := hSound.lookAt hAwaits.1
      have hDropped :
          ((j.lookAt groupId).dropTimers id false).Sound
            (some id) :=
        hLooked.dropTimers nofun
      exact hDropped.goOn rfl hId (by rw [hWaiting]; nofun)
  | unjoined hWaiting hWaits =>
      exact hSound.waitOn hWaiting hAwaits hWaits

------------------------------------------------------------
-- The Turn Of The Thread
------------------------------------------------------------

namespace Sound

variable {running : Option Nat}

/- A strand in no queue may be given its turn. -/
theorem pop
    {ready : List Nat}
    {woken draining : Bool}
    (hSound : j.Sound none)
    (hRoused : j.Roused id)
    (hOthers :
      ∀ other, other ≠ id →
        (Roused
            { j with
              ready := ready
              woken := woken
              draining := draining }
            other ↔
          j.Roused other))
    (hGone :
      ¬ Roused
        { j with
          ready := ready
          woken := woken
          draining := draining }
        id)
    (hNodup : ready.Nodup)
    (hPos : 0 ∉ ready) :
    Sound (some id)
      { j with
        ready := ready
        woken := woken
        draining := draining } :=
  { hSound with
    awaits := by
      intro other hExists hNot
      have hKeeps :=
        (hOthers other
          fun h => hNot (congrArg some h.symm)).mpr
      exact
        (hSound.awaits other hExists nofun).of_more hKeeps rfl
          rfl rfl
    inLine := by
      intro line other hIn
      rcases hSound.inLine line other hIn with
        ⟨_, hWaits, hRest⟩
      have hNot : other ≠ id := by
        rintro rfl
        exact hWaits hRoused
      refine ⟨fun h => hNot (Option.some.inj h).symm, ?_, hRest⟩
      exact fun h => hWaits ((hOthers other hNot).mp h)
    held := by
      intro line hExists hFree
      rcases hSound.held line hExists hFree with
        ⟨other, hBelongs, hServed, hActive⟩
      refine ⟨other, hBelongs, hServed, Or.inr ?_⟩
      rcases hActive with hRuns | hActive
      · cases hRuns
      · exact hActive
    fresh := by
      intro other _ hFresh
      exact hSound.fresh other nofun hFresh
    roused_lt := by
      intro other hTurn
      by_cases hSame : other = id
      · exact absurd (hSame ▸ hTurn) hGone
      · exact
          hSound.roused_lt other ((hOthers other hSame).mp hTurn)
    ready_nodup := hNodup
    ready_pos := hPos }

/- Giving a strand its turn keeps what it has waited for. -/
theorem hasTurn
    {ready : List Nat}
    {woken draining : Bool}
    (hSound : j.Sound none)
    (hRoused : j.Roused id)
    (hOthers :
      ∀ other, other ≠ id →
        (Roused
            { j with
              ready := ready
              woken := woken
              draining := draining }
            other ↔
          j.Roused other))
    (hGone :
      ¬ Roused
        { j with
          ready := ready
          woken := woken
          draining := draining }
        id)
    (hNodup : ready.Nodup)
    (hPos : 0 ∉ ready) :
    HasTurn id
      { j with
        ready := ready
        woken := woken
        draining := draining } where
  sound :=
    hSound.pop hRoused hOthers hGone hNodup hPos
  exists_strand := hSound.roused_lt id hRoused
  awaits :=
    (hSound.awaits id (hSound.roused_lt id hRoused)
      nofun).of_more (fun _ => trivial) rfl rfl rfl
  gone := hGone
  held := hSound.held
  fresh := hSound.fresh id nofun

/- Time may pass, up to the next timer or beyond. -/
theorem passTime
    (hSound : j.Sound running)
    {time : Nat}
    (hTime : j.time ≤ time)
    (draining : Bool) :
    Sound running { j with time := time, draining := draining } :=
  { hSound with
    awaits := by
      intro other hExists hNot
      refine
        (hSound.awaits other hExists hNot).of_same_groups
          (fun h => h) rfl ?_
      intro resume hResume
      exact
        hResume.mono (fun h => h) hTime fun _ hTimer _ => hTimer
    alarms := by
      intro other hLive hAlarm
      rcases hSound.alarms other hLive hAlarm with
        hOver | hTimer
      · exact Or.inl (Nat.le_trans hOver hTime)
      · exact Or.inr hTimer }

/- The timers that are due wake the strands that wait for them. -/
theorem fire
    (hSound : j.Sound none) :
    j.fire.Sound none := by
  have hRoused := roused_fire_iff j
  have hReady := fire_ready hSound.ready_nodup hSound.ready_pos
  have hLater :
      ∀ timer ∈ j.timers,
        j.time < timer.due →
          timer ∈
            j.timers.filter fun timer =>
              !(timer.due ≤ j.time) := by
    intro timer hTimer hDue
    rw [List.mem_filter]
    simp [hTimer, hDue]
  rw [fire_eq]
  exact
  { hSound with
    awaits := by
      intro other hExists hNot
      have hKeeps : j.Roused other → j.fire.Roused other :=
        fun h => (hRoused other).mpr (Or.inl h)
      refine
        (hSound.awaits other hExists hNot).of_same_groups hKeeps
          rfl ?_
      intro resume hResume
      rcases hResume with
        ⟨hTurn, hDue⟩ | ⟨timer, hTimer, hStrand, hDue⟩
      · exact Or.inl ⟨hKeeps hTurn, hDue⟩
      · rcases Nat.lt_or_ge j.time timer.due with hWaits | hOver
        · exact
            Or.inr
              ⟨timer, hLater timer hTimer hWaits, hStrand, hDue⟩
        · refine Or.inl ⟨?_, Nat.le_trans hDue hOver⟩
          exact
            (hRoused other).mpr
              (Or.inr ⟨timer, hTimer, hOver, hStrand⟩)
    inLine := by
      intro line other hIn
      rcases hSound.inLine line other hIn with
        ⟨hNot, hWaits, hWaiting, hBelongs⟩
      refine ⟨hNot, ?_, hWaiting, hBelongs⟩
      intro hTurn
      rcases (hRoused other).mp hTurn with
        hBefore | ⟨timer, hTimer, _, hStrand⟩
      · exact hWaits hBefore
      · have hFresh :=
          hSound.fresh other hNot (by rw [hWaiting]; rfl)
        exact hFresh.1 timer hTimer hStrand
    fresh := by
      intro other hNot hFresh
      rcases hSound.fresh other hNot hFresh with
        ⟨hTimers, hJoiners⟩
      refine ⟨?_, hJoiners⟩
      intro timer hTimer
      exact hTimers timer (List.mem_filter.mp hTimer).1
    roused_lt := by
      intro other hTurn
      rcases (hRoused other).mp hTurn with
        hBefore | ⟨timer, hTimer, _, hStrand⟩
      · exact hSound.roused_lt other hBefore
      · by_cases hExists : other < j.strands.length
        · exact hExists
        · have hFresh :=
            hSound.fresh other nofun
              (by rw [waiting_of_missing hExists]; rfl)
          exact absurd hStrand (hFresh.1 timer hTimer)
    ready_nodup := hReady.1
    ready_pos := hReady.2
    alarms := by
      intro other hLive hAlarm
      rcases hSound.alarms other hLive hAlarm with
        hOver | ⟨timer, hTimer, hStrand, hKind, hDue⟩
      · exact Or.inl hOver
      · rcases Nat.lt_or_ge j.time timer.due with hWaits | hOver
        · exact
            Or.inr
              ⟨timer, hLater timer hTimer hWaits, hStrand,
                hKind, hDue⟩
        · exact Or.inl (hDue ▸ hOver) }

/- Strand 0 goes first when it was woken. -/
theorem rootTurn
    (hSound : j.Sound none)
    (hWoken : j.woken = true) :
    HasTurn 0 { j with woken := false, draining := true } := by
  refine hSound.hasTurn ?_ ?_ ?_ hSound.ready_nodup
    hSound.ready_pos
  · exact hWoken
  · intro other hNot
    unfold Roused
    rw [if_neg hNot, if_neg hNot]
  · intro hTurn
    cases hTurn

/- The first of the strands that are ready. -/
theorem branchTurn
    {rest : List Nat}
    (hSound : j.Sound none)
    (hReady : j.ready = id :: rest) :
    HasTurn id { j with ready := rest, draining := true } := by
  have hNodup := hSound.ready_nodup
  have hPos := hSound.ready_pos
  rw [hReady] at hNodup hPos
  rcases List.nodup_cons.mp hNodup with ⟨hNotIn, hRest⟩
  have hRoot : id ≠ 0 := by
    rintro rfl
    exact hPos List.mem_cons_self
  refine hSound.hasTurn ?_ ?_ ?_ hRest ?_
  · unfold Roused
    rw [if_neg hRoot, hReady]
    exact List.mem_cons_self
  · intro other hNot
    unfold Roused
    split
    · exact Iff.rfl
    · rw [hReady, List.mem_cons]
      simp [hNot]
  · unfold Roused
    rw [if_neg hRoot]
    exact hNotIn
  · exact fun h => hPos (List.mem_cons_of_mem _ h)

/- A turn leaves every wait one that can come to an end. -/
theorem turn
    (hSound : j.Sound none) :
    j.turn.Sound none := by
  have hTurned := turned_turn j
  generalize j.turn = next at hTurned ⊢
  cases hTurned with
  | root hWoken hDraining =>
      exact (hSound.rootTurn hWoken).sound_poll
  | branch hReady => exact (hSound.branchTurn hReady).sound_poll
  | drained => exact { hSound with }
  | timers =>
      exact (hSound.passTime (Nat.le_max_left _ _) false).fire
  | stuck => exact hSound

end Sound

end Journal

end Automation
