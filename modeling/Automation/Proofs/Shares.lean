import Automation.Proofs.Lines
import Automation.Proofs.Schedules

/-
  Permits that branches share.

  A permit of a group is free, or has been handed to a strand that is to
  start, or is held by a branch that is under way.  A branch that is over
  leaves its permit to the first in the queue, or leaves it free.

  Key definitions include:
    * `Journal.underWay`, how many branches of a group are under way
    * `Journal.Serves`, groups that lose no permit and start in order

  Key theorems include:
    * `Journal.Serves.admitted` and `Journal.Serves.permitted`
    * `Journal.Serves.finish`, a branch that is over
-/

namespace Automation

/- The strand is a branch of the group, and is under way. -/
def Strand.isUnderWayIn
    (groupId : Nat)
    (s : Strand) :
    Bool :=
  s.isIn groupId && s.waiting.isUnderWay

namespace Journal

variable {j now later : Journal}
variable {cap id groupId first begun : Nat}

/- How many branches of a group are under way. -/
def underWay
    (j : Journal)
    (groupId : Nat) :
    Nat :=
  j.strands.countP fun s => s.isUnderWayIn groupId

/- The branches of a group start in order, and share its permits. -/
structure Serves
    (cap : Nat)
    (j : Journal)
    (groupId first begun : Nat) : Prop where
  lined : j.Lined groupId first begun
  shared :
    (j.group groupId).free + (j.called groupId).length +
        j.underWay groupId =
      permitsFor cap (j.size groupId)

------------------------------------------------------------
-- Strands That Change
------------------------------------------------------------

theorem underWay_setStrand
    {s : Strand}
    (hId : id < j.strands.length)
    (groupId : Nat) :
    (j.setStrand id s).underWay groupId +
        (if (j.strand id).isUnderWayIn groupId then 1 else 0) =
      j.underWay groupId +
        if s.isUnderWayIn groupId then 1 else 0 := by
  have hStrand : j.strand id = j.strands[id] := by
    simp [strand, List.getD, hId]
  have hCount :=
    List.boole_getElem_le_countP
      (p := fun s : Strand => s.isUnderWayIn groupId) hId
  unfold underWay setStrand
  rw [List.countP_set hId, hStrand]
  omega

theorem Serves.undisturbed
    (hServes : j.Serves cap groupId first begun)
    (hUndisturbed : Undisturbed groupId j later)
    (hFree :
      (later.group groupId).free = (j.group groupId).free)
    (hUnderWay : later.underWay groupId = j.underWay groupId) :
    later.Serves cap groupId first begun where
  lined := hServes.lined.undisturbed hUndisturbed
  shared := by
    rw [hFree, hUndisturbed.called_eq, hUnderWay,
      hUndisturbed.size_eq]
    exact hServes.shared

namespace Serves

variable (hServes : j.Serves cap groupId first begun)

include hServes

/- Nothing but strands, groups and who is ready matters. -/
theorem of_same
    (hStrands : later.strands = j.strands)
    (hGroups : later.groups = j.groups)
    (hReady : later.ready = j.ready) :
    later.Serves cap groupId first begun := by
  have hGroup : later.group groupId = j.group groupId := by
    rw [group, hGroups, group]
  refine
    hServes.undisturbed
      (.of_same hStrands (by rw [hGroup]) ?_ hReady)
      (by rw [hGroup]) ?_
  · rw [size, hGroup, size]
  · rw [underWay, hStrands, underWay]

/- A branch that is under way may go on or wait. -/
theorem setStrand
    {s : Strand}
    (hId : id < j.strands.length)
    (hGroup : s.group? = (j.strand id).group?)
    (hUnderWay :
      ∀ position,
        (j.strand id).group? = some (groupId, position) →
          (j.strand id).waiting.isUnderWay = true ∧
            s.waiting.isUnderWay = true) :
    (j.setStrand id s).Serves cap groupId first begun := by
  have hSame :
      s.isUnderWayIn groupId =
        (j.strand id).isUnderWayIn groupId := by
    have hIn : s.isIn groupId = (j.strand id).isIn groupId := by
      rw [Strand.isIn, hGroup, Strand.isIn]
    unfold Strand.isUnderWayIn
    rw [hIn]
    cases hOwn : (j.strand id).isIn groupId with
    | false => rfl
    | true =>
        rcases Strand.isIn_iff.mp hOwn with ⟨position, hOwn⟩
        rcases hUnderWay position hOwn with ⟨hBefore, hAfter⟩
        rw [hBefore, hAfter]
  have hCount :=
    underWay_setStrand (s := s) hId groupId
  rw [hSame] at hCount
  refine
    hServes.undisturbed (.setStrand hId hGroup ?_) rfl
      (Nat.add_right_cancel hCount)
  intro position hOwn
  rcases hUnderWay position hOwn with ⟨hBefore, hAfter⟩
  exact
    ⟨Waiting.isFresh_of_underWay hBefore,
      Waiting.isFresh_of_underWay hAfter⟩

/- Waking a strand that has started changes nothing. -/
theorem wake
    (hStarted :
      ∀ position,
        (j.strand id).group? = some (groupId, position) →
          (j.strand id).waiting.isFresh = false) :
    (j.wake id).Serves cap groupId first begun := by
  refine hServes.undisturbed (.wake hStarted) ?_ ?_
  · rw [group, wake_groups, group]
  · rw [underWay, wake_strands, underWay]

/- Another group may change. -/
theorem setGroup
    {other : Nat}
    {g : Group}
    (hOther : other < j.groups.length)
    (hNot : groupId ≠ other) :
    (j.setGroup other g).Serves cap groupId first begun := by
  refine hServes.undisturbed (.setGroup hOther hNot) ?_ rfl
  rw [(group_setGroup hOther g groupId).trans (if_neg hNot)]

end Serves

------------------------------------------------------------
-- The Turn Of A Strand
------------------------------------------------------------

section Turn

variable {position : Nat}

theorem underWay_resumed
    (hId : id < j.strands.length)
    (hGroup :
      (j.strand id).group? = some (groupId, position))
    (hFresh : (j.strand id).waiting.isFresh = true) :
    (j.resumed id).underWay groupId =
      j.underWay groupId + 1 := by
  have hCount :=
    underWay_setStrand (s := (j.strand id).goingOn) hId groupId
  have hIn : (j.strand id).isIn groupId = true :=
    Strand.isIn_iff.mpr ⟨position, hGroup⟩
  have hBefore : (j.strand id).isUnderWayIn groupId = false := by
    rw [Strand.isUnderWayIn, hIn,
      Waiting.isUnderWay_of_fresh hFresh]
    rfl
  have hAfter :
      (j.strand id).goingOn.isUnderWayIn groupId = true := by
    have hStill : (j.strand id).goingOn.isIn groupId = true := hIn
    rw [Strand.isUnderWayIn, hStill]
    rfl
  rw [hBefore, hAfter] at hCount
  exact hCount

theorem Popped.underWay_eq
    (hPopped : Popped id j now)
    (groupId : Nat) :
    now.underWay groupId = j.underWay groupId := by
  rw [underWay, hPopped.strands_eq, underWay]

/- A strand that has started has its turn. -/
theorem Serves.popped
    (hServes : j.Serves cap groupId first begun)
    (hPopped : Popped id j now)
    (hStarted :
      ∀ position,
        (j.strand id).group? = some (groupId, position) →
          (j.strand id).waiting.isFresh = false) :
    now.Serves cap groupId first begun where
  lined := hPopped.lined_of_started hServes.lined hStarted
  shared := by
    have hCalled : now.called groupId = j.called groupId := by
      apply hPopped.lined_of_ne
      intro position hGroup hWaiting
      have hFresh := hStarted position hGroup
      rw [hWaiting] at hFresh
      cases hFresh
    rw [hPopped.group_eq, hCalled, hPopped.underWay_eq,
      hPopped.size_eq]
    exact hServes.shared

/- A strand that finds a permit free takes it. -/
theorem Serves.admitted
    (hServes : j.Serves cap groupId first begun)
    (hPopped : Popped id j now)
    (hId : id < j.strands.length)
    (hGone : id ∉ now.ready)
    (hLess : groupId < j.groups.length)
    (hGroup :
      (j.strand id).group? = some (groupId, position))
    (hWaiting : (j.strand id).waiting = .turn)
    (hQueue : (j.group groupId).queue = [])
    (hFree : (j.group groupId).free ≠ 0) :
    ((now.takePermit groupId).resumed id).Serves cap groupId
      first (begun + 1) where
  lined :=
    hPopped.admitted hServes.lined hId hGone hLess hGroup
      hWaiting hQueue
  shared := by
    have hExists := hPopped.exists_now hId
    have hShared := hServes.shared
    rcases hPopped.coming_cons hServes.lined hGroup hWaiting with
      ⟨_, hCalled, hNone, _⟩
    have hTaken :
        ((now.takePermit groupId).resumed id).group groupId =
          { j.group groupId with
            free := (j.group groupId).free - 1 } := by
      have hSet :
          (now.takePermit groupId).group groupId =
            { now.group groupId with
              free := (now.group groupId).free - 1 } :=
        (group_setGroup (hPopped.groups_eq ▸ hLess) _ _).trans
          (if_pos rfl)
      rw [hPopped.group_eq] at hSet
      exact hSet
    have hStill :
        ((now.takePermit groupId).resumed id).called groupId =
          now.called groupId :=
      @lined_setStrand (now.takePermit groupId) id _ hExists
        hGone .permit groupId
    have hCount :
        ((now.takePermit groupId).resumed id).underWay groupId =
          now.underWay groupId + 1 := by
      refine
        @underWay_resumed (now.takePermit groupId) id groupId
          position hExists ?_ ?_
      · exact (congrArg Strand.group? (hPopped.strand_eq id)).trans
          hGroup
      · have hSame :
            (now.takePermit groupId).strand id = j.strand id :=
          hPopped.strand_eq id
        rw [hSame, hWaiting]
        rfl
    rw [size, hTaken, hStill, hNone, hCount,
      hPopped.underWay_eq]
    rw [hCalled, size] at hShared
    dsimp only [List.length_nil] at hShared ⊢
    omega

/- A strand that has been handed a permit starts. -/
theorem Serves.permitted
    (hServes : j.Serves cap groupId first begun)
    (hPopped : Popped id j now)
    (hId : id < j.strands.length)
    (hGone : id ∉ now.ready)
    (hGroup :
      (j.strand id).group? = some (groupId, position))
    (hWaiting : (j.strand id).waiting = .permit) :
    (now.resumed id).Serves cap groupId first (begun + 1) where
  lined :=
    hPopped.permitted hServes.lined hId hGone hGroup hWaiting
  shared := by
    have hExists := hPopped.exists_now hId
    have hShared := hServes.shared
    have hCalled :
        j.called groupId = [id] ++ now.called groupId :=
      (hPopped.lined_eq .permit groupId).trans
        (by
          rw [if_pos
            ⟨Strand.isIn_iff.mpr ⟨position, hGroup⟩, hWaiting⟩]
          rfl)
    have hStill :
        (now.resumed id).called groupId = now.called groupId :=
      lined_setStrand hExists hGone .permit groupId
    have hCount :
        (now.resumed id).underWay groupId =
          now.underWay groupId + 1 := by
      have hNow :
          (now.strand id).group? = some (groupId, position) := by
        rw [hPopped.strand_eq]
        exact hGroup
      refine underWay_resumed hExists hNow ?_
      rw [hPopped.strand_eq, hWaiting]
      rfl
    have hSame :
        (now.resumed id).group groupId = j.group groupId :=
      hPopped.group_eq groupId
    rw [size, hSame, hStill, hCount, hPopped.underWay_eq]
    rw [hCalled, List.length_append, List.length_singleton,
      size] at hShared
    omega

/- A strand that finds none free takes none. -/
theorem Serves.queued
    (hServes : j.Serves cap groupId first begun)
    (hPopped : Popped id j now)
    (hId : id < j.strands.length)
    (hGone : id ∉ now.ready)
    (hLess : groupId < j.groups.length)
    (hGroup :
      (j.strand id).group? = some (groupId, position))
    (hWaiting : (j.strand id).waiting = .turn) :
    (now.enqueue groupId id).Serves cap groupId first begun where
  lined :=
    hPopped.queued hServes.lined hId hGone hLess hGroup hWaiting
  shared := by
    have hExists := hPopped.exists_now hId
    have hLine : groupId < now.groups.length :=
      hPopped.groups_eq ▸ hLess
    have hShared := hServes.shared
    rcases hPopped.coming_cons hServes.lined hGroup hWaiting with
      ⟨_, hCalled, hNone, _⟩
    have hStill :
        (now.enqueue groupId id).called groupId =
          now.called groupId :=
      @lined_setStrand (now.setGroup groupId _) id
        (now.strand id).queued hExists hGone .permit groupId
    have hCount :=
      @underWay_setStrand (now.setGroup groupId
        { now.group groupId with
          queue := (now.group groupId).queue ++ [id] })
        id (now.strand id).queued hExists groupId
    have hSame :
        (now.setGroup groupId
          { now.group groupId with
            queue := (now.group groupId).queue ++ [id] }).strand
              id = j.strand id :=
      hPopped.strand_eq id
    have hBefore : (j.strand id).isUnderWayIn groupId = false := by
      simp [Strand.isUnderWayIn, hWaiting, Waiting.isUnderWay]
    have hAfter :
        (now.strand id).queued.isUnderWayIn groupId = false := by
      simp [Strand.isUnderWayIn, Strand.queued,
        Waiting.isUnderWay]
    rw [hSame, hBefore, hAfter] at hCount
    have hUnderWay :
        (now.enqueue groupId id).underWay groupId =
          j.underWay groupId :=
      (Nat.add_right_cancel hCount).trans
        (hPopped.underWay_eq groupId)
    rw [size, hStill, hNone, hUnderWay, group_enqueue_eq hLine]
    rw [hCalled, size] at hShared
    rw [hPopped.group_eq]
    exact hShared

end Turn

------------------------------------------------------------
-- The End Of A Branch
------------------------------------------------------------

section Finish

variable {position : Nat}

theorem passPermit_strands
    (j : Journal)
    (groupId position : Nat) :
    (j.passPermit groupId position).strands = j.strands := by
  unfold passPermit
  dsimp only
  split
  · rfl
  · rw [wake_strands]
    rfl

theorem underWay_retire
    (hId : id < j.strands.length)
    (hGroup :
      (j.strand id).group? = some (groupId, position))
    (hUnderWay : (j.strand id).waiting.isUnderWay = true) :
    (j.retire id).underWay groupId + 1 =
      j.underWay groupId := by
  have hCount :=
    underWay_setStrand (s := (j.strand id).over) hId groupId
  have hIn : (j.strand id).isIn groupId = true :=
    Strand.isIn_iff.mpr ⟨position, hGroup⟩
  have hBefore : (j.strand id).isUnderWayIn groupId = true := by
    rw [Strand.isUnderWayIn, hIn, hUnderWay]
    rfl
  have hAfter :
      (j.strand id).over.isUnderWayIn groupId = false := by
    have hStill : (j.strand id).over.isIn groupId = true := hIn
    rw [Strand.isUnderWayIn, hStill]
    rfl
  rw [hBefore, hAfter] at hCount
  exact hCount

/- A strand of another group, or of none, is over. -/
theorem Serves.retire
    (hServes : j.Serves cap groupId first begun)
    (hId : id < j.strands.length)
    (hNot :
      ∀ position,
        (j.strand id).group? ≠ some (groupId, position)) :
    (j.retire id).Serves cap groupId first begun := by
  have hSet :
      (j.setStrand id (j.strand id).over).Serves cap groupId
        first begun :=
    hServes.setStrand hId rfl
      fun position hGroup => absurd hGroup (hNot position)
  exact hSet.of_same rfl rfl rfl

/- The permit of a branch that is over goes to the first in the queue. -/
theorem serves_passPermit
    (hLined : j.Lined groupId first begun)
    (hShared :
      (j.group groupId).free + (j.called groupId).length +
          (j.underWay groupId + 1) =
        permitsFor cap (j.size groupId))
    (hLess : groupId < j.groups.length)
    (hNext :
      ∀ next ∈ (j.group groupId).queue,
        ¬ j.Roused next ∧
          (j.strand next).waiting = .permit ∧
          ∃ place,
            (j.strand next).group? = some (groupId, place))
    (hLine :
      (j.group groupId).queue = [] ∨ j.coming groupId = [])
    (position : Nat) :
    (j.passPermit groupId position).Serves cap groupId first
      begun := by
  let passed :=
    j.setGroup groupId ((j.group groupId).passing position)
  have hGroup :
      passed.group groupId = (j.group groupId).passing position :=
    (group_setGroup hLess _ _).trans (if_pos rfl)
  have hSize : passed.size groupId = j.size groupId := by
    rw [size, hGroup, Group.passing_finished, List.length_set,
      size]
  cases hQueue : (j.group groupId).queue with
  | nil =>
      have hPassed : j.passPermit groupId position = passed := by
        unfold passPermit
        rw [hQueue]
      have hUndisturbed : Undisturbed groupId j passed :=
        .of_same rfl
          (by rw [hGroup, Group.passing_queue, hQueue]; rfl)
          hSize rfl
      have hUnderWay : passed.underWay groupId = j.underWay groupId :=
        rfl
      rw [hPassed]
      refine ⟨hLined.undisturbed hUndisturbed, ?_⟩
      rw [hGroup, Group.passing_free_of_empty _ _ hQueue,
        hUndisturbed.called_eq, hUnderWay, hSize, ← hShared]
      omega
  | cons next rest =>
      have hIn : next ∈ (j.group groupId).queue := by
        rw [hQueue]
        exact List.mem_cons_self
      have hComing : j.coming groupId = [] := by
        rcases hLine with hEmpty | hComing
        · rw [hEmpty] at hIn
          cases hIn
        · exact hComing
      rcases hNext next hIn with ⟨hIdle, hWaiting, place, hPlace⟩
      rcases hLined.handOn hLess hQueue hComing hIdle hWaiting
          hPlace position with ⟨hStill, hCalled⟩
      have hPassed :
          j.passPermit groupId position = passed.wake next := by
        unfold passPermit
        rw [hQueue]
      have hAfter :
          (passed.wake next).group groupId =
            passed.group groupId := by
        rw [group, wake_groups, group]
      have hUnderWay :
          (passed.wake next).underWay groupId =
            j.underWay groupId := by
        rw [underWay, wake_strands]
        rfl
      refine ⟨hStill, ?_⟩
      rw [hCalled, hPassed, size, hAfter, ← size, hSize, hGroup,
        Group.passing_free _ _ hQueue, hUnderWay,
        List.length_append, List.length_singleton, ← hShared]
      omega

/- The permit of a branch of another group stays with that group. -/
theorem Serves.passPermit
    {own : Nat}
    (hServes : j.Serves cap groupId first begun)
    (hLess : own < j.groups.length)
    (hNot : groupId ≠ own)
    (hNext :
      ∀ next ∈ (j.group own).queue,
        ∃ place, (j.strand next).group? = some (own, place))
    (position : Nat) :
    (j.passPermit own position).Serves cap groupId first
      begun := by
  have hPassed :=
    hServes.setGroup (g := (j.group own).passing position) hLess
      hNot
  unfold Journal.passPermit
  dsimp only
  split
  · exact hPassed
  · rename_i next rest hQueue
    refine hPassed.wake ?_
    intro place hPlace
    rcases hNext next (by rw [hQueue]; exact List.mem_cons_self)
      with ⟨other, hOther⟩
    exact absurd (Strand.group_eq hOther hPlace) hNot

/- Whoever waits for a branch that is over is in no line. -/
theorem Serves.passOn
    {own : Nat}
    (hServes :
      (j.passPermit own position).Serves cap groupId first begun)
    (hJoiner :
      (j.strand (j.group own).joiner).waiting.isFresh = false) :
    (j.passOn own position).Serves cap groupId first begun := by
  unfold Journal.passOn
  dsimp only
  split
  · refine hServes.wake ?_
    intro place _
    rw [strand, passPermit_strands, ← strand]
    exact hJoiner
  · exact hServes

/- A strand that has branches has started. -/
theorem Sound.joiner_started
    {running : Option Nat}
    {own : Nat}
    (hSound : j.Sound running)
    (hOwn : own < j.groups.length)
    (hRuns : running ≠ some (j.group own).joiner) :
    (j.strand (j.group own).joiner).waiting.isFresh = false := by
  cases hFresh :
      (j.strand (j.group own).joiner).waiting.isFresh with
  | false => rfl
  | true =>
      exact absurd rfl ((hSound.fresh _ hRuns hFresh).2 own hOwn)

/- A branch that is over leaves its permit to others. -/
theorem Serves.finish
    (hServes : j.Serves cap groupId first begun)
    (hSound : j.Sound (some id))
    (hId : id < j.strands.length)
    (hLess : groupId < j.groups.length)
    (hOwn :
      ∀ position,
        (j.strand id).group? = some (groupId, position) →
          (j.strand id).waiting.isUnderWay = true ∧
            ((j.group groupId).queue = [] ∨
              j.coming groupId = [])) :
    (j.finish id).Serves cap groupId first begun := by
  have hStrand :
      ∀ other,
        (j.retire id).strand other =
          if other = id then (j.strand id).over
          else j.strand other :=
    strand_setStrand hId _
  rw [finish_eq]
  split
  · rename_i hGroup
    refine hServes.retire hId ?_
    intro position hBelongs
    rw [hGroup] at hBelongs
    cases hBelongs
  rename_i own position hGroup
  have hNext :
      ∀ next ∈ (j.group own).queue,
        ¬ (j.retire id).Roused next ∧
          ((j.retire id).strand next).waiting = .permit ∧
          ∃ place,
            ((j.retire id).strand next).group? =
              some (own, place) := by
    intro next hIn
    rcases hSound.inLine own next hIn with ⟨hRuns, hRest⟩
    rw [hStrand, if_neg fun h => hRuns (congrArg some h.symm)]
    exact hRest
  refine Serves.passOn ?_ ?_
  · by_cases hSame : groupId = own
    · subst hSame
      rcases hOwn position hGroup with ⟨hUnderWay, hLine⟩
      have hSet :
          Undisturbed groupId j
            (j.setStrand id (j.strand id).over) :=
        .setStrand hId rfl fun _ _ =>
          ⟨Waiting.isFresh_of_underWay hUnderWay, rfl⟩
      have hRetired : Undisturbed groupId j (j.retire id) :=
        hSet.trans (.of_same rfl rfl rfl rfl)
      refine
        serves_passPermit (hServes.lined.undisturbed hRetired)
          ?_ hLess hNext ?_ position
      · rw [underWay_retire hId hGroup hUnderWay,
          hRetired.called_eq]
        exact hServes.shared
      · rw [hRetired.coming_eq]
        exact hLine
    · refine
        (hServes.retire hId ?_).passPermit
          (hSound.grouped id own position hGroup) hSame
          (fun next hIn => (hNext next hIn).2.2) position
      intro place hPlace
      exact hSame (Strand.group_eq hGroup hPlace)
  · rw [hStrand]
    split
    · rfl
    · rename_i hNot
      exact
        hSound.joiner_started
          (hSound.grouped id own position hGroup)
          fun h => hNot (Option.some.inj h).symm

end Finish

end Journal

end Automation
