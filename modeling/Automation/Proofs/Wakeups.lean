import Automation.Proofs.Rousing
import Automation.Proofs.Waits

/-
  Strands that wait, and what they rely on.

  A strand that waits is to have a turn, or waits in a queue, or a timer or
  another strand is to wake it.  A group has a queue only when its permits
  are all held, and a strand that holds one is past the queue.  A strand
  that waits for branches waits for one that has not finished, and every
  such branch belongs to a later group than the strand.

  Key definitions include:
    * `Journal.Awaits`, what a strand that waits relies on
    * `Journal.Sound`, journals in which every wait can come to an end
    * `Journal.Regroups`, what may become of a group

  Key theorems include:
    * `Journal.Sound.settle`, the strand that runs waits again
    * `Journal.Sound.regroup`, a group that changes
    * `Journal.Sound.addStrand`, a branch that starts
    * `Journal.Sound.enqueue`, a strand that waits for a permit
-/

namespace Automation

/- A strand that has had no permit yet. -/
def Waiting.isFresh : Waiting → Bool
  | .turn => true
  | .permit => true
  | _ => false

namespace Journal

variable {j : Journal}
variable {id : Nat}

------------------------------------------------------------
-- Strands That Wait
------------------------------------------------------------

/- The strand has its turn at a time, or a timer wakes it then. -/
def RousedAt
    (j : Journal)
    (id time : Nat)
    (roused : Prop) : Prop :=
  (roused ∧ time ≤ j.time) ∨
    ∃ timer ∈ j.timers, timer.strand = id ∧ time ≤ timer.due

/- The strand waits for a group that is later than its own. -/
structure Joins
    (id : Nat)
    (s : Strand)
    (groupId : Nat)
    (groups : List Group) : Prop where
  exists_group : groupId < groups.length
  joiner_eq : (groups.getD groupId default).joiner = id
  later :
    ∀ own position,
      s.group? = some (own, position) → own < groupId

/- The branch that a group is waited for has not finished. -/
def Unfinished
    (g : Group) : Prop :=
  g.finished[g.awaiting]? = some false

/-
  What a strand waits for comes about.  It may have a turn already, which
  `roused` says.
-/
def Awaits
    (j : Journal)
    (id : Nat)
    (roused : Prop)
    (s : Strand) : Prop :=
  match s.waiting with
  | .finished => True
  | .turn => roused
  | .permit =>
      roused ∨
        ∃ groupId position,
          s.group? = some (groupId, position) ∧
            id ∈ (j.group groupId).queue
  | .answer resume => j.RousedAt id resume roused
  | .branches groupId pause =>
      Joins id s groupId j.groups ∧
        if pause.cut then j.RousedAt id pause.resume roused
        else roused ∨ Unfinished (j.group groupId)

/- A strand of a group that has a permit, or has it in its turn. -/
structure Holds
    (running : Option Nat)
    (groupId id : Nat)
    (s : Strand)
    (queue : List Nat) : Prop where
  belongs :
    ∃ position, s.group? = some (groupId, position)
  served : id ∉ queue
  active :
    running = some id ∨
      s.waiting ≠ .finished ∧ s.waiting ≠ .turn

/-
  Every wait can come to an end.  The strand that runs, if any, has its
  turn and does not wait.
-/
structure Sound
    (running : Option Nat)
    (j : Journal) : Prop where
  awaits :
    ∀ id < j.strands.length,
      running ≠ some id →
        j.Awaits id (j.Roused id) (j.strand id)
  grouped :
    ∀ id groupId position,
      (j.strand id).group? = some (groupId, position) →
        groupId < j.groups.length
  /- A strand in a queue is not to have a turn. -/
  inLine :
    ∀ groupId, ∀ id ∈ (j.group groupId).queue,
      running ≠ some id ∧
        ¬ j.Roused id ∧
        (j.strand id).waiting = .permit ∧
        ∃ position,
          (j.strand id).group? = some (groupId, position)
  distinct :
    ∀ groupId, (j.group groupId).queue.Nodup
  full :
    ∀ groupId,
      (j.group groupId).queue ≠ [] →
        (j.group groupId).free = 0
  held :
    ∀ groupId < j.groups.length,
      (j.group groupId).free = 0 →
        ∃ id,
          Holds running groupId id (j.strand id)
            (j.group groupId).queue
  /- Nothing else wakes a strand that has had no permit yet. -/
  fresh :
    ∀ id,
      running ≠ some id →
        (j.strand id).waiting.isFresh = true →
          (∀ timer ∈ j.timers, timer.strand ≠ id) ∧
            ∀ groupId < j.groups.length,
              (j.group groupId).joiner ≠ id
  exists_root : 0 < j.strands.length
  roused_lt : ∀ id, j.Roused id → id < j.strands.length
  ready_nodup : j.ready.Nodup
  ready_pos : 0 ∉ j.ready
  steps :
    ∀ id < j.strands.length,
      ∃ deadline,
        (id ≠ 0 → deadline = (j.strand id).deadline) ∧
          Joinable deadline (j.strand id).steps
  alarms :
    ∀ id,
      (j.strand id).waiting ≠ .finished →
        (j.strand id).hasAlarm = true →
          (j.strand id).deadline ≤ j.time ∨
            ∃ timer ∈ j.timers,
              timer.strand = id ∧
                timer.alarm = true ∧
                timer.due = (j.strand id).deadline

------------------------------------------------------------
-- What A Strand Relies On
------------------------------------------------------------

theorem RousedAt.mono
    {time : Nat}
    {roused : Prop}
    {later : Journal}
    {more : Prop}
    (hRoused : j.RousedAt id time roused)
    (hMore : roused → more)
    (hTime : j.time ≤ later.time)
    (hTimers :
      ∀ timer ∈ j.timers,
        timer.strand = id → timer ∈ later.timers) :
    later.RousedAt id time more := by
  rcases hRoused with ⟨hTurn, hDue⟩ | ⟨timer, hTimer, hId, hDue⟩
  · exact Or.inl ⟨hMore hTurn, Nat.le_trans hDue hTime⟩
  · exact Or.inr ⟨timer, hTimers timer hTimer hId, hId, hDue⟩

theorem RousedAt.of_more
    {time : Nat}
    {roused more : Prop}
    {later : Journal}
    (hRoused : j.RousedAt id time roused)
    (hMore : roused → more)
    (hTime : later.time = j.time)
    (hTimers : later.timers = j.timers) :
    later.RousedAt id time more :=
  hRoused.mono hMore (Nat.le_of_eq hTime.symm)
    fun _ hTimer _ => hTimers ▸ hTimer

/- A turn that comes too early leaves the timer. -/
theorem RousedAt.of_early
    {time : Nat}
    {roused : Prop}
    {more : Prop}
    (hRoused : j.RousedAt id time roused)
    (hTime : j.time < time) :
    j.RousedAt id time more := by
  rcases hRoused with ⟨_, hDue⟩ | hTimer
  · omega
  · exact Or.inr hTimer

/- Who waits for a group stays the same while groups are added. -/
theorem Joins.of_joiner
    {s : Strand}
    {groupId : Nat}
    {groups later : List Group}
    (hJoins : Joins id s groupId groups)
    (hLength : groups.length ≤ later.length)
    (hJoiner :
      (later.getD groupId default).joiner =
        (groups.getD groupId default).joiner) :
    Joins id s groupId later where
  exists_group := Nat.lt_of_lt_of_le hJoins.exists_group hLength
  joiner_eq := hJoiner.trans hJoins.joiner_eq
  later := hJoins.later

/- What holds a permit while another strand runs holds it after. -/
theorem Holds.of_other
    {groupId other : Nat}
    {s : Strand}
    {queue : List Nat}
    (hHolds : Holds (some id) groupId other s queue)
    (hNot : other ≠ id) :
    Holds none groupId other s queue where
  belongs := hHolds.belongs
  served := hHolds.served
  active := by
    rcases hHolds.active with hRuns | hActive
    · exact absurd (Option.some.inj hRuns).symm hNot
    · exact Or.inr hActive

/- A strand that has not gone on yet holds no permit. -/
theorem Holds.ne_of_turn
    {groupId other : Nat}
    {queue : List Nat}
    (hHolds :
      Holds none groupId other (j.strand other) queue)
    (hWaiting : (j.strand id).waiting = .turn) :
    other ≠ id := by
  rintro rfl
  rcases hHolds.active with hRuns | hActive
  · cases hRuns
  · exact hActive.2 hWaiting

/- The first branch that is not over is one that has not finished. -/
theorem unfinished_of_first
    {g : Group}
    (hFirst : firstUnfinished g ≠ g.finished.length) :
    Unfinished { g with awaiting := firstUnfinished g } := by
  unfold firstUnfinished at hFirst ⊢
  cases hIndex :
      g.finished.findIdx? fun finished => !finished with
  | none =>
      rw [hIndex] at hFirst
      exact absurd rfl hFirst
  | some i =>
      rcases List.findIdx?_eq_some_iff_getElem.mp hIndex with
        ⟨hLess, hLeft, _⟩
      rw [Unfinished]
      simp [hLess] at hLeft ⊢
      exact hLeft

/- The first branch of a new group has not finished. -/
theorem newGroup_unfinished
    {permits : Nat}
    {branches : List (Nat × List Step)}
    (hSome : branches ≠ []) :
    Unfinished (newGroup id permits branches) := by
  cases branches with
  | nil => exact absurd rfl hSome
  | cons branch rest => rfl

/- What a strand relies on is kept. -/
theorem Awaits.mono
    {later : Journal}
    {roused more : Prop}
    {s : Strand}
    (hAwaits : j.Awaits id roused s)
    (hMore : roused → more)
    (hLine :
      ∀ groupId position,
        s.group? = some (groupId, position) →
          id ∈ (j.group groupId).queue →
            more ∨ id ∈ (later.group groupId).queue)
    (hAnswer :
      ∀ time,
        j.RousedAt id time roused →
          later.RousedAt id time more)
    (hJoins :
      ∀ groupId,
        Joins id s groupId j.groups →
          Joins id s groupId later.groups ∧
            (Unfinished (j.group groupId) →
              more ∨ Unfinished (later.group groupId))) :
    later.Awaits id more s := by
  unfold Awaits at hAwaits ⊢
  split
  · trivial
  · rename_i hWaiting
    rw [hWaiting] at hAwaits
    exact hMore hAwaits
  · rename_i hWaiting
    rw [hWaiting] at hAwaits
    rcases hAwaits with hTurn | ⟨groupId, position, hGroup, hIn⟩
    · exact Or.inl (hMore hTurn)
    · rcases hLine groupId position hGroup hIn with
        hTurn | hStill
      · exact Or.inl hTurn
      · exact Or.inr ⟨groupId, position, hGroup, hStill⟩
  · rename_i resume hWaiting
    rw [hWaiting] at hAwaits
    exact hAnswer resume hAwaits
  · rename_i groupId pause hWaiting
    rw [hWaiting] at hAwaits
    rcases hAwaits with ⟨hJoin, hOver⟩
    rcases hJoins groupId hJoin with ⟨hStill, hUnfinished⟩
    refine ⟨hStill, ?_⟩
    split
    · rename_i hCut
      rw [if_pos hCut] at hOver
      exact hAnswer _ hOver
    · rename_i hCut
      rw [if_neg hCut] at hOver
      rcases hOver with hTurn | hLeft
      · exact Or.inl (hMore hTurn)
      · exact hUnfinished hLeft

/- Nothing but turns and timers matters to a strand that waits. -/
theorem Awaits.of_same_groups
    {later : Journal}
    {roused more : Prop}
    {s : Strand}
    (hAwaits : j.Awaits id roused s)
    (hMore : roused → more)
    (hGroups : later.groups = j.groups)
    (hAnswer :
      ∀ time,
        j.RousedAt id time roused →
          later.RousedAt id time more) :
    later.Awaits id more s := by
  have hGroup : ∀ groupId, later.group groupId = j.group groupId := by
    intro groupId
    rw [group, hGroups, group]
  refine hAwaits.mono hMore ?_ hAnswer ?_
  · intro groupId position _ hIn
    exact Or.inr (hGroup groupId ▸ hIn)
  · intro groupId hJoin
    refine ⟨hGroups.symm ▸ hJoin, ?_⟩
    intro hLeft
    exact Or.inr ((hGroup groupId).symm ▸ hLeft)

theorem Awaits.of_more
    {later : Journal}
    {roused more : Prop}
    {s : Strand}
    (hAwaits : j.Awaits id roused s)
    (hMore : roused → more)
    (hGroups : later.groups = j.groups)
    (hTime : later.time = j.time)
    (hTimers : later.timers = j.timers) :
    later.Awaits id more s :=
  hAwaits.of_same_groups hMore hGroups fun _ hRoused =>
    hRoused.of_more hMore hTime hTimers

------------------------------------------------------------
-- A Group That Changes
------------------------------------------------------------

/-
  A group may become another.  Those that leave its queue have a turn, and
  so has the strand that waits for a branch that has finished.
-/
structure Regroups
    (running : Option Nat)
    (groupId : Nat)
    (g : Group)
    (ready : List Nat)
    (woken : Bool)
    (j : Journal) : Prop where
  exists_group : groupId < j.groups.length
  joiner_eq : g.joiner = (j.group groupId).joiner
  queue_sublist : g.queue.Sublist (j.group groupId).queue
  keeps :
    ∀ other,
      j.Roused other →
        Roused { j with ready := ready, woken := woken } other
  called :
    ∀ other ∈ (j.group groupId).queue,
      other ∉ g.queue →
        Roused { j with ready := ready, woken := woken } other
  /- Those that stay in a queue have no turn. -/
  stays :
    ∀ line, ∀ other ∈ (j.group line).queue,
      (line = groupId → other ∈ g.queue) →
        ¬ Roused { j with ready := ready, woken := woken } other
  waited :
    running = some g.joiner ∨
      (Unfinished (j.group groupId) →
        Roused { j with ready := ready, woken := woken }
            g.joiner ∨
          Unfinished g)
  roused_lt :
    ∀ other,
      Roused { j with ready := ready, woken := woken } other →
        other < j.strands.length
  ready_nodup : ready.Nodup
  ready_pos : 0 ∉ ready
  full : g.queue ≠ [] → g.free = 0
  held :
    g.free = 0 →
      ∃ other,
        Holds running groupId other (j.strand other) g.queue

namespace Regroups

variable {running : Option Nat}
variable {groupId : Nat}
variable {g : Group}
variable {ready : List Nat}
variable {woken : Bool}

theorem queue_subset
    (hRegroups : Regroups running groupId g ready woken j)
    {line other : Nat}
    (hIn :
      other ∈ ((j.setGroup groupId g).group line).queue) :
    other ∈ (j.group line).queue ∧
      (line = groupId → other ∈ g.queue) := by
  rw [group_setGroup hRegroups.exists_group] at hIn
  split at hIn
  · rename_i hSame
    exact
      ⟨hSame ▸ hRegroups.queue_sublist.subset hIn,
        fun _ => hIn⟩
  · rename_i hNot
    exact ⟨hIn, fun h => absurd h hNot⟩

/- A strand in the queue has its turn, or stays in the queue. -/
theorem roused_or_mem
    (hRegroups : Regroups running groupId g ready woken j)
    {line other : Nat}
    (hIn : other ∈ (j.group line).queue) :
    Roused { j with ready := ready, woken := woken } other ∨
      other ∈ ((j.setGroup groupId g).group line).queue := by
  rw [group_setGroup hRegroups.exists_group]
  split
  · rename_i hSame
    by_cases hStill : other ∈ g.queue
    · exact Or.inr hStill
    · exact Or.inl (hRegroups.called other (hSame ▸ hIn) hStill)
  · exact Or.inr hIn

/- A strand that waits for branches has its turn, or waits for one. -/
theorem roused_or_unfinished
    (hRegroups : Regroups running groupId g ready woken j)
    {line : Nat}
    (hNot : running ≠ some (j.group line).joiner)
    (hLeft : Unfinished (j.group line)) :
    Roused { j with ready := ready, woken := woken }
        (j.group line).joiner ∨
      Unfinished ((j.setGroup groupId g).group line) := by
  rw [group_setGroup hRegroups.exists_group]
  split
  · rename_i hSame
    subst hSame
    rw [← hRegroups.joiner_eq] at hNot ⊢
    rcases hRegroups.waited with hRuns | hWaited
    · exact absurd hRuns hNot
    · exact hWaited hLeft
  · exact Or.inr hLeft

/- A strand that waits goes on to wait for what it waited for. -/
theorem awaits
    (hRegroups : Regroups running groupId g ready woken j)
    {s : Strand}
    (hNot : running ≠ some id)
    (hAwaits : j.Awaits id (j.Roused id) s) :
    Awaits
      { j.setGroup groupId g with
        ready := ready
        woken := woken }
      id
      (Roused { j with ready := ready, woken := woken } id)
      s := by
  refine hAwaits.mono (hRegroups.keeps id) ?_ ?_ ?_
  · intro line position _ hIn
    exact hRegroups.roused_or_mem hIn
  · intro time hTime
    exact hTime.of_more (hRegroups.keeps id) rfl rfl
  · intro line hJoins
    constructor
    · exact
        hJoins.of_joiner (Nat.le_of_eq List.length_set.symm)
          (joiner_setGroup hRegroups.exists_group
            hRegroups.joiner_eq line)
    · have hWaits : (j.group line).joiner = id :=
        hJoins.joiner_eq
      rw [← hWaits] at hNot ⊢
      exact hRegroups.roused_or_unfinished hNot

end Regroups

namespace Sound

variable {running : Option Nat}

------------------------------------------------------------
-- The Strand That Runs
------------------------------------------------------------

/- The strand that runs may change its timers. -/
theorem retime
    {timers : List Timer}
    (hSound : j.Sound (some id))
    (hOthers :
      ∀ timer, timer.strand ≠ id →
        (timer ∈ timers ↔ timer ∈ j.timers))
    (hAlarms :
      (j.strand id).waiting ≠ .finished →
        ∀ timer ∈ j.timers,
          timer.strand = id → timer.alarm = true →
            timer ∈ timers) :
    Sound (some id) { j with timers := timers } :=
  { hSound with
    awaits := by
      intro other hOther hNot
      have hAwaits := hSound.awaits other hOther hNot
      refine hAwaits.of_same_groups (fun h => h) rfl ?_
      intro time hTime
      refine hTime.mono (fun h => h) (Nat.le_refl _) ?_
      intro timer hTimer hStrand
      refine (hOthers timer ?_).mpr hTimer
      rintro hSame
      exact hNot (congrArg some (hSame.symm.trans hStrand))
    fresh := by
      intro other hNot hFresh
      rcases hSound.fresh other hNot hFresh with
        ⟨hTimers, hJoiners⟩
      refine ⟨?_, hJoiners⟩
      intro timer hTimer hStrand
      refine hTimers timer ((hOthers timer ?_).mp hTimer) hStrand
      rintro hSame
      exact hNot (congrArg some (hSame.symm.trans hStrand))
    alarms := by
      intro other hLive hAlarm
      rcases hSound.alarms other hLive hAlarm with
        hOver | ⟨timer, hTimer, hStrand, hKind, hDue⟩
      · exact Or.inl hOver
      · refine Or.inr ⟨timer, ?_, hStrand, hKind, hDue⟩
        by_cases hSame : other = id
        · subst hSame
          exact hAlarms hLive timer hTimer hStrand hKind
        · exact
            (hOthers timer (hStrand ▸ hSame)).mpr hTimer }

/- The strand that runs may change, but not its place. -/
theorem setStrand
    {s : Strand}
    (hSound : j.Sound (some id))
    (hId : id < j.strands.length)
    (hGroup : s.group? = (j.strand id).group?)
    (hAlarms :
      s.waiting ≠ .finished →
        s.hasAlarm = true →
          s.deadline ≤ j.time ∨
            ∃ timer ∈ j.timers,
              timer.strand = id ∧
                timer.alarm = true ∧
                timer.due = s.deadline)
    (hSteps :
      ∃ deadline,
        (id ≠ 0 → deadline = s.deadline) ∧
          Joinable deadline s.steps) :
    (j.setStrand id s).Sound (some id) := by
  have hLook := strand_setStrand hId s
  have hOther :
      ∀ other, some id ≠ some other →
        (j.setStrand id s).strand other = j.strand other := by
    intro other hNot
    rw [hLook, if_neg fun h => hNot (congrArg some h.symm)]
  have hSelf : (j.setStrand id s).strand id = s := by
    rw [hLook, if_pos rfl]
  have hPlace := group?_setStrand hId hGroup
  have hLength :
      (j.setStrand id s).strands.length = j.strands.length :=
    List.length_set
  exact
  { hSound with
    awaits := by
      intro other hLess hNot
      rw [hLength] at hLess
      rw [hOther other hNot]
      exact hSound.awaits other hLess hNot
    grouped := by
      intro other groupId position hBelongs
      rw [hPlace] at hBelongs
      exact hSound.grouped other groupId position hBelongs
    inLine := by
      intro groupId other hIn
      rcases hSound.inLine groupId other hIn with
        ⟨hNot, hRest⟩
      rw [hOther other hNot]
      exact ⟨hNot, hRest⟩
    held := by
      intro groupId hLess hFree
      rcases hSound.held groupId hLess hFree with
        ⟨other, hBelongs, hServed, hActive⟩
      refine ⟨other, ?_, hServed, ?_⟩
      · rw [hPlace]
        exact hBelongs
      · by_cases hRuns : some id = some other
        · exact Or.inl hRuns
        · rw [hOther other hRuns]
          exact hActive
    fresh := by
      intro other hNot hFresh
      rw [hOther other hNot] at hFresh
      exact hSound.fresh other hNot hFresh
    exists_root := by
      rw [hLength]
      exact hSound.exists_root
    roused_lt := by
      intro other hTurn
      rw [hLength]
      exact hSound.roused_lt other hTurn
    steps := by
      intro other hLess
      rw [hLength] at hLess
      by_cases hRuns : some id = some other
      · cases hRuns
        rw [hSelf]
        exact hSteps
      · rw [hOther other hRuns]
        exact hSound.steps other hLess
    alarms := by
      intro other
      by_cases hRuns : some id = some other
      · cases hRuns
        rw [hSelf]
        exact hAlarms
      · rw [hOther other hRuns]
        exact hSound.alarms other }

/- The strand that runs waits again. -/
theorem settle
    (hSound : j.Sound (some id))
    (hAwaits : j.Awaits id (j.Roused id) (j.strand id))
    (hFresh : (j.strand id).waiting.isFresh = false)
    (hLive : (j.strand id).waiting ≠ .finished) :
    j.Sound none :=
  { hSound with
    awaits := by
      intro other hOther _
      by_cases hSame : other = id
      · exact hSame ▸ hAwaits
      · exact
          hSound.awaits other hOther fun h =>
            hSame (Option.some.inj h).symm
    inLine := by
      intro groupId other hOther
      rcases hSound.inLine groupId other hOther with ⟨_, hRest⟩
      exact ⟨by simp, hRest⟩
    held := by
      intro groupId hGroup hFree
      rcases hSound.held groupId hGroup hFree with
        ⟨other, hBelongs, hServed, hActive⟩
      refine ⟨other, hBelongs, hServed, Or.inr ?_⟩
      rcases hActive with hRuns | hActive
      · cases hRuns
        refine ⟨hLive, ?_⟩
        intro hTurn
        rw [hTurn] at hFresh
        cases hFresh
      · exact hActive
    fresh := by
      intro other _ hOther
      refine hSound.fresh other ?_ hOther
      intro hRuns
      cases hRuns
      rw [hFresh] at hOther
      cases hOther }

/- The strand that runs has taken its last step. -/
theorem leave
    (hSound : j.Sound (some id))
    (hOver : (j.strand id).waiting = .finished)
    (hOwn :
      ∀ groupId position,
        (j.strand id).group? = some (groupId, position) →
          (j.group groupId).free = 0 →
            ∃ other,
              other ≠ id ∧
                Holds (some id) groupId other (j.strand other)
                  (j.group groupId).queue) :
    j.Sound none :=
  { hSound with
    awaits := by
      intro other hOther _
      by_cases hSame : other = id
      · subst hSame
        unfold Awaits
        rw [hOver]
        trivial
      · exact
          hSound.awaits other hOther fun h =>
            hSame (Option.some.inj h).symm
    inLine := by
      intro groupId other hOther
      rcases hSound.inLine groupId other hOther with ⟨_, hRest⟩
      exact ⟨by simp, hRest⟩
    held := by
      intro groupId hGroup hFree
      have hHeld :
          ∃ other,
            other ≠ id ∧
              Holds (some id) groupId other (j.strand other)
                (j.group groupId).queue := by
        rcases hSound.held groupId hGroup hFree with
          ⟨other, hHolds⟩
        by_cases hSame : other = id
        · subst hSame
          rcases hHolds.belongs with ⟨position, hBelongs⟩
          exact hOwn groupId position hBelongs hFree
        · exact ⟨other, hSame, hHolds⟩
      rcases hHeld with ⟨other, hNot, hHolds⟩
      exact ⟨other, hHolds.of_other hNot⟩
    fresh := by
      intro other _ hOther
      refine hSound.fresh other ?_ hOther
      intro hRuns
      cases hRuns
      rw [hOver] at hOther
      cases hOther }

------------------------------------------------------------
-- Groups
------------------------------------------------------------

theorem lt_of_mem
    {line other : Nat}
    (hSound : j.Sound running)
    (hOther : other ∈ (j.group line).queue) :
    other < j.strands.length := by
  by_cases hLess : other < j.strands.length
  · exact hLess
  · have hTurn := waiting_of_missing hLess
    rcases hSound.inLine line other hOther with
      ⟨_, _, hWaiting, _⟩
    rw [hTurn] at hWaiting
    cases hWaiting

/- A strand waits in the queue of its group only. -/
theorem line_eq_of_mem
    {line groupId other : Nat}
    (hSound : j.Sound running)
    (hOther : other ∈ (j.group line).queue)
    (hSame : other ∈ (j.group groupId).queue) :
    line = groupId := by
  rcases hSound.inLine line other hOther with
    ⟨_, _, _, _, hLine⟩
  rcases hSound.inLine groupId other hSame with
    ⟨_, _, _, _, hGroup⟩
  rw [hLine] at hGroup
  cases hGroup
  rfl

/- A strand in a queue waits for no branches. -/
theorem ne_joiner_of_mem
    {line groupId other : Nat}
    (hSound : j.Sound running)
    (hOther : other ∈ (j.group line).queue)
    (hGroup : groupId < j.groups.length) :
    other ≠ (j.group groupId).joiner := by
  rcases hSound.inLine line other hOther with
    ⟨hNot, _, hWaiting, _⟩
  have hFresh := hSound.fresh other hNot (by rw [hWaiting]; rfl)
  exact fun h => hFresh.2 groupId hGroup h.symm

/- The strand that waits for a group is there. -/
theorem joiner_lt
    {groupId : Nat}
    (hSound : j.Sound (some id))
    (hId : id < j.strands.length)
    (hGroup : groupId < j.groups.length) :
    (j.group groupId).joiner < j.strands.length := by
  by_cases hJoiner :
      (j.group groupId).joiner < j.strands.length
  · exact hJoiner
  · have hTurn := waiting_of_missing hJoiner
    have hNot : some id ≠ some (j.group groupId).joiner := by
      intro hSame
      exact hJoiner (Option.some.inj hSame ▸ hId)
    have hFresh :=
      hSound.fresh (j.group groupId).joiner hNot
        (by rw [hTurn]; rfl)
    exact absurd rfl (hFresh.2 groupId hGroup)

/- A change of a group leaves every wait one that can end. -/
theorem regroup
    {groupId : Nat}
    {g : Group}
    {ready : List Nat}
    {woken : Bool}
    (hSound : j.Sound running)
    (hRegroups : Regroups running groupId g ready woken j) :
    Sound running
      { j.setGroup groupId g with
        ready := ready
        woken := woken } := by
  have hLook := group_setGroup hRegroups.exists_group g
  have hJoiners :=
    joiner_setGroup hRegroups.exists_group hRegroups.joiner_eq
  have hLength :
      (j.setGroup groupId g).groups.length = j.groups.length :=
    List.length_set
  exact
  { hSound with
    awaits := by
      intro other hOther hNot
      exact
        hRegroups.awaits hNot (hSound.awaits other hOther hNot)
    grouped := by
      intro other line position hBelongs
      exact
        Nat.lt_of_lt_of_eq
          (hSound.grouped other line position hBelongs)
          hLength.symm
    inLine := by
      intro line other hOther
      rcases hRegroups.queue_subset hOther with ⟨hOld, hStill⟩
      rcases hSound.inLine line other hOld with
        ⟨hNot, _, hWaiting, hBelongs⟩
      exact
        ⟨hNot, hRegroups.stays line other hOld hStill, hWaiting,
          hBelongs⟩
    distinct := by
      intro line
      change ((j.setGroup groupId g).group line).queue.Nodup
      rw [hLook]
      split
      · exact
          (hSound.distinct groupId).sublist
            hRegroups.queue_sublist
      · exact hSound.distinct line
    full := by
      intro line
      change
        ((j.setGroup groupId g).group line).queue ≠ [] →
          ((j.setGroup groupId g).group line).free = 0
      rw [hLook]
      split
      · exact hRegroups.full
      · exact hSound.full line
    held := by
      intro line hExists
      change
        ((j.setGroup groupId g).group line).free = 0 →
          ∃ other,
            Holds running line other (j.strand other)
              ((j.setGroup groupId g).group line).queue
      rw [hLook]
      split
      · rename_i hSame
        rw [hSame]
        exact hRegroups.held
      · exact
          hSound.held line (Nat.lt_of_lt_of_eq hExists hLength)
    fresh := by
      intro other hNot hFresh
      rcases hSound.fresh other hNot hFresh with
        ⟨hTimers, hOthers⟩
      refine ⟨hTimers, ?_⟩
      intro line hExists
      have hOther :=
        hOthers line (Nat.lt_of_lt_of_eq hExists hLength)
      exact fun h => hOther ((hJoiners line).symm.trans h)
    roused_lt := hRegroups.roused_lt
    ready_nodup := hRegroups.ready_nodup
    ready_pos := hRegroups.ready_pos }

/- A group may change when no strand comes into or out of its queue. -/
theorem setGroup
    {groupId : Nat}
    {g : Group}
    (hSound : j.Sound (some id))
    (hLess : groupId < j.groups.length)
    (hJoiner : g.joiner = (j.group groupId).joiner)
    (hQueue : g.queue = (j.group groupId).queue)
    (hWaited :
      g.joiner = id ∨
        (Unfinished (j.group groupId) → Unfinished g))
    (hFull : g.queue ≠ [] → g.free = 0)
    (hHeld :
      g.free = 0 →
        ∃ other,
          Holds (some id) groupId other (j.strand other)
            g.queue) :
    (j.setGroup groupId g).Sound (some id) := by
  have hRegroups :
      Regroups (some id) groupId g j.ready j.woken j :=
    { exists_group := hLess
      joiner_eq := hJoiner
      queue_sublist := hQueue ▸ List.Sublist.refl _
      keeps := fun _ h => h
      called := by
        intro other hIn hLeft
        rw [← hQueue] at hIn
        exact absurd hIn hLeft
      stays := by
        intro line other hIn _
        exact (hSound.inLine line other hIn).2.1
      waited := by
        rcases hWaited with hSelf | hStays
        · exact Or.inl (congrArg some hSelf.symm)
        · exact Or.inr fun hLeft => Or.inr (hStays hLeft)
      roused_lt := hSound.roused_lt
      ready_nodup := hSound.ready_nodup
      ready_pos := hSound.ready_pos
      full := hFull
      held := hHeld }
  exact hSound.regroup hRegroups

/- A group that no strand belongs to yet. -/
theorem addGroup
    {g : Group}
    (hSound : j.Sound (some id))
    (hFree : g.free ≠ 0)
    (hQueue : g.queue = [])
    (hJoiner : g.joiner = id) :
    Sound (some id) { j with groups := j.groups ++ [g] } := by
  let more := { j with groups := j.groups ++ [g] }
  have hLook : ∀ other, more.group other = _ :=
    group_append j g
  have hLength : more.groups.length = j.groups.length + 1 :=
    List.length_append
  have hSame :
      ∀ other < j.groups.length,
        more.group other = j.group other := by
    intro other hLess
    rw [hLook, if_neg (Nat.ne_of_lt hLess)]
  exact
  { hSound with
    awaits := by
      intro other hOther hNot
      refine
        (hSound.awaits other hOther hNot).mono (fun h => h) ?_
          ?_ ?_
      · intro line place hBelongs hIn
        refine Or.inr ?_
        rw [hSame line (hSound.grouped other line place hBelongs)]
        exact hIn
      · intro time hTime
        exact hTime.of_more (fun h => h) rfl rfl
      · intro line hJoin
        have hGroup := hSame line hJoin.exists_group
        constructor
        · exact
            hJoin.of_joiner (hLength ▸ Nat.le_succ _)
              (congrArg Group.joiner hGroup)
        · intro hLeft
          exact Or.inr (hGroup.symm ▸ hLeft)
    grouped := by
      intro other line place hBelongs
      have hLess := hSound.grouped other line place hBelongs
      exact hLength ▸ Nat.lt_succ_of_lt hLess
    inLine := by
      intro line other hOther
      change other ∈ (more.group line).queue at hOther
      rw [hLook] at hOther
      split at hOther
      · rw [hQueue] at hOther
        cases hOther
      · exact hSound.inLine line other hOther
    distinct := by
      intro line
      change (more.group line).queue.Nodup
      rw [hLook]
      split
      · rw [hQueue]
        exact List.nodup_nil
      · exact hSound.distinct line
    full := by
      intro line
      change
        (more.group line).queue ≠ [] →
          (more.group line).free = 0
      rw [hLook]
      split
      · intro hSome
        exact absurd hQueue hSome
      · exact hSound.full line
    held := by
      intro line hLine
      change
        (more.group line).free = 0 →
          ∃ other,
            Holds (some id) line other (j.strand other)
              (more.group line).queue
      rw [hLook]
      split
      · intro hNone
        exact absurd hNone hFree
      · rename_i hNot
        exact hSound.held line (lt_of_lt_concat hLine hNot)
    fresh := by
      intro other hNot hFresh
      rcases hSound.fresh other hNot hFresh with
        ⟨hTimers, hOthers⟩
      refine ⟨hTimers, ?_⟩
      intro line hLine
      change (more.group line).joiner ≠ other
      rw [hLook]
      split
      · rw [hJoiner]
        exact fun h => hNot (congrArg some h)
      · rename_i hNew
        exact hOthers line (lt_of_lt_concat hLine hNew) }

------------------------------------------------------------
-- Branches
------------------------------------------------------------

/- A branch that starts is to have its turn. -/
theorem addStrand
    {groupId deadline position : Nat}
    {steps : List Step}
    (hSound : j.Sound (some id))
    (hGroup : groupId < j.groups.length)
    (hSteps : Joinable deadline steps) :
    (j.addStrand
      (branchStrand groupId deadline position steps)).Sound
        (some id) := by
  let s := branchStrand groupId deadline position steps
  let more := { j with strands := j.strands ++ [s] }
  have hLook : ∀ other, more.strand other = _ :=
    strand_append j s
  have hLength : more.strands.length = j.strands.length + 1 :=
    List.length_append
  have hSame :
      ∀ other, other ≠ j.strands.length →
        more.strand other = j.strand other := by
    intro other hNot
    rw [hLook, if_neg hNot]
  have hRoused :
      ∀ other,
        (j.addStrand s).Roused other ↔
          j.Roused other ∨ other = j.strands.length :=
    roused_wake_iff more j.strands.length
  have hReady :=
    @wake_ready more hSound.ready_nodup hSound.ready_pos
      j.strands.length
  rw [addStrand_eq]
  exact
  { hSound with
    awaits := by
      intro other hOther hNot
      change
        Awaits _ other ((j.addStrand s).Roused other)
          (more.strand other)
      rw [hLook]
      split
      · rename_i hLast
        exact (hRoused other).mpr (Or.inr hLast)
      · rename_i hLast
        have hLess := lt_of_lt_concat hOther hLast
        have hKeeps :
            j.Roused other → (j.addStrand s).Roused other :=
          fun h => (hRoused other).mpr (Or.inl h)
        exact
          (hSound.awaits other hLess hNot).of_more hKeeps rfl
            rfl rfl
    grouped := by
      intro other line place hBelongs
      change (more.strand other).group? = _ at hBelongs
      rw [hLook] at hBelongs
      split at hBelongs
      · cases hBelongs
        exact hGroup
      · exact hSound.grouped other line place hBelongs
    inLine := by
      intro line other hOther
      have hLast := Nat.ne_of_lt (hSound.lt_of_mem hOther)
      rcases hSound.inLine line other hOther with
        ⟨hNot, hWaits, hRest⟩
      refine ⟨hNot, ?_, ?_⟩
      · intro hTurn
        rcases (hRoused other).mp hTurn with hBefore | hNew
        · exact hWaits hBefore
        · exact hLast hNew
      · change
          (more.strand other).waiting = .permit ∧
            ∃ place,
              (more.strand other).group? = some (line, place)
        rw [hSame other hLast]
        exact hRest
    held := by
      intro line hLine hFree
      rcases hSound.held line hLine hFree with ⟨other, hHolds⟩
      have hLast : other ≠ j.strands.length := by
        rintro rfl
        rcases hHolds.belongs with ⟨place, hBelongs⟩
        rw [group?_of_missing (Nat.lt_irrefl _)] at hBelongs
        cases hBelongs
      refine ⟨other, ?_⟩
      change
        Holds (some id) line other (more.strand other)
          (j.group line).queue
      rw [hSame other hLast]
      exact hHolds
    fresh := by
      intro other hNot hFresh
      refine hSound.fresh other hNot ?_
      by_cases hLast : other = j.strands.length
      · rw [waiting_of_missing (by omega)]
        rfl
      · exact hSame other hLast ▸ hFresh
    exists_root :=
      Nat.lt_of_lt_of_eq (Nat.succ_pos _) hLength.symm
    roused_lt := by
      intro other hTurn
      change other < more.strands.length
      rw [hLength]
      rcases (hRoused other).mp hTurn with hBefore | rfl
      · exact Nat.lt_succ_of_lt (hSound.roused_lt other hBefore)
      · exact Nat.lt_succ_self _
    ready_nodup := hReady.1
    ready_pos := hReady.2
    steps := by
      intro other hOther
      change
        ∃ limit,
          (other ≠ 0 →
              limit = (more.strand other).deadline) ∧
            Joinable limit (more.strand other).steps
      rw [hLook]
      split
      · exact ⟨deadline, fun _ => rfl, hSteps⟩
      · rename_i hNot
        exact hSound.steps other (lt_of_lt_concat hOther hNot)
    alarms := by
      intro other
      change
        (more.strand other).waiting ≠ .finished →
          (more.strand other).hasAlarm = true →
            (more.strand other).deadline ≤ j.time ∨
              ∃ timer ∈ j.timers,
                timer.strand = other ∧
                  timer.alarm = true ∧
                  timer.due = (more.strand other).deadline
      rw [hLook]
      split
      · intro _ hAlarm
        cases hAlarm
      · exact hSound.alarms other }

------------------------------------------------------------
-- The Queue
------------------------------------------------------------

section Enqueue

variable {groupId position : Nat}

/- What the other strands wait for is what it was. -/
theorem awaits_enqueue
    {other : Nat}
    {s : Strand}
    (hLess : groupId < j.groups.length)
    (hAwaits : j.Awaits other (j.Roused other) s) :
    (j.enqueue groupId id).Awaits other
      ((j.enqueue groupId id).Roused other) s := by
  have hGroup := group_enqueue_eq hLess id
  refine hAwaits.mono (fun h => h) ?_ ?_ ?_
  · intro line place _ hIn
    exact
      Or.inr
        ((mem_queue_enqueue_iff hLess id line other).mpr
          (Or.inl hIn))
  · intro time hTime
    exact hTime.of_more (fun h => h) rfl rfl
  · intro line hJoins
    constructor
    · have hJoiner :
          ((j.enqueue groupId id).group line).joiner =
            (j.group line).joiner := by
        rw [hGroup]
      exact
        hJoins.of_joiner (Nat.le_of_eq List.length_set.symm)
          hJoiner
    · intro hLeft
      rw [hGroup]
      exact Or.inr hLeft

/- The strand waits in the queue of its own group, and once. -/
theorem inLine_enqueue
    (hSound : j.Sound (some id))
    (hId : id < j.strands.length)
    (hGroup :
      (j.strand id).group? = some (groupId, position))
    (hRoused : ¬ j.Roused id)
    {line other : Nat}
    (hIn :
      other ∈ ((j.enqueue groupId id).group line).queue) :
    ¬ j.Roused other ∧
      ((j.enqueue groupId id).strand other).waiting =
        .permit ∧
      ∃ place,
        ((j.enqueue groupId id).strand other).group? =
          some (line, place) := by
  have hLess := hSound.grouped id groupId position hGroup
  rw [group?_enqueue hId, strand_enqueue hId]
  rcases (mem_queue_enqueue_iff hLess id line other).mp hIn with
    hOld | ⟨rfl, rfl⟩
  · rcases hSound.inLine line other hOld with
      ⟨hNot, hWaits, hWaiting, hBelongs⟩
    rw [if_neg fun h => hNot (congrArg some h.symm)]
    exact ⟨hWaits, hWaiting, hBelongs⟩
  · rw [if_pos rfl]
    exact ⟨hRoused, rfl, position, hGroup⟩

theorem distinct_enqueue
    (hSound : j.Sound (some id))
    (hLess : groupId < j.groups.length)
    (line : Nat) :
    ((j.enqueue groupId id).group line).queue.Nodup := by
  rw [queue_enqueue hLess]
  refine
    List.nodup_append.mpr
      ⟨hSound.distinct line, by split <;> simp, ?_⟩
  intro one hOne last hLast hSame
  have hSelf : last = id := by
    split at hLast
    · exact List.mem_singleton.mp hLast
    · cases hLast
  exact
    (hSound.inLine line one hOne).1
      (congrArg some (hSame.trans hSelf).symm)

/- Those that hold a permit do not queue for one. -/
theorem holds_enqueue
    {line other : Nat}
    (hId : id < j.strands.length)
    (hLess : groupId < j.groups.length)
    (hNot : other ≠ id)
    (hHolds :
      Holds none line other (j.strand other)
        (j.group line).queue) :
    Holds none line other ((j.enqueue groupId id).strand other)
      ((j.enqueue groupId id).group line).queue := by
  rw [strand_enqueue hId, if_neg hNot]
  refine ⟨hHolds.belongs, ?_, hHolds.active⟩
  intro hIn
  rcases (mem_queue_enqueue_iff hLess id line other).mp hIn with
    hOld | ⟨_, hSame⟩
  · exact hHolds.served hOld
  · exact hNot hSame

/- A strand that finds no permit free waits for one in the queue. -/
theorem enqueue
    (hSound : j.Sound (some id))
    (hId : id < j.strands.length)
    (hWaiting : (j.strand id).waiting = .turn)
    (hGroup :
      (j.strand id).group? = some (groupId, position))
    (hFull : (j.group groupId).free = 0)
    (hRoused : ¬ j.Roused id)
    (hHeld :
      ∀ line < j.groups.length,
        (j.group line).free = 0 →
          ∃ other,
            Holds none line other (j.strand other)
              (j.group line).queue)
    (hFresh :
      (∀ timer ∈ j.timers, timer.strand ≠ id) ∧
        ∀ line < j.groups.length,
          (j.group line).joiner ≠ id) :
    (j.enqueue groupId id).Sound none := by
  have hLess := hSound.grouped id groupId position hGroup
  have hStrand := strand_enqueue hId groupId
  have hLine := group_enqueue_eq hLess id
  have hStrands :
      (j.enqueue groupId id).strands.length =
        j.strands.length :=
    List.length_set
  have hGroups :
      (j.enqueue groupId id).groups.length = j.groups.length :=
    List.length_set
  have hRest :
      ∀ other, other ≠ id → some id ≠ some other :=
    fun _ hNot h => hNot (Option.some.inj h).symm
  exact
    { awaits := by
        intro other hExists _
        rw [hStrands] at hExists
        rw [hStrand]
        split
        · rename_i hSame
          subst hSame
          refine Or.inr ⟨groupId, position, hGroup, ?_⟩
          exact
            (mem_queue_enqueue_iff hLess _ _ _).mpr
              (Or.inr ⟨rfl, rfl⟩)
        · rename_i hNot
          exact
            awaits_enqueue hLess
              (hSound.awaits other hExists (hRest other hNot))
      grouped := by
        intro other line place hBelongs
        rw [group?_enqueue hId] at hBelongs
        rw [hGroups]
        exact hSound.grouped other line place hBelongs
      inLine := by
        intro line other hIn
        exact
          ⟨nofun,
            hSound.inLine_enqueue hId hGroup hRoused hIn⟩
      distinct := hSound.distinct_enqueue hLess
      full := by
        intro line hSome
        rw [hLine]
        rw [queue_enqueue hLess] at hSome
        split at hSome
        · rename_i hSame
          exact hSame ▸ hFull
        · rw [List.append_nil] at hSome
          exact hSound.full line hSome
      held := by
        intro line hExists hFree
        rw [hGroups] at hExists
        rw [hLine] at hFree
        rcases hHeld line hExists hFree with ⟨other, hHolds⟩
        have hNot := hHolds.ne_of_turn hWaiting
        exact ⟨other, holds_enqueue hId hLess hNot hHolds⟩
      fresh := by
        intro other _ hWaits
        rw [hGroups]
        have hOld :
            (∀ timer ∈ j.timers, timer.strand ≠ other) ∧
              ∀ line < j.groups.length,
                (j.group line).joiner ≠ other := by
          rw [hStrand] at hWaits
          split at hWaits
          · rename_i hSame
            exact hSame ▸ hFresh
          · rename_i hNot
            exact hSound.fresh other (hRest other hNot) hWaits
        refine ⟨hOld.1, ?_⟩
        intro line hExists
        rw [hLine]
        exact hOld.2 line hExists
      exists_root :=
        Nat.lt_of_lt_of_eq hSound.exists_root hStrands.symm
      roused_lt := by
        intro other hTurn
        rw [hStrands]
        exact hSound.roused_lt other hTurn
      ready_nodup := hSound.ready_nodup
      ready_pos := hSound.ready_pos
      steps := by
        intro other hExists
        rw [hStrands] at hExists
        rw [hStrand]
        split
        · rename_i hSame
          subst hSame
          exact hSound.steps other hId
        · exact hSound.steps other hExists
      alarms := by
        intro other
        rw [hStrand]
        split
        · rename_i hSame
          subst hSame
          intro _
          exact hSound.alarms other (by rw [hWaiting]; nofun)
        · exact hSound.alarms other }

end Enqueue

end Sound

end Journal

end Automation
