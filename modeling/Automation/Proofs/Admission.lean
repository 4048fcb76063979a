import Automation.Proofs.Serving

/-
  Branches that are admitted in order.

  A turn of the thread leaves the line of a group as it is, or the first
  in line starts.  A group that is new has all its branches in line.  Time
  passes only when no strand is ready, so that no strand in line can be
  one that has a permit.

  Key definitions include:
    * `Journal.Readied`, what a strand goes on with

  Key theorems include:
    * `Journal.Serves.poll` and `Journal.Serves.poll_fresh`
    * `Journal.Serves.turn`, a turn of the thread
    * `Journal.serves_turn_of_new`, a group that is new
    * `Journal.ready_of_time_turn`, when time passes
-/

namespace Automation

namespace Journal

variable {j now mid later : Journal}
variable {cap id groupId first begun : Nat}

------------------------------------------------------------
-- Strands That Go On
------------------------------------------------------------

/-
  What a strand goes on with when what it waited for is there.  A permit
  may have been taken, timers dropped, and the like.
-/
structure Readied
    (id : Nat)
    (now mid : Journal) : Prop where
  sound : mid.Sound (some id)
  strands_eq : mid.strands = now.strands
  length_eq : mid.groups.length = now.groups.length
  time_eq : mid.time = now.time

theorem time_release
    (j : Journal)
    (asksModel : Bool) :
    (j.release asksModel).time = j.time := by
  unfold release
  split <;> rfl

theorem HasTurn.joins
    {own : Nat}
    {pause : Pause}
    (hTurn : HasTurn id now)
    (hWaiting : (now.strand id).waiting = .branches own pause) :
    Joins id (now.strand id) own now.groups := by
  have hAwaits := hTurn.awaits
  unfold Awaits at hAwaits
  rw [hWaiting] at hAwaits
  exact hAwaits.1

namespace Readied

theorem refl
    (hSound : now.Sound (some id)) :
    Readied id now now :=
  ⟨hSound, rfl, rfl, rfl⟩

theorem admitted
    {own position : Nat}
    (hSound : now.Sound (some id))
    (hGroup :
      (now.strand id).group? = some (own, position))
    (hFree : (now.group own).free ≠ 0) :
    Readied id now (now.takePermit own) where
  sound := hSound.takePermit hGroup hFree
  strands_eq := rfl
  length_eq := List.length_set
  time_eq := rfl

theorem answered
    (hSound : now.Sound (some id))
    (asksModel : Bool) :
    Readied id now
      ((now.release asksModel).dropTimers id false) where
  sound := hSound.release.dropTimers nofun
  strands_eq := release_strands _ _
  length_eq := congrArg List.length (release_groups _ _)
  time_eq := time_release _ _

theorem joined
    {own : Nat}
    (hSound : now.Sound (some id))
    (hJoins : Joins id (now.strand id) own now.groups) :
    Readied id now
      ((now.lookAt own).dropTimers id false) where
  sound := (hSound.lookAt hJoins).dropTimers nofun
  strands_eq := rfl
  length_eq := List.length_set
  time_eq := rfl

variable (hReadied : Readied id now mid)

include hReadied

theorem strand_eq
    (other : Nat) :
    mid.strand other = now.strand other := by
  rw [strand, hReadied.strands_eq, strand]

theorem exists_strand
    (hId : id < now.strands.length) :
    id < mid.strands.length := by
  rw [hReadied.strands_eq]
  exact hId

end Readied

/- A strand that has its turn goes on, or no group is new. -/
theorem HasTurn.poll_cases
    (hTurn : HasTurn id now) :
    ((now.poll id).groups.length = now.groups.length ∧
        (now.poll id).time = now.time) ∨
      ∃ mid,
        Readied id now mid ∧
          now.poll id =
            proceed id (now.strand id).steps mid := by
  have hSound := hTurn.sound
  have hPolled := polled_poll now id
  generalize now.poll id = next at hPolled ⊢
  cases hPolled with
  | finished => exact Or.inl ⟨rfl, rfl⟩
  | permitted => exact Or.inr ⟨_, .refl hSound, rfl⟩
  | alone => exact Or.inr ⟨_, .refl hSound, rfl⟩
  | queued => exact Or.inl ⟨List.length_set, rfl⟩
  | admitted _ hGroup hFree =>
      exact Or.inr ⟨_, .admitted hSound hGroup hFree, rfl⟩
  | answered => exact Or.inr ⟨_, .answered hSound _, rfl⟩
  | unanswered => exact Or.inl ⟨rfl, rfl⟩
  | joined hWaiting =>
      exact
        Or.inr ⟨_, .joined hSound (hTurn.joins hWaiting), rfl⟩
  | unjoined => exact Or.inl ⟨List.length_set, rfl⟩

------------------------------------------------------------
-- The Turn Of A Strand
------------------------------------------------------------

/- A strand may go on when its group would not be put out of order. -/
theorem Serves.goOn
    (hServes : mid.Serves cap groupId first begun)
    (hRuns : mid.RunsInOrder id groupId)
    (hReadied : Readied id now mid)
    (hId : id < now.strands.length)
    (hLess : groupId < now.groups.length) :
    (Journal.proceed id (now.strand id).steps mid).Serves cap
      groupId first begun := by
  have hExists := hReadied.exists_strand hId
  rcases hReadied.sound.steps id hExists with
    ⟨deadline, _, hSteps⟩
  rw [hReadied.strand_eq] at hSteps
  refine
    hServes.proceed hRuns hReadied.sound hExists ?_ hSteps
  rw [hReadied.length_eq]
  exact hLess

/- A group may change when neither its queue nor its size does. -/
theorem Undisturbed.regroup
    {other : Nat}
    {g : Group}
    (hOther : other < j.groups.length)
    (hQueue : g.queue = (j.group other).queue)
    (hFinished : g.finished = (j.group other).finished) :
    Undisturbed groupId j (j.setGroup other g) := by
  by_cases hSame : groupId = other
  · subst hSame
    have hGroup : (j.setGroup groupId g).group groupId = g :=
      (group_setGroup hOther g groupId).trans (if_pos rfl)
    refine .of_same rfl (by rw [hGroup, hQueue]) ?_ rfl
    rw [size, hGroup, hFinished, size]
  · exact .setGroup hOther hSame

theorem Undisturbed.lookAt
    {other : Nat}
    (hOther : other < j.groups.length) :
    Undisturbed groupId j (j.lookAt other) :=
  .regroup hOther rfl rfl

theorem Serves.lookAt
    {other : Nat}
    (hServes : j.Serves cap groupId first begun)
    (hOther : other < j.groups.length) :
    (j.lookAt other).Serves cap groupId first begun := by
  refine hServes.undisturbed (.lookAt hOther) ?_ rfl
  rw [Journal.lookAt, group_setGroup hOther]
  split
  · rename_i hSame
    rw [hSame]
  · rfl

/- A strand that is not in line leaves the line as it is. -/
theorem Serves.poll
    (hServes : now.Serves cap groupId first begun)
    (hTurn : HasTurn id now)
    (hLess : groupId < now.groups.length)
    (hStarted :
      ∀ position,
        (now.strand id).group? = some (groupId, position) →
          (now.strand id).waiting.isFresh = false ∧
            now.coming groupId = []) :
    (now.poll id).Serves cap groupId first begun := by
  have hId := hTurn.exists_strand
  have hSound := hTurn.sound
  have hRuns :
      (now.strand id).waiting.isUnderWay = true →
        now.RunsInOrder id groupId :=
    fun hUnderWay position hGroup =>
      ⟨hUnderWay, Or.inr (hStarted position hGroup).2⟩
  have hOther :
      (now.strand id).waiting.isFresh = true →
        ∀ position,
          (now.strand id).group? ≠
            some (groupId, position) := by
    intro hFresh position hGroup
    rw [(hStarted position hGroup).1] at hFresh
    cases hFresh
  -- A strand of no group, or of another, puts nobody out of order.
  have hAway :
      ∀ {holds : Prop},
        (now.strand id).waiting.isFresh = true →
          ∀ position,
            (now.strand id).group? =
                some (groupId, position) →
              holds :=
    fun hFresh position hGroup =>
      absurd hGroup (hOther hFresh position)
  have hPolled := polled_poll now id
  generalize now.poll id = next at hPolled ⊢
  cases hPolled with
  | finished => exact hServes
  | permitted hWaiting =>
      refine hServes.goOn (hAway ?_) (.refl hSound) hId hLess
      rw [hWaiting]
      rfl
  | alone hWaiting =>
      refine hServes.goOn (hAway ?_) (.refl hSound) hId hLess
      rw [hWaiting]
      rfl
  | @queued own place hWaiting hGroup =>
      have hFresh : (now.strand id).waiting.isFresh = true := by
        rw [hWaiting]
        rfl
      have hNot : groupId ≠ own := by
        rintro rfl
        exact hOther hFresh place hGroup
      have hLined :
          (now.setGroup own
            { now.group own with
              queue := (now.group own).queue ++ [id] }).Serves
                cap groupId first begun :=
        hServes.setGroup (hSound.grouped id own place hGroup)
          hNot
      exact hLined.setStrand hId rfl (hAway hFresh)
  | @admitted own place hWaiting hGroup hFree =>
      have hFresh : (now.strand id).waiting.isFresh = true := by
        rw [hWaiting]
        rfl
      have hNot : groupId ≠ own := by
        rintro rfl
        exact hOther hFresh place hGroup
      have hTaken :
          (now.takePermit own).Serves cap groupId first begun :=
        hServes.setGroup (hSound.grouped id own place hGroup)
          hNot
      exact
        hTaken.goOn (hAway hFresh)
          (.admitted hSound hGroup hFree) hId hLess
  | answered hWaiting =>
      have hStill : now.RunsInOrder id groupId := by
        apply hRuns
        rw [hWaiting]
        rfl
      have hLater := hServes.release (now.strand id).asksModel
      have hStays := hStill.release (now.strand id).asksModel
      exact
        Serves.goOn (hLater.of_same rfl rfl rfl)
          (hStays.of_same rfl rfl rfl) (.answered hSound _) hId
          hLess
  | unanswered => exact hServes
  | @joined own pause hWaiting =>
      have hJoins := hTurn.joins hWaiting
      have hLook : Undisturbed groupId now (now.lookAt own) :=
        .lookAt hJoins.exists_group
      have hLooked :
          (now.lookAt own).Serves cap groupId first begun :=
        hServes.lookAt hJoins.exists_group
      have hStill : (now.lookAt own).RunsInOrder id groupId := by
        refine hLook.runsInOrder (hRuns ?_) rfl
        rw [hWaiting]
        rfl
      exact
        Serves.goOn (hLooked.of_same rfl rfl rfl)
          (hStill.of_same rfl rfl rfl) (.joined hSound hJoins)
          hId hLess
  | unjoined hWaiting =>
      exact hServes.lookAt (hTurn.joins hWaiting).exists_group

theorem Sound.resumed
    (hSound : j.Sound (some id))
    (hId : id < j.strands.length)
    (hLive : (j.strand id).waiting ≠ .finished) :
    (j.resumed id).Sound (some id) :=
  hSound.setStrand hId rfl
    (fun _ hAlarm => hSound.alarms id hLive hAlarm)
    (hSound.steps id hId)

/- A strand that starts takes its first steps in order. -/
theorem Serves.goOn_resumed
    (hServes : (mid.resumed id).Serves cap groupId first begun)
    (hReadied : Readied id now mid)
    (hId : id < now.strands.length)
    (hLess : groupId < now.groups.length)
    (hGone : id ∉ mid.ready)
    (hLive : (now.strand id).waiting ≠ .finished)
    (hLine :
      (mid.group groupId).queue = [] ∨
        mid.coming groupId = []) :
    (Journal.proceed id (now.strand id).steps mid).Serves cap
      groupId first begun := by
  have hMid := hReadied.exists_strand hId
  have hStrand := hReadied.strand_eq id
  have hComing :
      (mid.resumed id).coming groupId = mid.coming groupId :=
    lined_setStrand hMid hGone .turn groupId
  have hLook := strand_resumed hMid
  have hRuns : (mid.resumed id).RunsInOrder id groupId := by
    intro position _
    rw [hLook, hComing]
    exact ⟨rfl, hLine⟩
  have hSteps :
      ((mid.resumed id).strand id).steps =
        (now.strand id).steps := by
    rw [hLook, ← hStrand]
    rfl
  have hExists : id < (mid.resumed id).strands.length :=
    Nat.lt_of_lt_of_eq hMid List.length_set.symm
  have hLessMid : groupId < (mid.resumed id).groups.length :=
    Nat.lt_of_lt_of_eq hLess hReadied.length_eq.symm
  have hSound : (mid.resumed id).Sound (some id) :=
    hReadied.sound.resumed hMid (hStrand ▸ hLive)
  rw [← proceed_resumed _ hMid, ← hSteps]
  exact hServes.goOn hRuns (.refl hSound) hExists hLessMid

/- When a strand of the group is in line, the first in line may start. -/
theorem Serves.poll_fresh
    {position : Nat}
    (hServes : j.Serves cap groupId first begun)
    (hPopped : Popped id j now)
    (hTurn : HasTurn id now)
    (hGone : id ∉ now.ready)
    (hLess : groupId < now.groups.length)
    (hGroup :
      (now.strand id).group? = some (groupId, position))
    (hFresh : (now.strand id).waiting.isFresh = true) :
    ∃ next,
      begun ≤ next ∧ next ≤ begun + 1 ∧
        (now.poll id).Serves cap groupId first next := by
  have hId := hTurn.exists_strand
  have hSound := hTurn.sound
  have hStrand := hPopped.strand_eq id
  have hBefore : id < j.strands.length := by
    rw [← hPopped.strands_eq]
    exact hId
  have hLessBefore : groupId < j.groups.length := by
    rw [← hPopped.groups_eq]
    exact hLess
  have hBelongs :
      (j.strand id).group? = some (groupId, position) :=
    hStrand ▸ hGroup
  have hPolled := polled_poll now id
  generalize now.poll id = next at hPolled ⊢
  cases hPolled with
  | permitted hWaiting =>
      have hWaits : (j.strand id).waiting = .permit :=
        hStrand ▸ hWaiting
      refine ⟨begun + 1, Nat.le_succ _, Nat.le_refl _, ?_⟩
      refine
        (hServes.permitted hPopped hBefore hGone hBelongs
          hWaits).goOn_resumed (.refl hSound) hId hLess hGone
            (by rw [hWaiting]; nofun) (Or.inr ?_)
      exact
        hPopped.coming_eq_nil hServes.lined hBelongs
          (by rw [hWaits]; nofun)
  | alone _ hNone =>
      rw [hNone] at hGroup
      cases hGroup
  | queued hWaiting hOwn hFull =>
      rw [hGroup] at hOwn
      cases hOwn
      exact
        ⟨begun, Nat.le_refl _, Nat.le_succ _,
          hServes.queued hPopped hBefore hGone hLessBefore
            hBelongs (hStrand ▸ hWaiting)⟩
  | admitted hWaiting hOwn hFree =>
      rw [hGroup] at hOwn
      cases hOwn
      have hQueue : (now.group groupId).queue = [] := by
        by_contra hSome
        exact hFree (hSound.full groupId hSome)
      refine ⟨begun + 1, Nat.le_succ _, Nat.le_refl _, ?_⟩
      refine
        (hServes.admitted hPopped hBefore hGone hLessBefore
          hBelongs (hStrand ▸ hWaiting)
          (hPopped.group_eq groupId ▸ hQueue)
          (hPopped.group_eq groupId ▸ hFree)).goOn_resumed
            (.admitted hSound hGroup hFree) hId hLess hGone ?_
            (Or.inl ?_)
      · exact fun h => nomatch hWaiting.symm.trans h
      · rw [Journal.takePermit, group_setGroup hLess, if_pos rfl]
        exact hQueue
  | _ hWaiting =>
      rw [hWaiting] at hFresh
      cases hFresh

------------------------------------------------------------
-- The Turn Of The Thread
------------------------------------------------------------

theorem Serves.wakeAll
    {timers : List Timer}
    (hServes : j.Serves cap groupId first begun)
    (hStarted :
      ∀ timer ∈ timers, ∀ position,
        (j.strand timer.strand).group? =
            some (groupId, position) →
          (j.strand timer.strand).waiting.isFresh = false) :
    (Journal.wakeAll timers j).Serves cap groupId first
      begun := by
  induction timers generalizing j with
  | nil => exact hServes
  | cons timer rest ih =>
      have hStrand :
          ∀ other,
            (j.wake timer.strand).strand other =
              j.strand other := by
        intro other
        rw [strand, wake_strands, strand]
      refine
        ih (hServes.wake (hStarted timer List.mem_cons_self)) ?_
      intro other hOther position
      rw [hStrand]
      exact
        hStarted other (List.mem_cons_of_mem _ hOther) position

/- Timers wake nobody that stands in line. -/
theorem Serves.fire
    (hServes : j.Serves cap groupId first begun)
    (hSound : j.Sound none) :
    j.fire.Serves cap groupId first begun := by
  have hStarted :
      ∀ timer ∈ j.timers,
        (j.strand timer.strand).waiting.isFresh = false := by
    intro timer hTimer
    cases hFresh : (j.strand timer.strand).waiting.isFresh with
    | false => rfl
    | true =>
        exact
          absurd rfl ((hSound.fresh _ nofun hFresh).1 timer hTimer)
  have hLater :
      Serves cap
        { j with
          timers :=
            j.timers.filter fun timer => !(timer.due ≤ j.time) }
        groupId first begun :=
    hServes.of_same rfl rfl rfl
  refine hLater.wakeAll ?_
  intro timer hTimer _ _
  exact
    hStarted timer
      (List.mem_of_mem_filter (List.mem_mergeSort.mp hTimer))

/-
  A turn leaves the branches of a group in order: no branch starts, or the
  first of those in line.
-/
theorem Serves.turn
    (hServes : j.Serves cap groupId first begun)
    (hSound : j.Sound none)
    (hLess : groupId < j.groups.length) :
    ∃ next,
      begun ≤ next ∧ next ≤ begun + 1 ∧
        j.turn.Serves cap groupId first next := by
  have hTurned := turned_turn j
  generalize j.turn = next at hTurned ⊢
  cases hTurned with
  | root hWoken =>
      have hNow :
          Serves cap
            { j with woken := false, draining := true } groupId
            first begun :=
        hServes.of_same rfl rfl rfl
      refine ⟨begun, Nat.le_refl _, Nat.le_succ _, ?_⟩
      refine hNow.poll (hSound.rootTurn hWoken) hLess ?_
      intro position hGroup
      have hPlace := (hNow.lined.group?_iff 0 position).mp hGroup
      have hFirst := hNow.lined.first_pos
      omega
  | @branch id rest hReady =>
      have hTurn := hSound.branchTurn hReady
      have hPopped :
          Popped id j { j with ready := rest, draining := true } :=
        ⟨rfl, rfl, hReady⟩
      have hGone : id ∉ rest := by
        have hNodup := hSound.ready_nodup
        rw [hReady] at hNodup
        exact (List.nodup_cons.mp hNodup).1
      by_cases hLine :
          (∃ position,
            (j.strand id).group? = some (groupId, position)) ∧
              (j.strand id).waiting.isFresh = true
      · rcases hLine with ⟨⟨position, hGroup⟩, hFresh⟩
        exact
          hServes.poll_fresh hPopped hTurn hGone hLess hGroup
            hFresh
      · have hStarted :
            ∀ position,
              (j.strand id).group? = some (groupId, position) →
                (j.strand id).waiting.isFresh = false := by
          intro position hGroup
          rw [← Bool.not_eq_true]
          exact fun hFresh => hLine ⟨⟨position, hGroup⟩, hFresh⟩
        refine ⟨begun, Nat.le_refl _, Nat.le_succ _, ?_⟩
        refine
          (hServes.popped hPopped hStarted).poll hTurn hLess ?_
        intro position hGroup
        have hFresh := hStarted position hGroup
        refine ⟨hFresh, ?_⟩
        refine hPopped.coming_eq_nil hServes.lined hGroup ?_
        intro hWaiting
        rw [hWaiting] at hFresh
        cases hFresh
  | drained =>
      exact
        ⟨begun, Nat.le_refl _, Nat.le_succ _,
          hServes.of_same rfl rfl rfl⟩
  | timers =>
      refine ⟨begun, Nat.le_refl _, Nat.le_succ _, ?_⟩
      refine
        Serves.fire (hServes.of_same rfl rfl rfl)
          (hSound.passTime (Nat.le_max_left _ _) false)
  | stuck =>
      exact ⟨begun, Nat.le_refl _, Nat.le_succ _, hServes⟩

------------------------------------------------------------
-- Groups That Are New
------------------------------------------------------------

theorem serves_poll_of_new
    (hTurn : HasTurn id now)
    (hRations : now.Rations cap)
    (hNew : now.groups.length ≤ groupId)
    (hLess : groupId < (now.poll id).groups.length) :
    ∃ first, (now.poll id).Serves cap groupId first 0 := by
  rcases hTurn.poll_cases with
    ⟨hSame, _⟩ | ⟨mid, hReadied, hNext⟩
  · rw [hSame] at hLess
    exact absurd hLess (Nat.not_lt_of_le hNew)
  · have hExists := hReadied.exists_strand hTurn.exists_strand
    rcases hReadied.sound.steps id hExists with
      ⟨deadline, _, hSteps⟩
    rw [hReadied.strand_eq] at hSteps
    rw [hNext] at hLess ⊢
    rw [← hReadied.length_eq] at hNew
    exact
      serves_proceed_of_new hReadied.sound hExists hSteps
        (hRations.strand id) hNew hLess

/- No branch of a group that is new has started. -/
theorem serves_turn_of_new
    (hSound : j.Sound none)
    (hRations : j.Rations cap)
    (hNew : j.groups.length ≤ groupId)
    (hLess : groupId < j.turn.groups.length) :
    ∃ first, j.turn.Serves cap groupId first 0 := by
  have hOld : ¬ groupId < j.groups.length :=
    Nat.not_lt_of_le hNew
  have hTurned := turned_turn j
  generalize j.turn = next at hTurned hLess ⊢
  cases hTurned with
  | root hWoken =>
      exact
        serves_poll_of_new (hSound.rootTurn hWoken) hRations hNew
          hLess
  | branch hReady =>
      exact
        serves_poll_of_new (hSound.branchTurn hReady) hRations
          hNew hLess
  | drained => exact absurd hLess hOld
  | timers =>
      rw [fire_eq] at hLess
      exact absurd hLess hOld
  | stuck => exact absurd hLess hOld

------------------------------------------------------------
-- While Time Passes
------------------------------------------------------------

theorem time_finish
    (j : Journal)
    (id : Nat) :
    (j.finish id).time = j.time := by
  rw [finish_eq]
  split
  · rfl
  · rw [passOn_eq]
    rfl

theorem time_addAlarm
    (j : Journal)
    (id resume : Nat) :
    (j.addAlarm id resume).time = j.time := by
  unfold addAlarm
  dsimp only
  split
  · rfl
  · split <;> rfl

/- A strand takes its steps at the present time. -/
theorem time_proceed
    (steps : List Step)
    (hId : id < j.strands.length) :
    (proceed id steps j).time = j.time := by
  induction steps generalizing j with
  | nil => exact time_finish j id
  | cons step rest ih =>
      cases step with
      | call time call due pause? =>
          rcases proceed_call id time due call pause? rest j with
            hNext | ⟨pause, _, _, hNext⟩
          · rw [hNext, ih]
            · exact time_release _ _
            · rw [release_strands]
              exact hId
          · rw [hNext, time_addAlarm]
            rfl
      | milestone => exact ih hId
      | fan time permits limit branches pause =>
          rcases branchOut_keeps id permits limit branches hId
            with ⟨hLess, _, _, hTime⟩
          rcases proceed_fan id time permits limit branches
              pause rest j with
            hNext | ⟨_, hNext | ⟨_, hNext⟩⟩
          · rw [hNext, ih hLess, hTime]
          · rw [hNext, time_addAlarm]
            exact hTime
          · rw [hNext]
            exact hTime

theorem HasTurn.time_poll
    (hTurn : HasTurn id j) :
    (j.poll id).time = j.time := by
  rcases hTurn.poll_cases with
    ⟨_, hTime⟩ | ⟨mid, hReadied, hNext⟩
  · exact hTime
  · rw [hNext,
      time_proceed _ (hReadied.exists_strand hTurn.exists_strand)]
    exact hReadied.time_eq

/- Time passes when nobody is ready. -/
theorem ready_of_time_turn
    (hSound : j.Sound none)
    (hTime : j.turn.time ≠ j.time) :
    j.ready = [] := by
  cases hReady : j.ready with
  | nil => rfl
  | cons id rest =>
      refine absurd ?_ hTime
      unfold turn
      split
      · rename_i hRoot
        rw [Bool.and_eq_true] at hRoot
        exact (hSound.rootTurn hRoot.1).time_poll
      · rw [hReady]
        exact (hSound.branchTurn hReady).time_poll

end Journal

end Automation
