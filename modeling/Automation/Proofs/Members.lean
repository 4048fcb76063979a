import Automation.Proofs.Settling

/-
  Branches that have not finished are there to finish.

  Key definitions include:
    * `Journal.Manned`, a strand for every branch that has not finished

  Key theorems include:
    * `Journal.Manned.turn`, what a turn leaves
-/

namespace Automation

namespace Journal

/- Every branch that has not finished is a strand that goes on. -/
def Manned
    (j : Journal) : Prop :=
  ∀ groupId position : Nat,
    (j.group groupId).finished[position]? = some false →
      ∃ id,
        (j.strand id).group? = some (groupId, position) ∧
          (j.strand id).waiting ≠ .finished

variable {j later : Journal}
variable {id : Nat}

theorem release_groups
    (j : Journal)
    (asksModel : Bool) :
    (j.release asksModel).groups = j.groups := by
  unfold release
  split <;> rfl

namespace Manned

/- Strands that go on, and branches that had not finished before. -/
theorem mono
    (hManned : j.Manned)
    (hStrands :
      ∀ other groupId position,
        (j.strand other).group? = some (groupId, position) →
          (j.strand other).waiting ≠ .finished →
            (later.strand other).group? =
                some (groupId, position) ∧
              (later.strand other).waiting ≠ .finished)
    (hFinished :
      ∀ groupId position : Nat,
        (later.group groupId).finished[position]? =
            some false →
          (j.group groupId).finished[position]? =
            some false) :
    later.Manned := by
  intro groupId position hLeft
  rcases hManned groupId position
      (hFinished groupId position hLeft) with
    ⟨other, hBelongs, hLive⟩
  exact ⟨other, hStrands other groupId position hBelongs hLive⟩

theorem of_same
    (hManned : j.Manned)
    (hStrands : later.strands = j.strands)
    (hGroups : later.groups = j.groups) :
    later.Manned := by
  unfold Manned strand group at hManned ⊢
  rw [hStrands, hGroups]
  exact hManned

theorem setStrand
    {s : Strand}
    (hManned : j.Manned)
    (hId : id < j.strands.length)
    (hGroup : s.group? = (j.strand id).group?)
    (hLive : s.waiting ≠ .finished) :
    (j.setStrand id s).Manned := by
  refine hManned.mono ?_ fun _ _ h => h
  intro other groupId position hBelongs hBusy
  rw [strand_setStrand hId]
  split
  · rename_i hSame
    rw [hGroup]
    exact ⟨hSame ▸ hBelongs, hLive⟩
  · exact ⟨hBelongs, hBusy⟩

theorem setGroup
    {groupId : Nat}
    {g : Group}
    (hManned : j.Manned)
    (hLess : groupId < j.groups.length)
    (hFinished : g.finished = (j.group groupId).finished) :
    (j.setGroup groupId g).Manned := by
  refine hManned.mono (fun _ _ _ h hLive => ⟨h, hLive⟩) ?_
  intro line position
  rw [group_setGroup hLess]
  split
  · rename_i hSame
    rw [hFinished, hSame]
    exact fun h => h
  · exact fun h => h

theorem addAlarm
    {resume : Nat}
    (hManned : j.Manned)
    (hId : id < j.strands.length)
    (hLive : (j.strand id).waiting ≠ .finished) :
    (j.addAlarm id resume).Manned := by
  unfold Journal.addAlarm
  dsimp only
  split
  · exact hManned.of_same rfl rfl
  · split
    · exact hManned
    · exact
        @of_same
          (j.setStrand id { j.strand id with hasAlarm := true })
          _ (hManned.setStrand hId rfl hLive) rfl rfl

theorem keep
    {steps : List Step}
    {waiting : Waiting}
    {asksModel : Bool}
    (hManned : j.Manned)
    (hId : id < j.strands.length)
    (hLive : waiting ≠ .finished) :
    (j.keep id steps waiting asksModel).Manned :=
  hManned.setStrand hId rfl hLive

/- A strand that finishes leaves the branches of others alone. -/
theorem finish
    (hManned : j.Manned)
    (hId : id < j.strands.length)
    (hGrouped :
      ∀ groupId position,
        (j.strand id).group? = some (groupId, position) →
          groupId < j.groups.length) :
    (j.finish id).Manned := by
  have hOther :
      ∀ other, other ≠ id →
        (j.retire id).strand other = j.strand other := by
    intro other hNot
    exact (strand_setStrand hId _ _).trans (if_neg hNot)
  rw [finish_eq]
  split
  · rename_i hGroup
    refine hManned.mono ?_ fun _ _ h => h
    intro other groupId position hBelongs hLive
    have hNot : other ≠ id := by
      rintro rfl
      rw [hGroup] at hBelongs
      cases hBelongs
    rw [hOther other hNot]
    exact ⟨hBelongs, hLive⟩
  · rename_i groupId position hGroup
    have hLess := hGrouped groupId position hGroup
    intro line place hLeft
    have hLine :
        ((j.retire id).passOn groupId position).group line =
          if line = groupId then
            (j.group groupId).passing position
          else j.group line := by
      rw [passOn_eq]
      exact
        @group_setGroup (j.retire id) groupId hLess _ line
    rw [hLine] at hLeft
    have hBefore :
        (j.group line).finished[place]? = some false ∧
          (line, place) ≠ (groupId, position) := by
      split at hLeft
      · rename_i hSame
        rw [Group.passing_finished] at hLeft
        by_cases hPlace : position = place
        · subst hPlace
          simp [List.getElem?_set] at hLeft
        · rw [List.getElem?_set_ne hPlace] at hLeft
          refine ⟨hSame ▸ hLeft, ?_⟩
          intro hEq
          cases hEq
          exact hPlace rfl
      · rename_i hNot
        refine ⟨hLeft, ?_⟩
        intro hEq
        cases hEq
        exact hNot rfl
    rcases hManned line place hBefore.1 with
      ⟨other, hBelongs, hLive⟩
    have hNot : other ≠ id := by
      rintro rfl
      rw [hGroup] at hBelongs
      cases hBelongs
      exact hBefore.2 rfl
    refine ⟨other, ?_⟩
    rw [passOn_eq]
    have hSame := hOther other hNot
    rw [← hSame] at hBelongs hLive
    exact ⟨hBelongs, hLive⟩

/- The branches of a new group start, one for every position. -/
theorem exists_of_spawn
    {groupId deadline start place : Nat}
    {branches : List (Nat × List Step)}
    (hPlace : place < branches.length) :
    ∃ other,
      ((spawn groupId deadline start branches j).strand
            other).group? = some (groupId, start + place) ∧
        ((spawn groupId deadline start branches j).strand
          other).waiting ≠ .finished := by
  induction branches generalizing start place j with
  | nil => cases hPlace
  | cons branch rest ih =>
      rcases branch with ⟨time, steps⟩
      rw [spawn_cons]
      cases place with
      | zero =>
          let more :=
            j.addStrand
              (branchStrand groupId deadline start steps)
          have hLess : j.strands.length < more.strands.length := by
            rw [length_addStrand]
            exact Nat.lt_succ_self _
          have hStrand :
              more.strand j.strands.length =
                branchStrand groupId deadline start steps := by
            change
              (j.addStrand
                (branchStrand groupId deadline start
                  steps)).strand _ = _
            rw [addStrand_eq]
            exact
              (strand_append j _ _).trans (if_pos rfl)
          have hKept :=
            (spawn_keeps groupId deadline (start + 1) rest
              hLess).2.1
          refine ⟨j.strands.length, ?_⟩
          rw [hKept, hStrand]
          exact ⟨rfl, nofun⟩
      | succ place =>
          have hRest :=
            @ih
              (j.addStrand
                (branchStrand groupId deadline start steps))
              (start + 1) place (Nat.lt_of_succ_lt_succ hPlace)
          rw [Nat.add_right_comm] at hRest
          exact hRest

theorem branchOut
    {permits deadline : Nat}
    {branches : List (Nat × List Step)}
    (hManned : j.Manned)
    (hId : id < j.strands.length) :
    (j.branchOut id permits deadline branches).Manned := by
  have hGroups :=
    (branchOut_keeps id permits deadline branches hId).2.2.1
  intro line place hLeft
  have hLine :
      (j.branchOut id permits deadline branches).group line =
        if line = j.groups.length then
          newGroup id permits branches
        else j.group line := by
    rw [group, hGroups]
    exact getD_concat _ _ _ _
  rw [hLine] at hLeft
  split at hLeft
  · rename_i hNew
    have hPlace : place < branches.length := by
      rcases List.getElem?_eq_some_iff.mp hLeft with
        ⟨hLess, _⟩
      simpa [newGroup] using hLess
    have hExists :=
      @exists_of_spawn
        { j with
          groups := j.groups ++ [newGroup id permits branches] }
        j.groups.length deadline 0 place branches hPlace
    rw [Nat.zero_add] at hExists
    rw [hNew]
    exact hExists
  · rcases hManned line place hLeft with
      ⟨other, hBelongs, hLive⟩
    have hExists : other < j.strands.length := by
      by_cases hLess : other < j.strands.length
      · exact hLess
      · rw [group?_of_missing hLess] at hBelongs
        cases hBelongs
    have hKept :=
      (branchOut_keeps id permits deadline branches
        hExists).2.1
    refine ⟨other, ?_⟩
    rw [hKept]
    exact ⟨hBelongs, hLive⟩

theorem keep_addAlarm
    {steps : List Step}
    {waiting : Waiting}
    {asksModel : Bool}
    {resume : Nat}
    {timers : List Timer}
    (hManned : j.Manned)
    (hId : id < j.strands.length)
    (hLive : waiting ≠ .finished) :
    (Journal.addAlarm
      { j.keep id steps waiting asksModel with
        timers := timers } id resume).Manned := by
  have hKept :
      Manned
        { j.keep id steps waiting asksModel with
          timers := timers } :=
    (hManned.keep hId hLive).of_same rfl rfl
  have hStill :
      ((j.keep id steps waiting asksModel).strand id).waiting =
        waiting :=
    congrArg Strand.waiting (keep_strand hId _ _ _)
  refine hKept.addAlarm ?_ ?_
  · exact
      Nat.lt_of_lt_of_eq hId (length_keep _ _ _ _ _).symm
  · exact fun h => hLive (hStill.symm.trans h)

/- A strand that takes its steps leaves branches to be taken. -/
theorem proceed
    {steps : List Step}
    (hManned : j.Manned)
    (hId : id < j.strands.length)
    (hGrouped :
      ∀ groupId position,
        (j.strand id).group? = some (groupId, position) →
          groupId < j.groups.length) :
    (Journal.proceed id steps j).Manned := by
  induction steps generalizing j with
  | nil => exact hManned.finish hId hGrouped
  | cons step rest ih =>
      cases step with
      | call time call due pause? =>
          rcases proceed_call id time due call pause? rest j with
            hNext | ⟨pause, hPause, _, hNext⟩
          · have hStrands :
                ((j.note call).release
                  (isModelCall call)).strands = j.strands :=
              release_strands _ _
            have hGroups :
                ((j.note call).release
                  (isModelCall call)).groups = j.groups :=
              release_groups _ _
            rw [hNext]
            refine ih (hManned.of_same hStrands hGroups) ?_ ?_
            · rw [hStrands]
              exact hId
            · rw [strand, hStrands, ← strand, hGroups]
              exact hGrouped
          · have hNoted : (j.note call).Manned :=
              hManned.of_same rfl rfl
            rw [hNext]
            exact hNoted.keep_addAlarm hId (by simp)
      | milestone => exact ih hManned hId hGrouped
      | fan time permits limit branches pause =>
          rcases branchOut_keeps id permits limit branches hId
            with ⟨hLess, hStrand, hGroups, hNow⟩
          have hOut :
              (j.branchOut id permits limit
                branches).Manned :=
            hManned.branchOut hId
          have hKept :
              ((j.branchOut id permits limit branches).keep id
                rest (.branches j.groups.length pause)
                false).Manned :=
            hOut.keep hLess (by simp)
          rcases proceed_fan id time permits limit branches
              pause rest j with
            hNext | ⟨_, hNext | ⟨_, hNext⟩⟩
          · rw [hNext]
            refine ih hOut hLess ?_
            intro groupId position hBelongs
            rw [hStrand] at hBelongs
            rw [hGroups, List.length_append]
            exact
              Nat.lt_succ_of_lt
                (hGrouped groupId position hBelongs)
          · rw [hNext]
            exact hOut.keep_addAlarm hLess (by simp)
          · rw [hNext]
            exact hKept

theorem goOn
    {now : Journal}
    (hNow : now.Manned)
    (hTurn : HasTurn id j)
    (hStrands : now.strands = j.strands)
    (hGroups : now.groups.length = j.groups.length) :
    (Journal.proceed id (j.strand id).steps now).Manned := by
  refine hNow.proceed ?_ ?_
  · rw [hStrands]
    exact hTurn.exists_strand
  · rw [strand, hStrands, ← strand, hGroups]
    exact hTurn.sound.grouped id

theorem poll
    (hManned : j.Manned)
    (hTurn : HasTurn id j) :
    (j.poll id).Manned := by
  have hId := hTurn.exists_strand
  have hAwaits := hTurn.awaits
  have hPolled := polled_poll j id
  generalize j.poll id = next at hPolled ⊢
  cases hPolled with
  | finished => exact hManned
  | permitted => exact hManned.goOn hTurn rfl rfl
  | alone => exact hManned.goOn hTurn rfl rfl
  | @queued groupId position hWaiting hGroup =>
      have hLess := hTurn.sound.grouped _ _ _ hGroup
      have hLined :
          (j.setGroup groupId
            { j.group groupId with
              queue :=
                (j.group groupId).queue ++ [id] }).Manned :=
        hManned.setGroup hLess rfl
      exact hLined.setStrand hId rfl nofun
  | admitted hWaiting hGroup =>
      have hLess := hTurn.sound.grouped _ _ _ hGroup
      have hTaken : (j.takePermit _).Manned :=
        hManned.setGroup hLess rfl
      exact hTaken.goOn hTurn rfl List.length_set
  | answered =>
      have hGroups := release_groups j (j.strand id).asksModel
      have hDropped :
          ((j.release (j.strand id).asksModel).dropTimers id
            false).Manned :=
        hManned.of_same (release_strands _ _) hGroups
      exact
        hDropped.goOn hTurn (release_strands _ _)
          (congrArg List.length hGroups)
  | unanswered => exact hManned
  | @joined groupId pause hWaiting =>
      unfold Awaits at hAwaits
      rw [hWaiting] at hAwaits
      have hLooked : (j.lookAt groupId).Manned :=
        hManned.setGroup hAwaits.1.exists_group rfl
      have hDropped :
          ((j.lookAt groupId).dropTimers id false).Manned :=
        hLooked.of_same rfl rfl
      exact hDropped.goOn hTurn rfl List.length_set
  | unjoined hWaiting =>
      unfold Awaits at hAwaits
      rw [hWaiting] at hAwaits
      exact hManned.setGroup hAwaits.1.exists_group rfl

theorem fire
    (hManned : j.Manned) :
    j.fire.Manned := by
  rw [fire_eq]
  exact hManned.of_same rfl rfl

/- A turn leaves branches that have not finished to be taken. -/
theorem turn
    (hManned : j.Manned)
    (hSound : j.Sound none) :
    j.turn.Manned := by
  have hTurned := turned_turn j
  generalize j.turn = next at hTurned ⊢
  cases hTurned with
  | root hWoken hDraining =>
      exact
        poll (hManned.of_same rfl rfl) (hSound.rootTurn hWoken)
  | branch hReady =>
      exact
        poll (hManned.of_same rfl rfl)
          (hSound.branchTurn hReady)
  | drained => exact hManned.of_same rfl rfl
  | timers => exact fire (hManned.of_same rfl rfl)
  | stuck => exact hManned

end Manned

end Journal

end Automation
