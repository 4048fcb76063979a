import Automation.Proofs.Members
import Automation.Proofs.Rations
import Automation.Proofs.Shares

/-
  Groups of branches while a strand takes its steps.

  A group that is new has all its permits free, and all its branches in
  line.  A strand that takes its steps leaves the lines of groups as they
  are, and gives its permit back in order.  It may take them as if it had
  waited for nothing.

  Key definitions include:
    * `Journal.newStrands`, the branches that a group starts with
    * `Journal.RunsInOrder`, a strand whose end puts nobody out of order

  Key theorems include:
    * `Journal.serves_branchOut`, a group that is new
    * `Journal.proceed_resumed`, whatever a strand has waited for
    * `Journal.Serves.proceed`, a strand that takes its steps
    * `Journal.serves_proceed_of_new`, the groups it starts
-/

namespace Automation

namespace Journal

variable {j now later : Journal}
variable {cap id groupId first begun : Nat}

------------------------------------------------------------
-- Branches That Are New
------------------------------------------------------------

/- The branches that a group starts with. -/
def newStrands
    (groupId deadline : Nat) :
    (position : Nat) → List (Nat × List Step) → List Strand
  | _, [] => []
  | position, (_, steps) :: rest =>
      branchStrand groupId deadline position steps ::
        newStrands groupId deadline (position + 1) rest

theorem getElem?_newStrands
    (groupId deadline position : Nat)
    (branches : List (Nat × List Step))
    (i : Nat) :
    (newStrands groupId deadline position branches)[i]? =
      branches[i]?.map fun branch =>
        branchStrand groupId deadline (position + i)
          branch.2 := by
  induction branches generalizing position i with
  | nil => rfl
  | cons branch rest ih =>
      rcases branch with ⟨start, steps⟩
      rw [newStrands]
      cases i with
      | zero => rfl
      | succ i =>
          rw [List.getElem?_cons_succ, List.getElem?_cons_succ,
            ih, Nat.add_right_comm, Nat.add_assoc]

/- Branches that start are strands at the end, and ready in order. -/
theorem spawn_eq
    (groupId deadline position : Nat)
    (branches : List (Nat × List Step))
    (hRoot : 0 < j.strands.length)
    (hReady : ∀ other ∈ j.ready, other < j.strands.length) :
    spawn groupId deadline position branches j =
      { j with
        strands :=
          j.strands ++
            newStrands groupId deadline position branches
        ready :=
          j.ready ++
            List.range' j.strands.length branches.length } := by
  induction branches generalizing position j with
  | nil => simp [spawn, newStrands]
  | cons branch rest ih =>
      rcases branch with ⟨start, steps⟩
      have hNew : ¬ j.ready.contains j.strands.length := by
        intro hIn
        have hLess := hReady _ (List.contains_iff_mem.mp hIn)
        exact Nat.lt_irrefl _ hLess
      have hAdded :
          j.addStrand
              (branchStrand groupId deadline position steps) =
            { j with
              strands :=
                j.strands ++
                  [branchStrand groupId deadline position steps]
              ready := j.ready ++ [j.strands.length] } := by
        unfold addStrand wake
        rw [if_neg (Nat.ne_of_gt hRoot), if_neg hNew]
      rw [spawn_cons, hAdded, ih]
      · simp [newStrands, List.range'_succ]
      · simp
      · intro other hOther
        have hLess :
            other < j.strands.length ∨
              other = j.strands.length := by
          rcases List.mem_append.mp hOther with hOld | hLast
          · exact Or.inl (hReady other hOld)
          · exact Or.inr (List.mem_singleton.mp hLast)
        rw [List.length_append, List.length_singleton]
        omega

section BranchOut

variable {permits deadline : Nat}
variable {branches : List (Nat × List Step)}

theorem branchOut_eq
    (hRoot : 0 < j.strands.length)
    (hReady : ∀ other ∈ j.ready, other < j.strands.length)
    (id permits deadline : Nat)
    (branches : List (Nat × List Step)) :
    j.branchOut id permits deadline branches =
      { j with
        groups := j.groups ++ [newGroup id permits branches]
        strands :=
          j.strands ++
            newStrands j.groups.length deadline 0 branches
        ready :=
          j.ready ++
            List.range' j.strands.length branches.length } :=
  @spawn_eq
    { j with groups := j.groups ++ [newGroup id permits branches] }
    j.groups.length deadline 0 branches hRoot hReady

/- The strands that are new are those of the group that is new. -/
theorem strand_branchOut
    (hRoot : 0 < j.strands.length)
    (hReady : ∀ other ∈ j.ready, other < j.strands.length)
    (id permits deadline : Nat)
    (branches : List (Nat × List Step))
    (other : Nat) :
    (j.branchOut id permits deadline branches).strand other =
      if other < j.strands.length then j.strand other
      else
        (branches[other - j.strands.length]?.map fun branch =>
          branchStrand j.groups.length deadline
            (other - j.strands.length) branch.2).getD default := by
  rw [branchOut_eq hRoot hReady]
  unfold strand
  split
  · rename_i hOld
    simp [List.getD, List.getElem?_append_left hOld]
  · rename_i hNew
    simp [List.getD,
      List.getElem?_append_right (Nat.le_of_not_lt hNew),
      getElem?_newStrands]

theorem group_branchOut
    (hRoot : 0 < j.strands.length)
    (hReady : ∀ other ∈ j.ready, other < j.strands.length)
    (id permits deadline : Nat)
    (branches : List (Nat × List Step))
    (other : Nat) :
    (j.branchOut id permits deadline branches).group other =
      if other = j.groups.length then
        newGroup id permits branches
      else j.group other := by
  rw [branchOut_eq hRoot hReady]
  exact getD_concat _ _ _ _

end BranchOut

theorem Sound.ready_lt
    {running : Option Nat}
    (hSound : j.Sound running) :
    ∀ other ∈ j.ready, other < j.strands.length := by
  intro other hOther
  apply hSound.roused_lt
  unfold Roused
  rw [if_neg]
  · exact hOther
  · rintro rfl
    exact hSound.ready_pos hOther

section NewGroup

variable (hSound : j.Sound (some id))
variable (permits deadline : Nat)
variable (branches : List (Nat × List Step))

include hSound

/- The members of the new group are the strands that are new. -/
theorem group?_branchOut
    (other position : Nat) :
    ((j.branchOut id permits deadline branches).strand
        other).group? = some (groupId, position) ↔
      (j.strand other).group? = some (groupId, position) ∨
        groupId = j.groups.length ∧
          other = j.strands.length + position ∧
          position < branches.length := by
  rw [strand_branchOut hSound.exists_root hSound.ready_lt]
  split
  · rename_i hOld
    refine ⟨Or.inl, ?_⟩
    rintro (hGroup | ⟨_, rfl, _⟩)
    · exact hGroup
    · omega
  · rename_i hNew
    rw [group?_of_missing hNew]
    cases hBranch : branches[other - j.strands.length]? with
    | none =>
        have hBeyond := List.getElem?_eq_none_iff.mp hBranch
        constructor
        · intro hGroup
          cases hGroup
        · rintro (hGroup | ⟨_, rfl, hLess⟩)
          · cases hGroup
          · omega
    | some branch =>
        have hLess := (List.getElem?_eq_some_iff.mp hBranch).1
        rw [Option.map_some, Option.getD_some]
        constructor
        · intro hGroup
          cases hGroup
          exact Or.inr ⟨rfl, by omega, hLess⟩
        · rintro (hGroup | ⟨rfl, rfl, _⟩)
          · cases hGroup
          · rw [branchStrand, Nat.add_sub_cancel_left]

theorem underWay_branchOut
    (groupId : Nat) :
    (j.branchOut id permits deadline branches).underWay
        groupId =
      j.underWay groupId := by
  have hNone :
      (newStrands j.groups.length deadline 0 branches).countP
          (fun s => s.isUnderWayIn groupId) = 0 := by
    rw [List.countP_eq_zero]
    intro s hStrand
    rcases List.mem_iff_getElem?.mp hStrand with ⟨i, hFound⟩
    rw [getElem?_newStrands] at hFound
    rcases Option.map_eq_some_iff.mp hFound with ⟨_, _, rfl⟩
    simp [Strand.isUnderWayIn, branchStrand,
      Waiting.isUnderWay]
  rw [branchOut_eq hSound.exists_root hSound.ready_lt]
  unfold underWay
  rw [List.countP_append, hNone, Nat.add_zero]

/- The branches of other groups take no notice. -/
theorem Undisturbed.branchOut
    (hLess : groupId < j.groups.length) :
    Undisturbed groupId j
      (j.branchOut id permits deadline branches) := by
  have hSame :
      (j.branchOut id permits deadline branches).group groupId =
        j.group groupId := by
    rw [group_branchOut hSound.exists_root hSound.ready_lt,
      if_neg (Nat.ne_of_lt hLess)]
  have hMembers :
      ∀ other position,
        ((j.branchOut id permits deadline branches).strand
            other).group? = some (groupId, position) ↔
          (j.strand other).group? =
            some (groupId, position) := by
    intro other position
    rw [group?_branchOut hSound]
    refine or_iff_left ?_
    rintro ⟨rfl, _⟩
    exact Nat.lt_irrefl _ hLess
  exact
    { group?_iff := hMembers
      waiting := by
        intro other position hGroup
        rw [strand_branchOut hSound.exists_root hSound.ready_lt,
          if_pos]
        · exact Or.inl rfl
        · by_contra hMissing
          rw [group?_of_missing hMissing] at hGroup
          cases hGroup
      queue_eq := by rw [hSame]
      size_eq := by rw [size, hSame, size]
      ready := by
        refine
          ⟨List.range' j.strands.length branches.length, ?_, ?_⟩
        · rw [branchOut_eq hSound.exists_root hSound.ready_lt]
        · intro other hOther position hGroup
          rw [hMembers, group?_of_missing] at hGroup
          · cases hGroup
          · rw [List.mem_range'_1] at hOther
            omega }

theorem Serves.branchOut
    (hServes : j.Serves cap groupId first begun)
    (hLess : groupId < j.groups.length) :
    (j.branchOut id permits deadline branches).Serves cap
      groupId first begun := by
  refine
    hServes.undisturbed
      (.branchOut hSound permits deadline branches hLess) ?_
      (underWay_branchOut hSound _ _ _ _)
  rw [group_branchOut hSound.exists_root hSound.ready_lt,
    if_neg (Nat.ne_of_lt hLess)]

theorem group?_newGroup
    (other position : Nat) :
    ((j.branchOut id permits deadline branches).strand
        other).group? = some (j.groups.length, position) ↔
      other = j.strands.length + position ∧
        position < branches.length := by
  rw [group?_branchOut hSound]
  constructor
  · rintro (hOld | ⟨_, hNew⟩)
    · exact
        absurd (hSound.grouped _ _ _ hOld) (Nat.lt_irrefl _)
    · exact hNew
  · exact fun hNew => Or.inr ⟨rfl, hNew⟩

theorem isIn_newGroup_iff
    (other : Nat) :
    ((j.branchOut id permits deadline branches).strand
        other).isIn j.groups.length = true ↔
      other ∈
        List.range' j.strands.length branches.length := by
  rw [Strand.isIn_iff, List.mem_range'_1]
  simp only [group?_newGroup hSound]
  constructor
  · rintro ⟨position, hPlace⟩
    omega
  · intro hRange
    exact ⟨other - j.strands.length, by omega⟩

/- Each branch that is new is to ask for a permit. -/
theorem waiting_newGroup
    {other : Nat}
    (hOther :
      other ∈ List.range' j.strands.length branches.length) :
    ((j.branchOut id permits deadline branches).strand
      other).waiting = .turn := by
  rw [List.mem_range'_1] at hOther
  have hLess : other - j.strands.length < branches.length := by
    omega
  rw [strand_branchOut hSound.exists_root hSound.ready_lt,
    if_neg (Nat.not_lt_of_le hOther.1),
    List.getElem?_eq_getElem hLess]
  rfl

theorem filter_isIn_newGroup :
    ((j.branchOut id permits deadline branches).ready.filter
        fun other =>
          ((j.branchOut id permits deadline branches).strand
            other).isIn j.groups.length) =
      List.range' j.strands.length branches.length := by
  have hReady :
      (j.branchOut id permits deadline branches).ready =
        j.ready ++
          List.range' j.strands.length branches.length := by
    rw [branchOut_eq hSound.exists_root hSound.ready_lt]
  have hOld :
      ∀ other ∈ j.ready,
        ((j.branchOut id permits deadline branches).strand
          other).isIn j.groups.length ≠ true := by
    intro other hOther hBelongs
    have hRange := (isIn_newGroup_iff hSound _ _ _ _).mp hBelongs
    rw [List.mem_range'_1] at hRange
    exact
      Nat.not_lt_of_le hRange.1 (hSound.ready_lt _ hOther)
  rw [hReady, List.filter_append,
    List.filter_eq_nil_iff.mpr hOld, List.nil_append,
    List.filter_eq_self.mpr
      fun _ => (isIn_newGroup_iff hSound _ _ _ _).mpr]

/- All branches that are new stand in line. -/
theorem lined_newGroup
    (waiting : Waiting) :
    (j.branchOut id permits deadline branches).lined waiting
        j.groups.length =
      if waiting = .turn then
        List.range' j.strands.length branches.length
      else [] := by
  have hSplit :
      (j.branchOut id permits deadline branches).lined waiting
          j.groups.length =
        (List.range' j.strands.length branches.length).filter
          fun other =>
            ((j.branchOut id permits deadline branches).strand
              other).waiting = waiting := by
    rw [← filter_isIn_newGroup hSound permits deadline branches,
      List.filter_filter]
    unfold lined
    simp only [Bool.and_comm]
  rw [hSplit]
  split
  · rename_i hSame
    rw [List.filter_eq_self]
    intro other hOther
    rw [waiting_newGroup hSound _ _ _ hOther, hSame]
    rfl
  · rename_i hNot
    rw [List.filter_eq_nil_iff]
    intro other hOther
    rw [waiting_newGroup hSound _ _ _ hOther]
    simpa using Ne.symm hNot

theorem underWay_newGroup :
    (j.branchOut id permits deadline branches).underWay
      j.groups.length = 0 := by
  rw [underWay_branchOut hSound, underWay, List.countP_eq_zero]
  intro s hStrand hUnderWay
  rcases List.mem_iff_getElem?.mp hStrand with ⟨other, hFound⟩
  have hSame : j.strand other = s := by
    rw [strand, List.getD, hFound]
    rfl
  rw [Strand.isUnderWayIn, Bool.and_eq_true] at hUnderWay
  rcases Strand.isIn_iff.mp hUnderWay.1 with ⟨position, hPlace⟩
  rw [← hSame] at hPlace
  exact absurd (hSound.grouped _ _ _ hPlace) (Nat.lt_irrefl _)

/- No branch of a group that is new has started. -/
theorem serves_branchOut
    (hPermits : permits = permitsFor cap branches.length) :
    (j.branchOut id permits deadline branches).Serves cap
      j.groups.length j.strands.length 0 := by
  have hGroup :
      (j.branchOut id permits deadline branches).group
          j.groups.length =
        newGroup id permits branches :=
    (group_branchOut hSound.exists_root hSound.ready_lt _ _ _ _
      _).trans (if_pos rfl)
  have hSize :
      (j.branchOut id permits deadline branches).size
          j.groups.length =
        branches.length := by
    rw [size, hGroup, newGroup, List.length_map]
  have hCalled :
      (j.branchOut id permits deadline branches).called
          j.groups.length = [] :=
    lined_newGroup hSound permits deadline branches .permit
  have hComing :
      (j.branchOut id permits deadline branches).coming
          j.groups.length =
        List.range' j.strands.length branches.length :=
    lined_newGroup hSound permits deadline branches .turn
  refine
    { lined :=
        { first_pos := hSound.exists_root
          group?_iff := by
            intro other position
            rw [group?_newGroup hSound, hSize]
          begun_le := Nat.zero_le _
          started_iff := by
            intro position hLess
            rw [hSize] at hLess
            rw [waiting_newGroup hSound permits deadline branches
              (List.mem_range'_1.mpr (by omega))]
            simp [Waiting.isFresh]
          line_eq := by
            rw [line, hCalled, hGroup, hComing, hSize]
            rfl
          called_eq := fun _ => hCalled
          coming_prefix := by
            refine ⟨[], ?_⟩
            rw [List.append_nil, hComing,
              filter_isIn_newGroup hSound] }
      shared := ?_ }
  rw [hGroup, hCalled, underWay_newGroup hSound, hSize,
    ← hPermits]
  rfl

end NewGroup

------------------------------------------------------------
-- Taking Steps
------------------------------------------------------------

section Resumed

theorem strand_resumed
    (hId : id < j.strands.length) :
    (j.resumed id).strand id = (j.strand id).goingOn :=
  (strand_setStrand hId _ _).trans (if_pos rfl)

theorem setStrand_resumed
    (s : Strand) :
    (j.resumed id).setStrand id s = j.setStrand id s := by
  simp [resumed, setStrand]

theorem finish_resumed
    (hId : id < j.strands.length) :
    (j.resumed id).finish id = j.finish id := by
  have hRetired : (j.resumed id).retire id = j.retire id := by
    rw [retire, strand_resumed hId, setStrand_resumed]
    rfl
  rw [finish_eq, finish_eq, hRetired, strand_resumed hId]
  rfl

theorem addStrand_resumed
    (hId : id < j.strands.length)
    (s : Strand) :
    (j.resumed id).addStrand s = (j.addStrand s).resumed id := by
  have hStrand : (j.addStrand s).strand id = j.strand id :=
    strand_addStrand hId s
  rw [resumed, resumed, hStrand]
  unfold addStrand setStrand wake
  dsimp only
  rw [List.length_set]
  split
  · simp [List.set_append_left _ _ hId]
  · split <;> simp [List.set_append_left _ _ hId]

theorem spawn_resumed
    (hId : id < j.strands.length)
    (groupId deadline position : Nat)
    (branches : List (Nat × List Step)) :
    spawn groupId deadline position branches (j.resumed id) =
      (spawn groupId deadline position branches j).resumed
        id := by
  induction branches generalizing position j with
  | nil => rfl
  | cons branch rest ih =>
      rcases branch with ⟨start, steps⟩
      rw [spawn_cons, spawn_cons, addStrand_resumed hId, ih]
      rw [length_addStrand]
      exact Nat.lt_succ_of_lt hId

theorem keep_resumed
    (hId : id < j.strands.length)
    (steps : List Step)
    (waiting : Waiting)
    (asksModel : Bool) :
    (j.resumed id).keep id steps waiting asksModel =
      j.keep id steps waiting asksModel := by
  rw [keep, strand_resumed hId, setStrand_resumed]
  rfl

theorem branchOut_resumed
    (hId : id < j.strands.length)
    (permits deadline : Nat)
    (branches : List (Nat × List Step)) :
    (j.resumed id).branchOut id permits deadline branches =
      (j.branchOut id permits deadline branches).resumed id :=
  @spawn_resumed
    { j with groups := j.groups ++ [newGroup id permits branches] }
    id hId j.groups.length deadline 0 branches

/- What a strand does next does not depend on what it waited for. -/
theorem proceed_resumed
    (steps : List Step)
    (hId : id < j.strands.length) :
    proceed id steps (j.resumed id) = proceed id steps j := by
  induction steps generalizing j with
  | nil => exact finish_resumed hId
  | cons step rest ih =>
      cases step with
      | call time call due pause? =>
          have hNext :
              ((j.resumed id).note call).release
                  (isModelCall call) =
                ((j.note call).release
                  (isModelCall call)).resumed id := by
            unfold release
            split <;> rfl
          have hRest :
              proceed id rest
                  (((j.resumed id).note call).release
                    (isModelCall call)) =
                proceed id rest
                  ((j.note call).release
                    (isModelCall call)) := by
            rw [hNext]
            apply ih
            rw [release_strands]
            exact hId
          have hKeep :
              ∀ waiting,
                ((j.resumed id).note call).keep id rest waiting
                    (isModelCall call) =
                  (j.note call).keep id rest waiting
                    (isModelCall call) :=
            fun waiting => @keep_resumed (j.note call) id hId _ _ _
          have hTime : (j.resumed id).time = j.time := rfl
          rw [proceed_call_eq, proceed_call_eq, hTime]
          simp only [hRest, hKeep]
      | milestone => exact ih hId
      | fan time permits limit branches pause =>
          rcases branchOut_keeps id permits limit branches hId
            with ⟨hLess, _, _, _⟩
          have hTime :
              ((j.branchOut id permits limit branches).resumed
                  id).time =
                (j.branchOut id permits limit branches).time :=
            rfl
          have hGroups :
              (j.resumed id).groups.length = j.groups.length :=
            rfl
          rw [proceed_fan_eq, proceed_fan_eq,
            branchOut_resumed hId, ih hLess, keep_resumed hLess,
            hTime, hGroups]

end Resumed

/-
  A strand that runs holds a permit of its group.  When it gives the permit
  back, nobody in the queue is passed by those who are to ask for one.
-/
def RunsInOrder
    (j : Journal)
    (id groupId : Nat) : Prop :=
  ∀ position,
    (j.strand id).group? = some (groupId, position) →
      (j.strand id).waiting.isUnderWay = true ∧
        ((j.group groupId).queue = [] ∨
          j.coming groupId = [])

theorem Undisturbed.runsInOrder
    (hUndisturbed : Undisturbed groupId j later)
    (hRuns : j.RunsInOrder id groupId)
    (hStrand : later.strand id = j.strand id) :
    later.RunsInOrder id groupId := by
  intro position hGroup
  rw [hStrand] at hGroup ⊢
  rw [hUndisturbed.queue_eq, hUndisturbed.coming_eq]
  exact hRuns position hGroup

theorem RunsInOrder.of_same
    (hRuns : j.RunsInOrder id groupId)
    (hStrands : later.strands = j.strands)
    (hGroups : later.groups = j.groups)
    (hReady : later.ready = j.ready) :
    later.RunsInOrder id groupId := by
  have hGroup : later.group groupId = j.group groupId := by
    rw [group, hGroups, group]
  refine
    (Undisturbed.of_same hStrands (by rw [hGroup]) ?_
      hReady).runsInOrder hRuns ?_
  · rw [size, hGroup, size]
  · rw [strand, hStrands, strand]

theorem release_ready
    (j : Journal)
    (asksModel : Bool) :
    (j.release asksModel).ready = j.ready := by
  unfold release
  split <;> rfl

theorem RunsInOrder.release
    (hRuns : j.RunsInOrder id groupId)
    (asksModel : Bool) :
    (j.release asksModel).RunsInOrder id groupId :=
  hRuns.of_same (release_strands _ _) (release_groups _ _)
    (release_ready _ _)

namespace Serves

variable (hServes : j.Serves cap groupId first begun)

include hServes

theorem release
    (asksModel : Bool) :
    (j.release asksModel).Serves cap groupId first begun :=
  hServes.of_same (release_strands _ _) (release_groups _ _)
    (release_ready _ _)

theorem addAlarm
    {resume : Nat}
    (hId : id < j.strands.length)
    (hOwn :
      ∀ position,
        (j.strand id).group? = some (groupId, position) →
          (j.strand id).waiting.isUnderWay = true) :
    (j.addAlarm id resume).Serves cap groupId first begun := by
  unfold Journal.addAlarm
  dsimp only
  split
  · exact hServes.of_same rfl rfl rfl
  · split
    · exact hServes
    · have hSet :
          (j.setStrand id
            { j.strand id with hasAlarm := true }).Serves cap
              groupId first begun :=
        hServes.setStrand hId rfl fun position hGroup =>
          ⟨hOwn position hGroup, hOwn position hGroup⟩
      exact hSet.of_same rfl rfl rfl

/- A branch that waits keeps its permit. -/
theorem keep
    {steps : List Step}
    {waiting : Waiting}
    {asksModel : Bool}
    (hId : id < j.strands.length)
    (hOwn :
      ∀ position,
        (j.strand id).group? = some (groupId, position) →
          (j.strand id).waiting.isUnderWay = true)
    (hWaiting : waiting.isUnderWay = true) :
    (j.keep id steps waiting asksModel).Serves cap groupId first
      begun :=
  hServes.setStrand hId rfl fun position hGroup =>
    ⟨hOwn position hGroup, hWaiting⟩

theorem keep_addAlarm
    {steps : List Step}
    {waiting : Waiting}
    {asksModel : Bool}
    {resume : Nat}
    {timers : List Timer}
    (hId : id < j.strands.length)
    (hOwn :
      ∀ position,
        (j.strand id).group? = some (groupId, position) →
          (j.strand id).waiting.isUnderWay = true)
    (hWaiting : waiting.isUnderWay = true) :
    (Journal.addAlarm
      { j.keep id steps waiting asksModel with
        timers := timers } id resume).Serves cap groupId first
          begun := by
  have hKept :
      Serves cap
        { j.keep id steps waiting asksModel with
          timers := timers }
        groupId first begun :=
    (hServes.keep hId hOwn hWaiting).of_same rfl rfl rfl
  have hStrand :
      ((j.keep id steps waiting asksModel).strand id).waiting =
        waiting :=
    congrArg Strand.waiting (keep_strand hId _ _ _)
  refine hKept.addAlarm ?_ ?_
  · exact
      Nat.lt_of_lt_of_eq hId (length_keep _ _ _ _ _).symm
  · intro _ _
    exact hStrand.symm ▸ hWaiting

omit hServes in
/- Branches that start are waited for with the permit at hand. -/
theorem proceed_fan
    {time permits limit : Nat}
    {branches : List (Nat × List Step)}
    {pause : Pause}
    {rest : List Step}
    (hOut :
      (j.branchOut id permits limit branches).Serves cap groupId
        first begun)
    (hId :
      id < (j.branchOut id permits limit
        branches).strands.length)
    (hOwn :
      ∀ position,
        ((j.branchOut id permits limit branches).strand
            id).group? = some (groupId, position) →
          ((j.branchOut id permits limit branches).strand
            id).waiting.isUnderWay = true)
    (hRest :
      (Journal.proceed id rest
        (j.branchOut id permits limit branches)).Serves cap
          groupId first begun) :
    (Journal.proceed id
      (.fan time permits limit branches pause :: rest)
        j).Serves cap groupId first begun := by
  rcases Journal.proceed_fan id time permits limit branches
      pause rest j with
    hNext | ⟨_, hNext | ⟨_, hNext⟩⟩
  · rw [hNext]
    exact hRest
  · rw [hNext]
    exact hOut.keep_addAlarm hId hOwn rfl
  · rw [hNext]
    exact hOut.keep hId hOwn rfl

/- A strand that takes its steps leaves the lines of groups in order. -/
theorem proceed
    {deadline : Nat}
    {steps : List Step}
    (hRuns : j.RunsInOrder id groupId)
    (hSound : j.Sound (some id))
    (hId : id < j.strands.length)
    (hLess : groupId < j.groups.length)
    (hSteps : Joinable deadline steps) :
    (Journal.proceed id steps j).Serves cap groupId first
      begun := by
  induction steps generalizing j with
  | nil => exact hServes.finish hSound hId hLess hRuns
  | cons step rest ih =>
      have hOwn :
          ∀ position,
            (j.strand id).group? = some (groupId, position) →
              (j.strand id).waiting.isUnderWay = true :=
        fun position hGroup => (hRuns position hGroup).1
      cases hSteps with
      | @call _ time due call pause? _ _ hRest =>
          have hNoted :
              (j.note call).Serves cap groupId first begun :=
            hServes.of_same rfl rfl rfl
          have hStill : (j.note call).RunsInOrder id groupId :=
            hRuns.of_same rfl rfl rfl
          rcases proceed_call id time due call pause? rest j with
            hNext | ⟨pause, _, _, hNext⟩
          · rw [hNext]
            refine
              ih (hNoted.release _) (hStill.release _)
                hSound.note.release ?_ ?_ hRest
            · rw [release_strands]
              exact hId
            · rw [release_groups]
              exact hLess
          · rw [hNext]
            exact hNoted.keep_addAlarm hId hOwn rfl
      | milestone hRest =>
          exact ih hServes hRuns hSound hId hLess hRest
      | @fan _ time permits limit branches pause _ hPermits
          hSome _ _ _ hBranches hRest =>
          rcases branchOut_keeps id permits limit branches hId
            with ⟨hExists, hStrand, hGroups, _⟩
          have hOut :
              (j.branchOut id permits limit branches).Serves cap
                groupId first begun :=
            hServes.branchOut hSound permits limit branches hLess
          have hStill :
              (j.branchOut id permits limit
                branches).RunsInOrder id groupId :=
            (Undisturbed.branchOut hSound permits limit branches
              hLess).runsInOrder hRuns hStrand
          refine
            hOut.proceed_fan hExists
              (fun position hGroup => (hStill position hGroup).1)
              (ih hOut hStill
                (hSound.branchOut hPermits hBranches) hExists
                ?_ hRest)
          rw [hGroups, List.length_append]
          exact Nat.lt_succ_of_lt hLess

end Serves

theorem length_finish
    (j : Journal)
    (id : Nat) :
    (j.finish id).groups.length = j.groups.length := by
  rw [finish_eq]
  split
  · rfl
  · rw [passOn_eq]
    exact List.length_set

/- The strand that runs is no branch of the group that it starts. -/
theorem serves_fan_of_new
    {deadline time permits limit : Nat}
    {branches : List (Nat × List Step)}
    {pause : Pause}
    {rest : List Step}
    (hSound : j.Sound (some id))
    (hOut :
      (j.branchOut id permits limit branches).Sound (some id))
    (hId : id < j.strands.length)
    (hPermits : permits = permitsFor cap branches.length)
    (hRest : Joinable deadline rest) :
    (Journal.proceed id
      (.fan time permits limit branches pause :: rest)
        j).Serves cap j.groups.length j.strands.length 0 := by
  rcases branchOut_keeps id permits limit branches hId with
    ⟨hExists, hStrand, hGroups, _⟩
  have hFirst :
      (j.branchOut id permits limit branches).Serves cap
        j.groups.length j.strands.length 0 :=
    serves_branchOut hSound permits limit branches hPermits
  have hVain :
      ∀ {holds : Prop} position,
        ((j.branchOut id permits limit branches).strand
            id).group? = some (j.groups.length, position) →
          holds := by
    intro holds position hGroup
    rw [hStrand] at hGroup
    exact
      absurd (hSound.grouped _ _ _ hGroup) (Nat.lt_irrefl _)
  have hLength :
      j.groups.length <
        (j.branchOut id permits limit branches).groups.length := by
    rw [hGroups, List.length_append, List.length_singleton]
    exact Nat.lt_succ_self _
  exact
    hFirst.proceed_fan hExists hVain
      (hFirst.proceed hVain hOut hExists hLength hRest)

/- A group that is new while a strand takes its steps. -/
theorem serves_proceed_of_new
    {deadline : Nat}
    {steps : List Step}
    (hSound : j.Sound (some id))
    (hId : id < j.strands.length)
    (hSteps : Joinable deadline steps)
    (hRationed : Rationed cap steps)
    (hNew : j.groups.length ≤ groupId)
    (hLess :
      groupId < (Journal.proceed id steps j).groups.length) :
    ∃ first,
      (Journal.proceed id steps j).Serves cap groupId first
        0 := by
  induction steps generalizing j with
  | nil =>
      have hLength := length_finish j id
      rw [Journal.proceed, hLength] at hLess
      exact absurd hLess (Nat.not_lt_of_le hNew)
  | cons step rest ih =>
      have hRest := hRationed.tail
      cases hSteps with
      | @call _ time due call pause? _ _ hLater =>
          have hGroups :
              ((j.note call).release
                (isModelCall call)).groups = j.groups :=
            release_groups _ _
          rcases proceed_call id time due call pause? rest j with
            hNext | ⟨pause, _, _, hNext⟩
          · rw [hNext] at hLess ⊢
            refine
              ih hSound.note.release ?_ hLater hRest ?_ hLess
            · rw [release_strands]
              exact hId
            · rw [hGroups]
              exact hNew
          · have hKept :
                id < (((j.note call).keep id rest
                    (.answer pause.resume)
                    (isModelCall call)).addTimer
                  ⟨due, id, false⟩).strands.length :=
              Nat.lt_of_lt_of_eq hId (length_keep _ _ _ _ _).symm
            rw [hNext, (addAlarm_spec hKept _).2.2.1] at hLess
            exact absurd hLess (Nat.not_lt_of_le hNew)
      | milestone hLater =>
          exact ih hSound hId hLater hRest hNew hLess
      | @fan _ time permits limit branches pause _ hPermits
          hSome _ _ _ hBranches hLater =>
          rcases branchOut_keeps id permits limit branches hId
            with ⟨hExists, hStrand, hGroups, _⟩
          have hOut := hSound.branchOut hPermits hBranches
          have hLength :
              (j.branchOut id permits limit
                  branches).groups.length =
                j.groups.length + 1 := by
            rw [hGroups, List.length_append,
              List.length_singleton]
          by_cases hSame : groupId = j.groups.length
          · subst hSame
            exact
              ⟨_, serves_fan_of_new hSound hOut hId
                hRationed.head.1 hLater⟩
          · have hKept :
                id < ((j.branchOut id permits limit
                    branches).keep id rest
                  (.branches j.groups.length pause)
                  false).strands.length :=
              Nat.lt_of_lt_of_eq hExists
                (length_keep _ _ _ _ _).symm
            have hBeyond :
                ¬ groupId <
                  (j.branchOut id permits limit
                    branches).groups.length := by
              omega
            rcases Journal.proceed_fan id time permits limit
                branches pause rest j with
              hNext | ⟨_, hNext | ⟨_, hNext⟩⟩
            · rw [hNext] at hLess ⊢
              exact
                ih hOut hExists hLater hRest (by omega) hLess
            · rw [hNext, (addAlarm_spec hKept _).2.2.1] at hLess
              exact absurd hLess hBeyond
            · rw [hNext] at hLess
              exact absurd hLess hBeyond

end Journal

end Automation
