import Automation.Proofs.Settling

/-
  Branches that start in line.

  The branches of a group are strands that were added one after the other.
  Those that have not started stand in line: first the strands that have
  been handed a permit and are to have their turn, then those in the
  queue, then those that have yet to ask for one.  Whatever a strand does
  when it has its turn, the line of a group stays as it is, or the first
  in line starts.

  Key definitions include:
    * `Journal.line`, the strands of a group that have not started
    * `Journal.Lined`, groups whose branches start in order
    * `Journal.Undisturbed`, changes that no line takes notice of

  Key theorems include:
    * `Journal.Lined.undisturbed`, what leaves a line as it is
    * `Journal.Lined.start`, the first in line starts
    * `Journal.Popped.queued`, a strand that asks for a permit
    * `Journal.Lined.handOn`, a permit for the first in the queue
-/

namespace Automation

/- The strand has a permit and has taken steps, but not the last. -/
def Waiting.isUnderWay : Waiting → Bool
  | .answer _ => true
  | .branches _ _ => true
  | _ => false

theorem Waiting.isFresh_of_underWay
    {waiting : Waiting}
    (hUnderWay : waiting.isUnderWay = true) :
    waiting.isFresh = false := by
  cases waiting with
  | turn => cases hUnderWay
  | permit => cases hUnderWay
  | _ => rfl

theorem Waiting.isUnderWay_of_fresh
    {waiting : Waiting}
    (hFresh : waiting.isFresh = true) :
    waiting.isUnderWay = false := by
  cases waiting with
  | turn => rfl
  | permit => rfl
  | _ => cases hFresh

/- The strand when it goes on, and waits for nothing. -/
def Strand.goingOn
    (s : Strand) :
    Strand :=
  { s with waiting := .answer 0 }

/- The strand is a branch of the group. -/
def Strand.isIn
    (groupId : Nat)
    (s : Strand) :
    Bool :=
  s.group?.any fun (own, _) => own = groupId

theorem Strand.isIn_iff
    {groupId : Nat}
    {s : Strand} :
    s.isIn groupId = true ↔
      ∃ position, s.group? = some (groupId, position) := by
  rcases hGroup : s.group? with _ | ⟨own, position⟩ <;>
    simp [Strand.isIn, hGroup]

/- A strand is a branch of one group. -/
theorem Strand.group_eq
    {own groupId place position : Nat}
    {s : Strand}
    (hOwn : s.group? = some (own, place))
    (hGroup : s.group? = some (groupId, position)) :
    groupId = own := by
  rw [hOwn] at hGroup
  cases hGroup
  rfl

namespace Journal

variable {j now later : Journal}
variable {id groupId first begun : Nat}

/- The number of branches of a group. -/
def size
    (j : Journal)
    (groupId : Nat) :
    Nat :=
  (j.group groupId).finished.length

/- The strands of a group that are to have a turn, and wait for this. -/
def lined
    (j : Journal)
    (waiting : Waiting)
    (groupId : Nat) :
    List Nat :=
  j.ready.filter fun id =>
    (j.strand id).isIn groupId && (j.strand id).waiting = waiting

/- The strands that have been handed a permit, and are to start. -/
def called
    (j : Journal)
    (groupId : Nat) :
    List Nat :=
  j.lined .permit groupId

/- The strands that are to ask for a permit. -/
def coming
    (j : Journal)
    (groupId : Nat) :
    List Nat :=
  j.lined .turn groupId

/- The branches of a group that have not started, in order. -/
def line
    (j : Journal)
    (groupId : Nat) :
    List Nat :=
  j.called groupId ++ (j.group groupId).queue ++
    j.coming groupId

/-
  The branches of a group are the strands from `first` on, and as many as
  have begun are the first of them.  The others stand in line.
-/
structure Lined
    (j : Journal)
    (groupId first begun : Nat) : Prop where
  first_pos : 0 < first
  group?_iff :
    ∀ id position,
      (j.strand id).group? = some (groupId, position) ↔
        id = first + position ∧ position < j.size groupId
  begun_le : begun ≤ j.size groupId
  started_iff :
    ∀ position < j.size groupId,
      (j.strand (first + position)).waiting.isFresh = false ↔
        position < begun
  line_eq :
    j.line groupId =
      List.range' (first + begun) (j.size groupId - begun)
  /- No permit is handed on before all have asked for one. -/
  called_eq :
    j.coming groupId ≠ [] → j.called groupId = []
  coming_prefix :
    j.coming groupId <+:
      j.ready.filter fun id => (j.strand id).isIn groupId

/- The line is the same when the same strands stand in it. -/
theorem Lined.relined
    (hLined : j.Lined groupId first begun)
    (hGroups :
      ∀ id position,
        (later.strand id).group? = some (groupId, position) ↔
          (j.strand id).group? = some (groupId, position))
    (hFresh :
      ∀ id position,
        (j.strand id).group? = some (groupId, position) →
          (later.strand id).waiting.isFresh =
            (j.strand id).waiting.isFresh)
    (hSize : later.size groupId = j.size groupId)
    (hLine : later.line groupId = j.line groupId)
    (hCalled :
      later.coming groupId ≠ [] → later.called groupId = [])
    (hPrefix :
      later.coming groupId <+:
        later.ready.filter fun id =>
          (later.strand id).isIn groupId) :
    later.Lined groupId first begun where
  first_pos := hLined.first_pos
  group?_iff := by
    intro id position
    rw [hGroups, hSize]
    exact hLined.group?_iff id position
  begun_le := hSize ▸ hLined.begun_le
  started_iff := by
    intro position hPosition
    rw [hSize] at hPosition
    rw [hFresh _ position
      ((hLined.group?_iff _ _).mpr ⟨rfl, hPosition⟩)]
    exact hLined.started_iff position hPosition
  line_eq := by
    rw [hLine, hSize]
    exact hLined.line_eq
  called_eq := hCalled
  coming_prefix := hPrefix

------------------------------------------------------------
-- What Leaves A Line As It Is
------------------------------------------------------------

/-
  Strands of the group that have not started, and its queue, stay as they
  are, and so do their places among the strands that are ready.
-/
structure Undisturbed
    (groupId : Nat)
    (j later : Journal) : Prop where
  group?_iff :
    ∀ id position,
      (later.strand id).group? = some (groupId, position) ↔
        (j.strand id).group? = some (groupId, position)
  waiting :
    ∀ id position,
      (j.strand id).group? = some (groupId, position) →
        (later.strand id).waiting = (j.strand id).waiting ∨
          (j.strand id).waiting.isFresh = false ∧
            (later.strand id).waiting.isFresh = false
  queue_eq :
    (later.group groupId).queue = (j.group groupId).queue
  size_eq : later.size groupId = j.size groupId
  ready :
    ∃ more,
      later.ready = j.ready ++ more ∧
        ∀ id ∈ more, ∀ position,
          (later.strand id).group? = some (groupId, position) →
            (later.strand id).waiting.isFresh = false

namespace Undisturbed

theorem isIn_eq
    (hUndisturbed : Undisturbed groupId j later)
    (id : Nat) :
    (later.strand id).isIn groupId =
      (j.strand id).isIn groupId := by
  rw [Bool.eq_iff_iff, Strand.isIn_iff, Strand.isIn_iff]
  simp only [hUndisturbed.group?_iff]

theorem isFresh_eq
    {position : Nat}
    (hUndisturbed : Undisturbed groupId j later)
    (hGroup :
      (j.strand id).group? = some (groupId, position)) :
    (later.strand id).waiting.isFresh =
      (j.strand id).waiting.isFresh := by
  rcases hUndisturbed.waiting id position hGroup with
    hSame | ⟨hBefore, hAfter⟩
  · rw [hSame]
  · rw [hBefore, hAfter]

theorem lined_eq
    {waiting : Waiting}
    (hUndisturbed : Undisturbed groupId j later)
    (hFresh : waiting.isFresh = true) :
    later.lined waiting groupId = j.lined waiting groupId := by
  rcases hUndisturbed.ready with ⟨more, hReady, hMore⟩
  have hNone :
      (more.filter fun id =>
        (later.strand id).isIn groupId &&
          (later.strand id).waiting = waiting) = [] := by
    rw [List.filter_eq_nil_iff]
    intro id hId hWaits
    rw [Bool.and_eq_true, decide_eq_true_eq] at hWaits
    rcases Strand.isIn_iff.mp hWaits.1 with ⟨position, hGroup⟩
    have hStarted := hMore id hId position hGroup
    rw [hWaits.2, hFresh] at hStarted
    cases hStarted
  unfold lined
  rw [hReady, List.filter_append, hNone, List.append_nil]
  apply List.filter_congr
  intro id _
  rw [hUndisturbed.isIn_eq]
  cases hIn : (j.strand id).isIn groupId with
  | false => rfl
  | true =>
      rcases Strand.isIn_iff.mp hIn with ⟨position, hGroup⟩
      rcases hUndisturbed.waiting id position hGroup with
        hSame | ⟨hBefore, hAfter⟩
      · rw [hSame]
      · have hNot :
            ∀ other : Waiting,
              other.isFresh = false → other ≠ waiting := by
          rintro other hOther rfl
          rw [hFresh] at hOther
          cases hOther
        simp [hNot _ hBefore, hNot _ hAfter]

theorem called_eq
    (hUndisturbed : Undisturbed groupId j later) :
    later.called groupId = j.called groupId :=
  hUndisturbed.lined_eq rfl

theorem coming_eq
    (hUndisturbed : Undisturbed groupId j later) :
    later.coming groupId = j.coming groupId :=
  hUndisturbed.lined_eq rfl

theorem line_eq
    (hUndisturbed : Undisturbed groupId j later) :
    later.line groupId = j.line groupId := by
  rw [line, hUndisturbed.called_eq, hUndisturbed.queue_eq,
    hUndisturbed.coming_eq, line]

theorem trans
    {next : Journal}
    (hFirst : Undisturbed groupId j later)
    (hSecond : Undisturbed groupId later next) :
    Undisturbed groupId j next where
  group?_iff := by
    intro id position
    rw [hSecond.group?_iff, hFirst.group?_iff]
  waiting := by
    intro id position hGroup
    have hLater := (hFirst.group?_iff id position).mpr hGroup
    have hFresh := hFirst.isFresh_eq hGroup
    have hStill := hSecond.isFresh_eq hLater
    rcases hFirst.waiting id position hGroup with
      hSame | hStarted
    · rw [← hSame]
      exact hSecond.waiting id position hLater
    · refine Or.inr ⟨hStarted.1, ?_⟩
      rw [hStill, hFresh]
      exact hStarted.1
  queue_eq := hSecond.queue_eq.trans hFirst.queue_eq
  size_eq := hSecond.size_eq.trans hFirst.size_eq
  ready := by
    rcases hFirst.ready with ⟨more, hMore, hStarted⟩
    rcases hSecond.ready with ⟨last, hLast, hStill⟩
    refine ⟨more ++ last, ?_, ?_⟩
    · rw [hLast, hMore, List.append_assoc]
    · intro id hId position hGroup
      rcases List.mem_append.mp hId with hEarly | hLate
      · have hBefore :=
          (hSecond.group?_iff id position).mp hGroup
        rw [hSecond.isFresh_eq hBefore]
        exact hStarted id hEarly position hBefore
      · exact hStill id hLate position hGroup

/- Nothing but the strands, the group and who is ready matters. -/
theorem of_same
    (hStrands : later.strands = j.strands)
    (hQueue :
      (later.group groupId).queue = (j.group groupId).queue)
    (hSize : later.size groupId = j.size groupId)
    (hReady : later.ready = j.ready) :
    Undisturbed groupId j later where
  group?_iff := by
    intro id position
    rw [strand, hStrands, ← strand]
  waiting := by
    intro id position _
    rw [strand, hStrands, ← strand]
    exact Or.inl rfl
  queue_eq := hQueue
  size_eq := hSize
  ready :=
    ⟨[], by rw [hReady, List.append_nil],
      fun _ h => absurd h List.not_mem_nil⟩

/- A strand of another group, or one that has started, may change. -/
theorem setStrand
    {s : Strand}
    (hId : id < j.strands.length)
    (hGroup : s.group? = (j.strand id).group?)
    (hStarted :
      ∀ position,
        (j.strand id).group? = some (groupId, position) →
          (j.strand id).waiting.isFresh = false ∧
            s.waiting.isFresh = false) :
    Undisturbed groupId j (j.setStrand id s) where
  group?_iff := by
    intro other position
    rw [group?_setStrand hId hGroup]
  waiting := by
    intro other position hBelongs
    rw [strand_setStrand hId]
    split
    · rename_i hSame
      subst hSame
      exact Or.inr (hStarted position hBelongs)
    · exact Or.inl rfl
  queue_eq := rfl
  size_eq := rfl
  ready :=
    ⟨[], (List.append_nil _).symm,
      fun _ h => absurd h List.not_mem_nil⟩

/- Waking a strand that has started takes nobody out of line. -/
theorem wake
    (hStarted :
      ∀ position,
        (j.strand id).group? = some (groupId, position) →
          (j.strand id).waiting.isFresh = false) :
    Undisturbed groupId j (j.wake id) := by
  have hStrand :
      ∀ other, (j.wake id).strand other = j.strand other := by
    intro other
    rw [strand, wake_strands, strand]
  exact
    { group?_iff := by
        intro other position
        rw [hStrand]
      waiting := by
        intro other position _
        rw [hStrand]
        exact Or.inl rfl
      queue_eq := by
        rw [group, wake_groups, group]
      size_eq := by
        rw [size, group, wake_groups, size, group]
      ready := by
        unfold Journal.wake
        split
        · exact
            ⟨[], (List.append_nil _).symm,
              fun _ h => absurd h List.not_mem_nil⟩
        · split
          · exact
              ⟨[], (List.append_nil _).symm,
                fun _ h => absurd h List.not_mem_nil⟩
          · refine ⟨[id], rfl, ?_⟩
            intro other hOther position hGroup
            rw [List.mem_singleton.mp hOther] at hGroup ⊢
            exact hStarted position hGroup }

/- Another group may change. -/
theorem setGroup
    {other : Nat}
    {g : Group}
    (hOther : other < j.groups.length)
    (hNot : groupId ≠ other) :
    Undisturbed groupId j (j.setGroup other g) := by
  have hSame :
      (j.setGroup other g).group groupId = j.group groupId :=
    (group_setGroup hOther g groupId).trans (if_neg hNot)
  refine of_same rfl ?_ ?_ rfl
  · rw [hSame]
  · rw [size, hSame, size]

end Undisturbed

theorem Lined.undisturbed
    (hLined : j.Lined groupId first begun)
    (hUndisturbed : Undisturbed groupId j later) :
    later.Lined groupId first begun := by
  refine
    hLined.relined hUndisturbed.group?_iff
      (fun _ _ hGroup => hUndisturbed.isFresh_eq hGroup)
      hUndisturbed.size_eq hUndisturbed.line_eq ?_ ?_
  · rw [hUndisturbed.coming_eq, hUndisturbed.called_eq]
    exact hLined.called_eq
  · rcases hUndisturbed.ready with ⟨more, hReady, _⟩
    rw [hUndisturbed.coming_eq, hReady, List.filter_append]
    simp only [hUndisturbed.isIn_eq]
    exact
      List.prefix_append_of_prefix hLined.coming_prefix

------------------------------------------------------------
-- The Turn Of A Strand
------------------------------------------------------------

/- The first of the strands that are ready has its turn. -/
structure Popped
    (id : Nat)
    (j now : Journal) : Prop where
  strands_eq : now.strands = j.strands
  groups_eq : now.groups = j.groups
  ready_eq : j.ready = id :: now.ready

def resumed
    (j : Journal)
    (id : Nat) :
    Journal :=
  j.setStrand id (j.strand id).goingOn

/- Strands that are not ready may change without notice. -/
theorem lined_setStrand
    {s : Strand}
    (hId : id < j.strands.length)
    (hNot : id ∉ j.ready)
    (waiting : Waiting)
    (groupId : Nat) :
    (j.setStrand id s).lined waiting groupId =
      j.lined waiting groupId := by
  apply List.filter_congr
  intro other hOther
  have hOthers : other ≠ id := by
    rintro rfl
    exact hNot hOther
  rw [strand_setStrand hId, if_neg hOthers]

theorem isIn_setStrand
    {s : Strand}
    (hId : id < j.strands.length)
    (hGroup : s.group? = (j.strand id).group?)
    (groupId other : Nat) :
    ((j.setStrand id s).strand other).isIn groupId =
      (j.strand other).isIn groupId := by
  rw [Strand.isIn, group?_setStrand hId hGroup, Strand.isIn]

theorem group?_resumed
    (hId : id < j.strands.length)
    (other : Nat) :
    ((j.resumed id).strand other).group? =
      (j.strand other).group? :=
  @group?_setStrand j id (j.strand id).goingOn hId rfl other

namespace Popped

variable (hPopped : Popped id j now)

include hPopped

theorem strand_eq
    (other : Nat) :
    now.strand other = j.strand other := by
  rw [strand, hPopped.strands_eq, strand]

theorem group_eq
    (other : Nat) :
    now.group other = j.group other := by
  rw [group, hPopped.groups_eq, group]

theorem size_eq
    (groupId : Nat) :
    now.size groupId = j.size groupId := by
  rw [size, hPopped.group_eq, size]

theorem exists_now
    (hId : id < j.strands.length) :
    id < now.strands.length := by
  rw [hPopped.strands_eq]
  exact hId

theorem filter_isIn
    (groupId : Nat) :
    (j.ready.filter fun other => (j.strand other).isIn groupId) =
      (if (j.strand id).isIn groupId then [id] else []) ++
        now.ready.filter fun other =>
          (now.strand other).isIn groupId := by
  rw [hPopped.ready_eq, List.filter_cons]
  simp only [hPopped.strand_eq]
  split <;> rfl

theorem lined_eq
    (waiting : Waiting)
    (groupId : Nat) :
    j.lined waiting groupId =
      (if (j.strand id).isIn groupId ∧
          (j.strand id).waiting = waiting then [id] else []) ++
        now.lined waiting groupId := by
  unfold lined
  rw [hPopped.ready_eq, List.filter_cons]
  simp only [hPopped.strand_eq, Bool.and_eq_true,
    decide_eq_true_eq]
  split <;> rfl

/- A strand that is not in line leaves the others in line. -/
theorem lined_of_ne
    {waiting : Waiting}
    (hNot :
      ∀ position,
        (j.strand id).group? = some (groupId, position) →
          (j.strand id).waiting ≠ waiting) :
    now.lined waiting groupId = j.lined waiting groupId := by
  rw [hPopped.lined_eq, if_neg]
  · rfl
  · rintro ⟨hIn, hWaiting⟩
    rcases Strand.isIn_iff.mp hIn with ⟨position, hGroup⟩
    exact hNot position hGroup hWaiting

/- Those that are to ask for a permit go before all others. -/
theorem coming_eq_nil
    {position : Nat}
    (hLined : j.Lined groupId first begun)
    (hGroup :
      (j.strand id).group? = some (groupId, position))
    (hWaiting : (j.strand id).waiting ≠ .turn) :
    now.coming groupId = [] := by
  have hComing :
      now.coming groupId = j.coming groupId :=
    hPopped.lined_of_ne fun _ _ => hWaiting
  rw [hComing]
  have hFirst := hLined.coming_prefix
  rw [hPopped.filter_isIn,
    if_pos (Strand.isIn_iff.mpr ⟨position, hGroup⟩)] at hFirst
  cases hList : j.coming groupId with
  | nil => rfl
  | cons other rest =>
      rw [hList] at hFirst
      have hSame := (List.cons_prefix_cons.mp hFirst).1
      have hMem : other ∈ j.coming groupId := by
        rw [hList]
        exact List.mem_cons_self
      have hTurn := (List.mem_filter.mp hMem).2
      rw [hSame, Bool.and_eq_true, decide_eq_true_eq] at hTurn
      exact absurd hTurn.2 hWaiting

/- A strand that has started has its turn. -/
theorem lined_of_started
    (hLined : j.Lined groupId first begun)
    (hStarted :
      ∀ position,
        (j.strand id).group? = some (groupId, position) →
          (j.strand id).waiting.isFresh = false) :
    now.Lined groupId first begun := by
  have hSame :
      ∀ waiting : Waiting,
        waiting.isFresh = true →
          now.lined waiting groupId =
            j.lined waiting groupId := by
    intro waiting hFresh
    apply hPopped.lined_of_ne
    rintro position hGroup rfl
    rw [hStarted position hGroup] at hFresh
    cases hFresh
  have hCalled : now.called groupId = j.called groupId :=
    hSame .permit rfl
  have hComing : now.coming groupId = j.coming groupId :=
    hSame .turn rfl
  refine
    hLined.relined ?_ ?_ (hPopped.size_eq groupId) ?_ ?_ ?_
  · intro other position
    rw [hPopped.strand_eq]
  · intro other position _
    rw [hPopped.strand_eq]
  · rw [line, hCalled, hPopped.group_eq, hComing, line]
  · rw [hComing, hCalled]
    exact hLined.called_eq
  · cases hIn : (j.strand id).isIn groupId with
    | true =>
        rcases Strand.isIn_iff.mp hIn with ⟨position, hGroup⟩
        rw [hPopped.coming_eq_nil hLined hGroup]
        · exact List.nil_prefix
        · intro hWaiting
          have hFresh := hStarted position hGroup
          rw [hWaiting] at hFresh
          cases hFresh
    | false =>
        have hFirst := hLined.coming_prefix
        rw [hPopped.filter_isIn, hIn] at hFirst
        rw [hComing]
        exact hFirst

end Popped

/- The first in line starts, and the others stand where they stood. -/
theorem Lined.start
    (hLined : j.Lined groupId first begun)
    (hGroups :
      ∀ other position,
        (later.strand other).group? = some (groupId, position) ↔
          (j.strand other).group? = some (groupId, position))
    (hOthers :
      ∀ other, other ≠ id →
        (later.strand other).waiting = (j.strand other).waiting)
    (hStarted : (later.strand id).waiting.isFresh = false)
    (hSize : later.size groupId = j.size groupId)
    (hLine : j.line groupId = id :: later.line groupId)
    (hCalled :
      later.coming groupId ≠ [] → later.called groupId = [])
    (hPrefix :
      later.coming groupId <+:
        later.ready.filter fun other =>
          (later.strand other).isIn groupId) :
    later.Lined groupId first (begun + 1) := by
  rw [hLined.line_eq, List.range'_eq_cons_iff] at hLine
  rcases hLine with ⟨hFirst, hLeft, hLine⟩
  exact
    { first_pos := hLined.first_pos
      group?_iff := by
        intro other place
        rw [hGroups, hSize]
        exact hLined.group?_iff other place
      begun_le := by
        rw [hSize]
        omega
      started_iff := by
        intro place hPlace
        rw [hSize] at hPlace
        by_cases hSame : first + place = id
        · rw [hSame, hStarted]
          simp only [true_iff]
          omega
        · rw [hOthers _ hSame, hLined.started_iff place hPlace]
          omega
      line_eq := by
        rw [hLine, hSize, ← hFirst, Nat.sub_add_eq]
        rfl
      called_eq := hCalled
      coming_prefix := hPrefix }

namespace Popped

section Start

variable {taken : Journal}
variable {position : Nat}

/- The strand that has its turn is the first in line, and starts. -/
theorem start
    (hPopped : Popped id j now)
    (hLined : j.Lined groupId first begun)
    (hId : id < j.strands.length)
    (hGone : id ∉ now.ready)
    (hStrands : taken.strands = now.strands)
    (hReady : taken.ready = now.ready)
    (hSize : taken.size groupId = now.size groupId)
    (hLine :
      j.line groupId =
        id ::
          (now.called groupId ++ (taken.group groupId).queue ++
            now.coming groupId))
    (hCalled :
      now.coming groupId ≠ [] → now.called groupId = [])
    (hPrefix :
      now.coming groupId <+:
        now.ready.filter fun other =>
          (now.strand other).isIn groupId) :
    (taken.resumed id).Lined groupId first (begun + 1) := by
  have hExists : id < taken.strands.length := by
    rw [hStrands]
    exact hPopped.exists_now hId
  have hStrand :
      ∀ other, taken.strand other = now.strand other := by
    intro other
    rw [strand, hStrands, strand]
  have hLook :
      ∀ other,
        (taken.resumed id).strand other =
          if other = id then (taken.strand id).goingOn
          else taken.strand other :=
    strand_setStrand hExists _
  have hSame :
      ∀ waiting,
        (taken.resumed id).lined waiting groupId =
          now.lined waiting groupId := by
    intro waiting
    refine
      (lined_setStrand hExists (hReady ▸ hGone) _ _).trans ?_
    unfold lined
    simp only [hReady, hStrand]
  have hStays :
      (taken.resumed id).called groupId = now.called groupId ∧
        (taken.resumed id).coming groupId =
          now.coming groupId :=
    ⟨hSame .permit, hSame .turn⟩
  have hStarted :
      ((taken.resumed id).strand id).waiting.isFresh = false := by
    rw [hLook, if_pos rfl]
    rfl
  refine hLined.start ?_ ?_ hStarted ?_ ?_ ?_ ?_
  · intro other place
    rw [group?_resumed hExists, hStrand, hPopped.strand_eq]
  · intro other hNot
    rw [hLook, if_neg hNot, hStrand, hPopped.strand_eq]
  · exact hSize.trans (hPopped.size_eq groupId)
  · have hLater :
        (taken.resumed id).line groupId =
          now.called groupId ++ (taken.group groupId).queue ++
            now.coming groupId := by
      rw [line, hStays.1, hStays.2]
      rfl
    rw [hLater]
    exact hLine
  · rw [hStays.1, hStays.2]
    exact hCalled
  · have hIn :
        ∀ other,
          ((taken.resumed id).strand other).isIn groupId =
            (now.strand other).isIn groupId := by
      intro other
      rw [Strand.isIn, group?_resumed hExists, hStrand,
        Strand.isIn]
    have hStill : (taken.resumed id).ready = now.ready := hReady
    simp only [hStays.2, hIn, hStill]
    exact hPrefix

/- When a strand that is to ask for a permit has its turn. -/
theorem coming_cons
    (hPopped : Popped id j now)
    (hLined : j.Lined groupId first begun)
    (hGroup :
      (j.strand id).group? = some (groupId, position))
    (hWaiting : (j.strand id).waiting = .turn) :
    j.coming groupId = id :: now.coming groupId ∧
      j.called groupId = [] ∧
      now.called groupId = [] ∧
      now.coming groupId <+:
        now.ready.filter fun other =>
          (now.strand other).isIn groupId := by
  have hIn : (j.strand id).isIn groupId = true :=
    Strand.isIn_iff.mpr ⟨position, hGroup⟩
  have hComing :
      j.coming groupId = id :: now.coming groupId :=
    (hPopped.lined_eq .turn groupId).trans
      (by rw [if_pos ⟨hIn, hWaiting⟩]; rfl)
  have hCalled : j.called groupId = [] :=
    hLined.called_eq (hComing ▸ List.cons_ne_nil _ _)
  have hStill : now.called groupId = j.called groupId := by
    apply hPopped.lined_of_ne
    intro _ _
    rw [hWaiting]
    nofun
  refine ⟨hComing, hCalled, hStill.trans hCalled, ?_⟩
  have hPrefix := hLined.coming_prefix
  rw [hComing, hPopped.filter_isIn, hIn] at hPrefix
  exact (List.cons_prefix_cons.mp hPrefix).2

/- A strand that finds a permit free is the first in line. -/
theorem admitted
    (hPopped : Popped id j now)
    (hLined : j.Lined groupId first begun)
    (hId : id < j.strands.length)
    (hGone : id ∉ now.ready)
    (hLess : groupId < j.groups.length)
    (hGroup :
      (j.strand id).group? = some (groupId, position))
    (hWaiting : (j.strand id).waiting = .turn)
    (hQueue : (j.group groupId).queue = []) :
    ((now.takePermit groupId).resumed id).Lined groupId first
      (begun + 1) := by
  rcases hPopped.coming_cons hLined hGroup hWaiting with
    ⟨hComing, hCalled, hNone, hPrefix⟩
  have hTaken :
      (now.takePermit groupId).group groupId =
        { now.group groupId with
          free := (now.group groupId).free - 1 } :=
    (group_setGroup (hPopped.groups_eq ▸ hLess) _ _).trans
      (if_pos rfl)
  refine
    hPopped.start hLined hId hGone rfl rfl ?_ ?_
      (fun _ => hNone) hPrefix
  · rw [size, hTaken, size]
  · rw [line, hCalled, hQueue, hComing, hNone, hTaken,
      hPopped.group_eq, hQueue]
    rfl

/- A strand that has been handed a permit is the first in line. -/
theorem permitted
    (hPopped : Popped id j now)
    (hLined : j.Lined groupId first begun)
    (hId : id < j.strands.length)
    (hGone : id ∉ now.ready)
    (hGroup :
      (j.strand id).group? = some (groupId, position))
    (hWaiting : (j.strand id).waiting = .permit) :
    (now.resumed id).Lined groupId first (begun + 1) := by
  have hNot : (j.strand id).waiting ≠ .turn := by
    rw [hWaiting]
    nofun
  have hNone : now.coming groupId = [] :=
    hPopped.coming_eq_nil hLined hGroup hNot
  have hComing : j.coming groupId = [] := by
    rw [← hNone]
    exact (hPopped.lined_of_ne fun _ _ => hNot).symm
  have hCalled :
      j.called groupId = id :: now.called groupId :=
    (hPopped.lined_eq .permit groupId).trans
      (by
        rw [if_pos
          ⟨Strand.isIn_iff.mpr ⟨position, hGroup⟩, hWaiting⟩]
        rfl)
  refine hPopped.start hLined hId hGone rfl rfl rfl ?_ ?_ ?_
  · rw [line, hCalled, hComing, hNone, hPopped.group_eq]
    rfl
  · intro hSome
    exact absurd hNone hSome
  · rw [hNone]
    exact List.nil_prefix

/- A strand that finds none free goes to the end of the queue. -/
theorem queued
    (hPopped : Popped id j now)
    (hLined : j.Lined groupId first begun)
    (hId : id < j.strands.length)
    (hGone : id ∉ now.ready)
    (hLess : groupId < j.groups.length)
    (hGroup :
      (j.strand id).group? = some (groupId, position))
    (hWaiting : (j.strand id).waiting = .turn) :
    (now.enqueue groupId id).Lined groupId first begun := by
  rcases hPopped.coming_cons hLined hGroup hWaiting with
    ⟨hComing, hCalled, hNone, hPrefix⟩
  have hExists := hPopped.exists_now hId
  have hLine : groupId < now.groups.length :=
    hPopped.groups_eq ▸ hLess
  have hSame :
      ∀ waiting,
        (now.enqueue groupId id).lined waiting groupId =
          now.lined waiting groupId :=
    fun waiting =>
      @lined_setStrand (now.setGroup groupId _) id
        (now.strand id).queued hExists hGone waiting groupId
  have hStays :
      (now.enqueue groupId id).called groupId =
          now.called groupId ∧
        (now.enqueue groupId id).coming groupId =
          now.coming groupId :=
    ⟨hSame .permit, hSame .turn⟩
  have hSize :
      (now.enqueue groupId id).size groupId =
        j.size groupId := by
    rw [size, group_enqueue_eq hLine]
    exact hPopped.size_eq groupId
  refine
    hLined.relined ?_ ?_ hSize ?_ (fun _ => hStays.1.trans hNone)
      ?_
  · intro other place
    rw [group?_enqueue hExists, hPopped.strand_eq]
  · intro other place _
    rw [strand_enqueue hExists]
    split
    · rename_i hSelf
      rw [hSelf, hWaiting]
      rfl
    · rw [hPopped.strand_eq]
  · rw [line, hStays.1, hStays.2, queue_enqueue hLine,
      if_pos rfl, hNone, line, hCalled, hComing,
      hPopped.group_eq]
    simp
  · have hIn :
        ∀ other,
          ((now.enqueue groupId id).strand other).isIn groupId =
            (now.strand other).isIn groupId :=
      @isIn_setStrand (now.setGroup groupId _) id
        (now.strand id).queued hExists rfl groupId
    have hStill :
        (now.enqueue groupId id).ready = now.ready := rfl
    simp only [hStays.2, hIn, hStill]
    exact hPrefix

end Start

end Popped

------------------------------------------------------------
-- The End Of A Branch
------------------------------------------------------------

/- The first in the queue is the last of those that are called. -/
theorem Lined.handOn
    {next place : Nat}
    {rest : List Nat}
    (hLined : j.Lined groupId first begun)
    (hLess : groupId < j.groups.length)
    (hQueue : (j.group groupId).queue = next :: rest)
    (hComing : j.coming groupId = [])
    (hNext : ¬ j.Roused next)
    (hWaiting : (j.strand next).waiting = .permit)
    (hGroup :
      (j.strand next).group? = some (groupId, place))
    (position : Nat) :
    (j.passPermit groupId position).Lined groupId first begun ∧
      (j.passPermit groupId position).called groupId =
        j.called groupId ++ [next] := by
  have hPos : next ≠ 0 := by
    have hFirst := ((hLined.group?_iff next place).mp hGroup).1
    have hRoot := hLined.first_pos
    omega
  have hNot : next ∉ j.ready := by
    unfold Roused at hNext
    rw [if_neg hPos] at hNext
    exact hNext
  let passed :=
    j.setGroup groupId ((j.group groupId).passing position)
  have hPassed : j.passPermit groupId position = passed.wake next := by
    unfold passPermit
    rw [hQueue]
  have hReady : (passed.wake next).ready = j.ready ++ [next] := by
    have hNew : ¬ passed.ready.contains next := by
      simpa [passed, Journal.setGroup] using hNot
    unfold Journal.wake
    rw [if_neg hPos, if_neg hNew]
    rfl
  have hStrand :
      ∀ other, (passed.wake next).strand other = j.strand other := by
    intro other
    rw [strand, wake_strands, strand]
    rfl
  have hGroupEq :
      (passed.wake next).group groupId =
        (j.group groupId).passing position := by
    rw [group, wake_groups]
    exact (group_setGroup hLess _ _).trans (if_pos rfl)
  have hSize : (passed.wake next).size groupId = j.size groupId := by
    rw [size, hGroupEq, Group.passing_finished,
      List.length_set, size]
  have hIn : (j.strand next).isIn groupId = true :=
    Strand.isIn_iff.mpr ⟨place, hGroup⟩
  have hLines :
      ∀ waiting,
        (passed.wake next).lined waiting groupId =
          j.lined waiting groupId ++
            if waiting = .permit then [next] else [] := by
    intro waiting
    unfold lined
    rw [hReady, List.filter_append]
    simp only [hStrand]
    congr 1
    by_cases hSame : waiting = .permit
    · simp [hSame, hIn, hWaiting]
    · simp [hSame, hWaiting, Ne.symm hSame]
  have hCalled :
      (passed.wake next).called groupId =
        j.called groupId ++ [next] :=
    hLines .permit
  have hStill : (passed.wake next).coming groupId = [] :=
    (hLines .turn).trans (by rw [← coming, hComing]; rfl)
  rw [hPassed]
  refine ⟨?_, hCalled⟩
  refine
    hLined.relined ?_ ?_ hSize ?_
      (fun hSome => absurd hStill hSome) ?_
  · intro other position
    rw [hStrand]
  · intro other position _
    rw [hStrand]
  · rw [line, hCalled, hGroupEq, Group.passing_queue, hQueue,
      hStill, line, hQueue, hComing]
    simp
  · rw [hStill]
    exact List.nil_prefix

end Journal

end Automation
