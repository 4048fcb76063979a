import Automation.Proofs.Steps

/-
  The steps of activities.

  Each way to put activities together is followed by what it makes of
  their steps.  Activities that run side by side are admitted one after
  the other: each starts when the first does, or when an earlier one is
  over.

  Key definitions include:
    * `announcedSteps`, the steps of a run between its milestones
    * `Admitted`, branches that start in turn
    * `permitsFor`, the permits that branches share

  Key theorems include:
    * `Activity.andThen_steps`, the steps of two activities in a row
    * `Activity.within_steps`, those of an activity with a deadline
    * `Activity.admitted_schedule`, branches start in turn
-/

namespace Automation

------------------------------------------------------------
-- Branches That Start In Turn
------------------------------------------------------------

/- The permits that branches share; a cap of none leaves one. -/
def permitsFor
    (cap branches : Nat) :
    Nat :=
  max (min branches cap) 1

theorem permitsFor_ne_zero
    (cap branches : Nat) :
    permitsFor cap branches ≠ 0 :=
  Nat.ne_of_gt (Nat.le_max_right _ 1)

/-
  Branches each of which starts at one of some times: those that are given,
  and those at which an earlier branch is over.
-/
inductive Admitted :
    List Nat → List (Nat × List Step) → Prop
  | nil
      {free : List Nat} :
      Admitted free []
  | cons
      {free : List Nat}
      {start : Nat}
      {steps : List Step}
      {rest : List (Nat × List Step)}
      (hStart : start ∈ free)
      (hRest : Admitted (finishOf start steps :: free) rest) :
      Admitted free ((start, steps) :: rest)

namespace Admitted

variable {free : List Nat}
variable {branches : List (Nat × List Step)}

/-
  What holds of the given times, and of the end of a branch when it holds
  of its start, holds of the start of every branch.
-/
theorem starts
    (holds : Nat → Prop)
    (hAdmitted : Admitted free branches)
    (hFree : ∀ time ∈ free, holds time)
    (hFinish :
      ∀ branch ∈ branches,
        holds branch.1 →
          holds (finishOf branch.1 branch.2)) :
    ∀ branch ∈ branches, holds branch.1 := by
  induction hAdmitted with
  | nil =>
      intro branch hBranch
      cases hBranch
  | @cons free start steps rest hStart _ ih =>
      have hHead : holds start := hFree start hStart
      have hOver : holds (finishOf start steps) :=
        hFinish (start, steps) (by simp) hHead
      have hTimes :
          ∀ time ∈ finishOf start steps :: free,
            holds time := by
        intro time hTime
        rcases List.mem_cons.mp hTime with rfl | hTime
        · exact hOver
        · exact hFree time hTime
      have hRest :=
        ih hTimes fun branch hBranch =>
          hFinish branch (List.mem_cons_of_mem _ hBranch)
      intro branch hBranch
      rcases List.mem_cons.mp hBranch with rfl | hBranch
      · exact hHead
      · exact hRest branch hBranch

end Admitted

------------------------------------------------------------
-- One Activity After The Other
------------------------------------------------------------

/- The steps of a run between the milestones of its start and end. -/
def announcedSteps
    (rule : String)
    (scope : Scope)
    (start : Nat)
    (steps : List Step) :
    List Step :=
  .milestone start (.started rule scope) ::
    (steps ++
      [.milestone (finishOf start steps) (.ended rule scope)])

/- Milestones take no time. -/
theorem finishOf_announcedSteps
    (rule : String)
    (scope : Scope)
    (start : Nat)
    (steps : List Step) :
    finishOf start (announcedSteps rule scope start steps) =
      finishOf start steps := by
  simp [announcedSteps, Step.resume?]

namespace Activity

variable {α β : Type}

@[simp] theorem done_apply
    (a : α)
    (start : Nat) :
    done a start = ⟨[], .returned a⟩ := rfl

@[simp] theorem pure_eq_done
    (a : α) :
    (pure a : Activity α) = done a := rfl

@[simp] theorem bind_eq_andThen
    (first : Activity α)
    (next : α → Activity β) :
    first >>= next = first.andThen next := rfl

theorem andThen_apply_of_returned
    {first : Activity α}
    {next : α → Activity β}
    {start : Nat}
    {a : α}
    (hEnding : (first start).ending = .returned a) :
    first.andThen next start =
      ⟨(first start).steps ++
          (next a (finishOf start (first start).steps)).steps,
        (next a (finishOf start (first start).steps)).ending⟩ := by
  simp [andThen, hEnding]

theorem andThen_apply_of_crashed
    {first : Activity α}
    {next : α → Activity β}
    {start : Nat}
    {crash : Crash}
    (hEnding : (first start).ending = .crashed crash) :
    first.andThen next start =
      ⟨(first start).steps, .crashed crash⟩ := by
  simp [andThen, hEnding]

/-
  The second of two activities adds its steps to those of the first, which
  are all when the first crashes.
-/
theorem andThen_steps
    (first : Activity α)
    (next : α → Activity β)
    (start : Nat) :
    (first.andThen next start).steps = (first start).steps ∨
      ∃ a,
        (first start).ending = .returned a ∧
        (first.andThen next start).steps =
          (first start).steps ++
            (next a
              (finishOf start (first start).steps)).steps := by
  cases hEnding : (first start).ending with
  | returned a =>
      refine Or.inr ⟨a, rfl, ?_⟩
      rw [andThen_apply_of_returned hEnding]
  | crashed crash =>
      exact Or.inl (by simp [andThen, hEnding])

/- What takes no step adds none. -/
theorem andThen_steps_of_still
    {first : Activity α}
    {next : α → Activity β}
    {start : Nat}
    (hNext : ∀ a time, (next a time).steps = []) :
    (first.andThen next start).steps = (first start).steps := by
  rcases andThen_steps first next start with
    hSteps | ⟨a, _, hSteps⟩
  · exact hSteps
  · rw [hSteps, hNext, List.append_nil]

theorem andThen_done
    (first : Activity α) :
    first.andThen done = first := by
  funext start
  rcases hFirst : first start with ⟨steps, ending⟩
  cases ending with
  | returned a => simp [andThen, done, hFirst]
  | crashed crash => simp [andThen, hFirst]

/- What an activity comes to before a value is worked out from it. -/
theorem returned_of_andThen_done
    {first : Activity α}
    {f : α → β}
    {start : Nat}
    {b : β}
    (hEnding :
      (first.andThen (fun a => done (f a)) start).ending =
        .returned b) :
    ∃ a, (first start).ending = .returned a ∧ b = f a := by
  cases hFirst : (first start).ending with
  | crashed crash =>
      rw [andThen_apply_of_crashed hFirst] at hEnding
      cases hEnding
  | returned a =>
      rw [andThen_apply_of_returned hFirst] at hEnding
      cases hEnding
      exact ⟨a, rfl, rfl⟩

/- A value that is worked out in between takes no step. -/
theorem andThen_done_andThen
    {γ : Type}
    (first : Activity α)
    (f : α → β)
    (next : β → Activity γ) :
    (first.andThen fun a => done (f a)).andThen next =
      first.andThen fun a => next (f a) := by
  funext start
  cases hEnding : (first start).ending with
  | returned a => simp [andThen, done, hEnding]
  | crashed crash => simp [andThen, hEnding]

theorem announced_apply
    {rule : String}
    {scope : Scope}
    {run : Activity α}
    {start : Nat}
    {a : α}
    (hEnding : (run start).ending = .returned a) :
    announced rule scope run start =
      ⟨announcedSteps rule scope start (run start).steps,
        .returned a⟩ := by
  simp [announced, announcedSteps, andThen, reach,
    Step.resume?, hEnding]

------------------------------------------------------------
-- Calls
------------------------------------------------------------

theorem finishOf_perform
    (call : Call)
    (replyAt : Nat → Reply α)
    (start : Nat) :
    finishOf start (perform call replyAt start).steps =
      start + (replyAt start).delay := by
  by_cases hDelay : (replyAt start).delay = 0 <;>
    simp [perform, Step.resume?, hDelay]

------------------------------------------------------------
-- Activities With A Deadline
------------------------------------------------------------

theorem within_steps
    (deadline : Nat)
    (activity : Activity α)
    (start : Nat) :
    (within deadline activity start).steps =
      stepsBy deadline (activity start).steps := by
  cases hCut : cutSteps? deadline (activity start).steps <;>
    simp [within, stepsBy, hCut]

------------------------------------------------------------
-- Activities Side By Side
------------------------------------------------------------

theorem earliest_mem
    {free : List Nat}
    (hFree : free ≠ []) :
    earliest free ∈ free := by
  induction free with
  | nil => exact absurd rfl hFree
  | cons time rest ih =>
      cases rest with
      | nil => simp [earliest]
      | cons next rest =>
          have hRest := ih (by simp)
          rcases Nat.le_total time
              (earliest (next :: rest)) with hLe | hLe
          · rw [earliest, Nat.min_eq_left hLe]
            · simp
            · simp
          · rw [earliest, Nat.min_eq_right hLe]
            · exact List.mem_cons_of_mem _ hRest
            · simp

theorem replaceFirst_subset
    (old new : Nat)
    (free : List Nat) :
    replaceFirst old new free ⊆ new :: free := by
  induction free with
  | nil => simp [replaceFirst]
  | cons time rest ih =>
      rw [replaceFirst]
      split
      · intro other hOther
        rcases List.mem_cons.mp hOther with hNew | hRest
        · simp [hNew]
        · simp [hRest]
      · intro other hOther
        rcases List.mem_cons.mp hOther with hTime | hRest
        · simp [hTime]
        · rcases List.mem_cons.mp (ih hRest) with hNew | hRest
          · simp [hNew]
          · simp [hRest]

theorem replaceFirst_ne_nil
    {old new : Nat}
    {free : List Nat}
    (hFree : free ≠ []) :
    replaceFirst old new free ≠ [] := by
  cases free with
  | nil => exact absurd rfl hFree
  | cons time rest =>
      rw [replaceFirst]
      split <;> simp

/- The branches of a schedule start in turn. -/
theorem admitted_schedule
    {free given : List Nat}
    (activities : List (Activity α))
    (hFree : free ≠ [])
    (hGiven : free ⊆ given) :
    Admitted given
      ((schedule free activities).map
        fun branch => (branch.1, branch.2.steps)) := by
  induction activities generalizing free given with
  | nil => exact .nil
  | cons activity rest ih =>
      refine .cons (hGiven (earliest_mem hFree)) ?_
      apply ih (replaceFirst_ne_nil hFree)
      intro time hTime
      rcases List.mem_cons.mp
          (replaceFirst_subset _ _ _ hTime) with rfl | hTime
      · simp
      · exact List.mem_cons_of_mem _ (hGiven hTime)

/- Each branch of a schedule is the episode of its activity. -/
theorem getElem?_schedule
    {free : List Nat}
    {activities : List (Activity α)}
    {branch : Nat × Episode α}
    {i : Nat}
    (hBranch :
      (schedule free activities)[i]? = some branch) :
    ∃ activity,
      activities[i]? = some activity ∧
        branch.2 = activity branch.1 := by
  induction activities generalizing free i with
  | nil => cases hBranch
  | cons activity rest ih =>
      cases i with
      | zero =>
          cases hBranch
          exact ⟨activity, rfl, rfl⟩
      | succ i => exact ih hBranch

theorem length_schedule
    (free : List Nat)
    (activities : List (Activity α)) :
    (schedule free activities).length = activities.length := by
  induction activities generalizing free with
  | nil => rfl
  | cons activity rest ih =>
      simp only [schedule, List.length_cons, ih]

theorem episode_of_mem_schedule
    {free : List Nat}
    {activities : List (Activity α)}
    {branch : Nat × Episode α}
    (hBranch : branch ∈ schedule free activities) :
    ∃ activity ∈ activities, branch.2 = activity branch.1 := by
  rcases List.mem_iff_getElem?.mp hBranch with ⟨i, hFound⟩
  rcases getElem?_schedule hFound with
    ⟨activity, hActivity, hEpisode⟩
  exact ⟨activity, List.mem_of_getElem? hActivity, hEpisode⟩

/-
  The end of the last branch comes after every branch, and is the end of
  one unless it is the start.
-/
theorem lastFinish_spec
    (start : Nat)
    (branches : List (Nat × Episode α)) :
    start ≤ lastFinish start branches ∧
      (∀ branch ∈ branches,
        finishOf branch.1 branch.2.steps ≤
          lastFinish start branches) ∧
      (lastFinish start branches = start ∨
        ∃ branch ∈ branches,
          lastFinish start branches =
            finishOf branch.1 branch.2.steps) := by
  induction branches generalizing start with
  | nil => simp [lastFinish]
  | cons first rest ih =>
      rcases ih (max start (finishOf first.1 first.2.steps))
        with ⟨hStart, hRest, hLast⟩
      have hEq :
          lastFinish start (first :: rest) =
            lastFinish
              (max start (finishOf first.1 first.2.steps))
              rest := rfl
      rw [hEq]
      refine ⟨by omega, ?_, ?_⟩
      · intro branch hBranch
        rcases List.mem_cons.mp hBranch with rfl | hBranch
        · omega
        · exact hRest branch hBranch
      · rcases hLast with hLast | ⟨branch, hBranch, hLast⟩
        · rcases Nat.le_total start
              (finishOf first.1 first.2.steps) with hLe | hLe
          · refine Or.inr ⟨first, by simp, ?_⟩
            rw [hLast, Nat.max_eq_right hLe]
          · refine Or.inl ?_
            rw [hLast, Nat.max_eq_left hLe]
        · exact Or.inr
            ⟨branch, List.mem_cons_of_mem _ hBranch, hLast⟩

end Activity

end Automation
