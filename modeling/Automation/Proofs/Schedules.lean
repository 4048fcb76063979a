import Automation.Proofs.Permits
import Automation.Proofs.Reporting

/-
  Who is under way, and who waits.

  Activities that run side by side start in the order in which they are
  given.  At any time no more of them are under way than there are
  permits, and while one of them waits to start all permits are held by
  others, however long each takes and whichever way it ends.

  Key definitions include:
    * `Activity.underWayAt`, the branches under way at a time
    * `Engine.parallelSteps`, the one step of a parallel run
    * `Engine.SharesPermits`, the times of a parallel run

  Key theorems include:
    * `Activity.underWayAt_schedule_le`, no more than there are permits
    * `Activity.underWayAt_of_waits`, no permit is free while one waits
    * `Engine.runParallel_sharesPermits`, the actions of a run
-/

namespace Automation

namespace Activity

variable {α : Type}
variable {free : List Nat}
variable {activities : List (Activity α)}

------------------------------------------------------------
-- Permits At A Time
------------------------------------------------------------

/- How many of some branches have started by a time and are not over. -/
def underWayAt
    (time : Nat)
    (branches : List (Nat × Episode α)) :
    Nat :=
  branches.countP fun (start, episode) =>
    start ≤ time ∧ time < finishOf start episode.steps

/- How many permits are free at a time. -/
def freeAt
    (time : Nat)
    (free : List Nat) :
    Nat :=
  free.countP fun since => since ≤ time

theorem freeAt_eq_zero
    {time : Nat}
    (hTime : time < earliest free) :
    freeAt time free = 0 := by
  rw [freeAt, List.countP_eq_zero]
  intro since hSince
  have hEarliest := earliest_le hSince
  simp only [decide_eq_true_eq]
  omega

theorem freeAt_replicate
    {start time : Nat}
    (permits : Nat)
    (hTime : start ≤ time) :
    freeAt time (List.replicate permits start) = permits := by
  simp [freeAt, List.countP_replicate, hTime]

/- The activity that goes first has a permit while it is under way. -/
theorem freeAt_replaceFirst
    {finish : Nat}
    (time : Nat)
    (hFree : free ≠ [])
    (hFinish : earliest free ≤ finish) :
    freeAt time (replaceFirst (earliest free) finish free) +
        (if earliest free ≤ time ∧ time < finish then 1
          else 0) =
      freeAt time free := by
  have hCount :=
    countP_replaceFirst (fun since => since ≤ time) finish
      (earliest_mem hFree)
  simp only [decide_eq_true_eq] at hCount
  unfold freeAt
  split at hCount <;> split at hCount <;> split <;> omega

/- When the first of some activities starts, the rest start no sooner. -/
theorem earliest_le_replaceFirst
    {finish : Nat}
    (hFree : free ≠ [])
    (hFinish : earliest free ≤ finish) :
    earliest free ≤
      earliest
        (replaceFirst (earliest free) finish free) := by
  have hLeft :
      replaceFirst (earliest free) finish free ≠ [] :=
    replaceFirst_ne_nil hFree
  rcases List.mem_cons.mp
      (replaceFirst_subset _ _ _ (earliest_mem hLeft)) with
    hNew | hOld
  · rw [hNew]
    exact hFinish
  · exact earliest_le hOld

------------------------------------------------------------
-- Schedules
------------------------------------------------------------

/- Each activity is over no earlier than it starts. -/
def GoForward
    (activities : List (Activity α)) : Prop :=
  ∀ activity ∈ activities,
    ∀ start, start ≤ finishOf start (activity start).steps

theorem GoForward.head
    {activity : Activity α}
    {rest : List (Activity α)}
    (hForward : GoForward (activity :: rest))
    (start : Nat) :
    start ≤ finishOf start (activity start).steps :=
  hForward activity List.mem_cons_self start

theorem GoForward.tail
    {activity : Activity α}
    {rest : List (Activity α)}
    (hForward : GoForward (activity :: rest)) :
    GoForward rest :=
  fun other hOther =>
    hForward other (List.mem_cons_of_mem _ hOther)

theorem underWayAt_cons
    (time : Nat)
    (branch : Nat × Episode α)
    (rest : List (Nat × Episode α)) :
    underWayAt time (branch :: rest) =
      underWayAt time rest +
        if branch.1 ≤ time ∧
            time < finishOf branch.1 branch.2.steps then 1
        else 0 := by
  simp only [underWayAt, List.countP_cons, decide_eq_true_eq]

/- No branch starts before a permit is free. -/
theorem earliest_le_start
    (hForward : GoForward activities)
    (hFree : free ≠ [])
    {branch : Nat × Episode α}
    (hBranch : branch ∈ schedule free activities) :
    earliest free ≤ branch.1 := by
  induction activities generalizing free with
  | nil => cases hBranch
  | cons activity rest ih =>
      rcases List.mem_cons.mp hBranch with rfl | hRest
      · exact Nat.le_refl _
      · exact
          Nat.le_trans
            (earliest_le_replaceFirst hFree (hForward.head _))
            (ih hForward.tail (replaceFirst_ne_nil hFree) hRest)

/- The branches start in the order of their activities. -/
theorem starts_pairwise
    (hForward : GoForward activities)
    (hFree : free ≠ []) :
    (schedule free activities).Pairwise
      fun earlier later => earlier.1 ≤ later.1 := by
  induction activities generalizing free with
  | nil => exact .nil
  | cons activity rest ih =>
      rw [schedule]
      refine
        .cons ?_ (ih hForward.tail (replaceFirst_ne_nil hFree))
      intro later hLater
      exact
        Nat.le_trans
          (earliest_le_replaceFirst hFree (hForward.head _))
          (earliest_le_start hForward.tail
            (replaceFirst_ne_nil hFree) hLater)

/- At any time, no more branches are under way than permits were free. -/
theorem underWayAt_schedule_le
    (time : Nat)
    (hForward : GoForward activities)
    (hFree : free ≠ []) :
    underWayAt time (schedule free activities) ≤
      freeAt time free := by
  induction activities generalizing free with
  | nil => exact Nat.zero_le _
  | cons activity rest ih =>
      have hTaken :=
        freeAt_replaceFirst time hFree (hForward.head _)
      rw [schedule, underWayAt_cons, ← hTaken]
      exact
        Nat.add_le_add_right
          (ih hForward.tail (replaceFirst_ne_nil hFree)) _

/-
  While a branch waits to start, those before it hold all the permits that
  were free, and none is lost however a branch ends.
-/
theorem underWayAt_of_waits
    {time i : Nat}
    {branch : Nat × Episode α}
    (hForward : GoForward activities)
    (hFree : free ≠ [])
    (hBranch : (schedule free activities)[i]? = some branch)
    (hTime : time < branch.1) :
    underWayAt time ((schedule free activities).take i) =
      freeAt time free := by
  induction activities generalizing free i with
  | nil => cases hBranch
  | cons activity rest ih =>
      cases i with
      | zero =>
          cases hBranch
          exact (freeAt_eq_zero hTime).symm
      | succ i =>
          have hTaken :=
            freeAt_replaceFirst time hFree (hForward.head _)
          have hRest :=
            ih hForward.tail (replaceFirst_ne_nil hFree) hBranch
          rw [schedule, List.take_succ_cons, underWayAt_cons,
            hRest]
          exact hTaken

end Activity

------------------------------------------------------------
-- Parallel Runs
------------------------------------------------------------

namespace Engine

section Parallel

variable (cap : Nat)
variable (dispatch :
  Action → Context → Activity (ActionResult × Context))
variable (scope : Scope)
variable (actions : List Action)
variable (context : Context)
variable (start : Nat)

/- The one step of a parallel run, which is not taken for no actions. -/
def parallelSteps : List Step :=
  if actions.isEmpty then []
  else
    [.fan start (permitsFor cap actions.length) scope.deadline
      ((parallelBranches cap dispatch actions context start).map
        fun branch => (branch.1, branch.2.steps))
      ⟨Activity.lastFinish start
          (parallelBranches cap dispatch actions context start),
        false⟩]

/- The times of a parallel run, and what it comes to. -/
structure SharesPermits : Prop where
  length_eq :
    (parallelBranches cap dispatch actions context
      start).length = actions.length
  /- Each action is carried out once, from the time it starts. -/
  carriesOut :
    ∀ (i : Nat) action,
      actions[i]? = some action →
        ∃ time,
          start ≤ time ∧
            (parallelBranches cap dispatch actions context
                start)[i]? =
              some (time, dispatch action context time)
  inOrder :
    (parallelBranches cap dispatch actions context
      start).Pairwise fun earlier later => earlier.1 ≤ later.1
  capped :
    ∀ time,
      Activity.underWayAt time
          (parallelBranches cap dispatch actions context
            start) ≤
        permitsFor cap actions.length
  /- While an action waits, actions before it hold every permit. -/
  busy :
    ∀ (i : Nat) branch time,
      (parallelBranches cap dispatch actions context
          start)[i]? = some branch →
        start ≤ time →
          time < branch.1 →
            Activity.underWayAt time
                ((parallelBranches cap dispatch actions context
                  start).take i) =
              permitsFor cap actions.length
  /- Every action has its result, whichever way it ends. -/
  returns :
    (runParallel cap dispatch scope actions context
        start).ending =
      .returned
        (parallelResults cap dispatch actions context start)
  /- A deadline from outside drops the results, or changes nothing. -/
  within_eq :
    ∀ deadline,
      (Activity.within deadline
          (runParallel cap dispatch scope actions context)
          start).ending =
        if actions ≠ [] ∧
            deadline ≤
              Activity.lastFinish start
                (parallelBranches cap dispatch actions context
                  start) then .returned none
        else
          .returned
            (some
              (parallelResults cap dispatch actions context
                start))

end Parallel

variable {dispatch :
  Action → Context → Activity (ActionResult × Context)}

theorem runParallel_steps_eq
    (cap : Nat)
    (scope : Scope)
    (actions : List Action)
    (context : Context)
    (start : Nat) :
    (runParallel cap dispatch scope actions context
        start).steps =
      parallelSteps cap dispatch scope actions context
        start := by
  rw [runParallel_steps]
  cases actions <;> rfl

/- A parallel run is dropped when it is not over by a deadline. -/
theorem within_runParallel
    (cap : Nat)
    (scope : Scope)
    (actions : List Action)
    (context : Context)
    (start deadline : Nat) :
    (Activity.within deadline
        (runParallel cap dispatch scope actions context)
        start).ending =
      if actions ≠ [] ∧
          deadline ≤
            Activity.lastFinish start
              (parallelBranches cap dispatch actions context
                start) then .returned none
      else
        .returned
          (some
            (parallelResults cap dispatch actions context
              start)) := by
  have hUncut :=
    @cutSteps?_runParallel deadline cap scope dispatch actions
      context start
  rw [finishOf_runParallel] at hUncut
  unfold Activity.within
  dsimp only
  split
  · rename_i hCut
    rw [hCut] at hUncut
    rw [if_pos]
    simpa using hUncut
  · rename_i hCut
    rw [hCut] at hUncut
    rw [if_neg, runParallel_ending]
    simpa using hUncut

/-
  Actions that go forward in time share the permits of a run, whatever
  their number, the cap and the time that each action takes.
-/
theorem runParallel_sharesPermits
    (cap : Nat)
    (scope : Scope)
    (actions : List Action)
    (context : Context)
    (start : Nat)
    (hForward :
      ∀ action ∈ actions,
        ∀ time,
          time ≤
            finishOf time (dispatch action context time).steps) :
    SharesPermits cap dispatch scope actions context start := by
  have hPermits :
      List.replicate (permitsFor cap actions.length) start ≠
        [] := by
    rw [Ne, List.replicate_eq_nil_iff]
    exact permitsFor_ne_zero _ _
  have hGo :
      Activity.GoForward
        (actions.map fun action => dispatch action context) := by
    intro activity hActivity
    rcases List.mem_map.mp hActivity with ⟨action, hAction, rfl⟩
    exact hForward action hAction
  have hEarliest :
      start ≤
        Activity.earliest
          (List.replicate (permitsFor cap actions.length)
            start) :=
    Nat.le_of_eq
      (List.eq_of_mem_replicate
        (Activity.earliest_mem hPermits)).symm
  exact
    { length_eq := length_parallelBranches cap actions context start
      carriesOut := by
        intro i action hAction
        rcases exists_parallelBranch cap context start hAction
          with ⟨time, hBranch⟩
        refine ⟨time, ?_, hBranch⟩
        exact
          Nat.le_trans hEarliest
            (Activity.earliest_le_start hGo hPermits
              (List.mem_of_getElem? hBranch))
      inOrder := Activity.starts_pairwise hGo hPermits
      capped := by
        intro time
        have hUnderWay :=
          Activity.underWayAt_schedule_le time hGo hPermits
        refine Nat.le_trans hUnderWay ?_
        exact
          Nat.le_trans List.countP_le_length
            (Nat.le_of_eq List.length_replicate)
      busy := by
        intro i branch time hBranch hTime hWaits
        exact
          (Activity.underWayAt_of_waits hGo hPermits hBranch
            hWaits).trans (Activity.freeAt_replicate _ hTime)
      returns := runParallel_ending cap scope actions context start
      within_eq := within_runParallel cap scope actions context start }

end Engine

end Automation
