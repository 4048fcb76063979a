import Automation.Proofs.Speed

/-
  Activities that keep up with others.

  One activity keeps up with another, started at a time that may be later,
  when it comes to the same and is over no later.  Activities keep up when
  their parts do, at the times at which the parts are started; more permits
  only let branches start sooner.

  Key definitions include:
    * `Activity.KeepsUp`, an activity that comes to the same no later
    * `Activity.Fits`, one that also comes before its deadline
    * `Activity.Brief`, an activity that makes one call at most

  Key theorems include:
    * `Activity.KeepsUp.andThen`, one activity after the other
    * `Activity.KeepsUp.fanOut`, activities side by side
    * `Activity.Brief.fits`, an answer that comes in time comes in time
      when it is asked for sooner
-/

namespace Automation

------------------------------------------------------------
-- Activities That Keep Up
------------------------------------------------------------

namespace Activity

variable {α β : Type}

/- The second activity comes to the same as the first, and no later. -/
structure KeepsUp
    (slow : Activity α)
    (late : Nat)
    (fast : Activity α)
    (early : Nat) : Prop where
  ending_eq : (fast early).ending = (slow late).ending
  finish_le :
    finishOf early (fast early).steps ≤
      finishOf late (slow late).steps

/-
  The second activity also comes before the deadline that it has, if the
  first one does.
-/
structure Fits
    (tight loose : Nat)
    (slow : Activity α)
    (late : Nat)
    (fast : Activity α)
    (early : Nat) : Prop extends
    KeepsUp slow late fast early where
  uncut :
    cutSteps? tight (slow late).steps = none →
      cutSteps? loose (fast early).steps = none

variable {slow fast : Activity α}
variable {late early tight loose : Nat}

/- A deadline ends the wait for an answer that comes after it. -/
theorem cutSteps?_perform_eq_none_iff
    (call : Call)
    (replyAt : Nat → Reply α)
    (start deadline : Nat) :
    cutSteps? deadline (perform call replyAt start).steps =
        none ↔
      (replyAt start).delay = 0 ∨
        start + (replyAt start).delay ≤ deadline := by
  by_cases hDelay : (replyAt start).delay = 0
  · simp [perform, hDelay, cutSteps?, Step.cut?]
  · by_cases hLate : deadline < start + (replyAt start).delay
    · have hWait : 0 < (replyAt start).delay :=
        Nat.pos_of_ne_zero hDelay
      simp [perform, hDelay, cutSteps?, Step.cut?,
        Pause.overruns, hLate, hWait]
    · have hInTime := Nat.le_of_not_lt hLate
      simp [perform, hDelay, cutSteps?, Step.cut?,
        Pause.overruns, hLate, hInTime]

theorem andThen_done_steps
    (first : Activity α)
    (f : α → β)
    (start : Nat) :
    (first.andThen (fun a => done (f a)) start).steps =
      (first start).steps :=
  andThen_steps_of_still fun _ _ => rfl

namespace KeepsUp

theorem done
    (a : α)
    (hEarly : early ≤ late) :
    KeepsUp (done a) late (Activity.done a) early :=
  ⟨rfl, hEarly⟩

/- What follows has to keep up from the value on that is come to. -/
theorem andThen
    {next other : α → Activity β}
    (hKeeps : KeepsUp slow late fast early)
    (hNext :
      ∀ a,
        (slow late).ending = .returned a →
          KeepsUp (next a) (finishOf late (slow late).steps)
            (other a) (finishOf early (fast early).steps)) :
    KeepsUp (slow.andThen next) late (fast.andThen other)
      early := by
  cases hEnding : (slow late).ending with
  | returned a =>
      have hFast := hKeeps.ending_eq.trans hEnding
      have hRest := hNext a hEnding
      constructor
      · rw [andThen_apply_of_returned hEnding,
          andThen_apply_of_returned hFast]
        exact hRest.ending_eq
      · rw [andThen_apply_of_returned hEnding,
          andThen_apply_of_returned hFast, finishOf_append,
          finishOf_append]
        exact hRest.finish_le
  | crashed crash =>
      have hFast := hKeeps.ending_eq.trans hEnding
      constructor
      · rw [andThen_apply_of_crashed hEnding,
          andThen_apply_of_crashed hFast]
      · rw [andThen_apply_of_crashed hEnding,
          andThen_apply_of_crashed hFast]
        exact hKeeps.finish_le

/- What is worked out from a value takes no time. -/
theorem andThen_done
    (hKeeps : KeepsUp slow late fast early)
    (f : α → β) :
    KeepsUp (slow.andThen fun a => Activity.done (f a)) late
      (fast.andThen fun a => Activity.done (f a)) early :=
  hKeeps.andThen fun a _ => .done (f a) hKeeps.finish_le

theorem settled
    (hKeeps : KeepsUp slow late fast early) :
    KeepsUp (settled slow) late (Activity.settled fast) early :=
  ⟨congrArg Ending.returned hKeeps.ending_eq,
    hKeeps.finish_le⟩

/- Only the times at which the activities are started matter. -/
theorem of_eq
    {first second : Activity α}
    (hKeeps : KeepsUp slow late fast early)
    (hSlow : first late = slow late)
    (hFast : second early = fast early) :
    KeepsUp first late second early := by
  constructor
  · rw [hSlow, hFast]
    exact hKeeps.ending_eq
  · rw [hSlow, hFast]
    exact hKeeps.finish_le

end KeepsUp

namespace Fits

theorem done
    (a : α)
    (hEarly : early ≤ late) :
    Fits tight loose (done a) late (Activity.done a) early where
  toKeepsUp := .done a hEarly
  uncut _ := rfl

theorem andThen_done
    (hFits : Fits tight loose slow late fast early)
    (f : α → β) :
    Fits tight loose
      (slow.andThen fun a => Activity.done (f a)) late
      (fast.andThen fun a => Activity.done (f a)) early where
  toKeepsUp := hFits.toKeepsUp.andThen_done f
  uncut := by
    rw [andThen_done_steps, andThen_done_steps]
    exact hFits.uncut

/- A call is over no later when it is made no later. -/
theorem perform
    {replyAt : Nat → Reply α}
    (call : Call)
    (hAgree : replyAt late = replyAt early)
    (hEarly : early ≤ late)
    (hDeadline : tight ≤ loose) :
    Fits tight loose (perform call replyAt) late
      (Activity.perform call replyAt) early := by
  refine ⟨⟨?_, ?_⟩, ?_⟩
  · simp only [Activity.perform, hAgree]
  · rw [finishOf_perform, finishOf_perform, hAgree]
    exact Nat.add_le_add_right hEarly _
  · rw [cutSteps?_perform_eq_none_iff,
      cutSteps?_perform_eq_none_iff, hAgree]
    rintro (hDelay | hInTime)
    · exact Or.inl hDelay
    · exact Or.inr (by omega)

end Fits

------------------------------------------------------------
-- Activities Side By Side
------------------------------------------------------------

namespace KeepsUp

variable {γ : Type}
variable {slows fasts : γ → Activity α}

/-
  Branches that keep up from the time at which they start, under permits
  that are free no later.
-/
theorem schedule
    {works : List γ}
    {free other : List Nat}
    {least : Nat}
    (hFree : FreeNoLater free other)
    (hNonempty : free ≠ [])
    (hLeast : ∀ time ∈ other, least ≤ time)
    (hSlow :
      ∀ work time,
        time ≤ finishOf time (slows work time).steps)
    (hFast :
      ∀ work time,
        time ≤ finishOf time (fasts work time).steps)
    (hKeeps :
      ∀ time work,
        (time, work) ∈
            ((schedule free (works.map slows)).map (·.1)).zip
              works →
          ∀ sooner,
            least ≤ sooner →
              sooner ≤ time →
                KeepsUp (slows work) time (fasts work) sooner) :
    List.Forall₂
      (fun first second =>
        second.2.ending = first.2.ending ∧
          finishOf second.1 second.2.steps ≤
            finishOf first.1 first.2.steps)
      (schedule free (works.map slows))
      (Activity.schedule other (works.map fasts)) := by
  induction works generalizing free other with
  | nil => exact .nil
  | cons work rest ih =>
      have hEarliest :=
        earliest_mem (hFree.ne_nil hNonempty)
      have hFirst :=
        hKeeps (earliest free) work List.mem_cons_self
          (earliest other) (hLeast _ hEarliest)
          (hFree.earliest_le hNonempty)
      refine .cons ⟨hFirst.ending_eq, hFirst.finish_le⟩ ?_
      apply ih
      · exact hFree.replaceFirst hNonempty (hSlow _ _)
          hFirst.finish_le
      · exact replaceFirst_ne_nil hNonempty
      · intro time hTime
        rcases List.mem_cons.mp
            (replaceFirst_subset _ _ _ hTime) with
          rfl | hTime
        · exact Nat.le_trans (hLeast _ hEarliest) (hFast _ _)
        · exact hLeast time hTime
      · intro time other hBranch
        exact hKeeps time other (List.mem_cons_of_mem _ hBranch)

/- With at least as many permits, all branches keep up. -/
theorem fanOut
    {works : List γ}
    {permits more first second : Nat}
    (hPermits : permits ≠ 0)
    (hMore : permits ≤ more)
    (hEarly : early ≤ late)
    (hSlow :
      ∀ work time,
        time ≤ finishOf time (slows work time).steps)
    (hFast :
      ∀ work time,
        time ≤ finishOf time (fasts work time).steps)
    (hKeeps :
      ∀ time work,
        (time, work) ∈
            ((Activity.schedule (List.replicate permits late)
              (works.map slows)).map (·.1)).zip works →
          ∀ sooner,
            early ≤ sooner →
              sooner ≤ time →
                KeepsUp (slows work) time (fasts work) sooner) :
    KeepsUp (fanOut permits first (works.map slows)) late
      (Activity.fanOut more second (works.map fasts)) early := by
  have hBranches :=
    schedule (.replicate hMore hEarly) (by simp [hPermits])
      (fun time hTime =>
        Nat.le_of_eq (List.eq_of_mem_replicate hTime).symm)
      hSlow hFast hKeeps
  constructor
  · rw [fanOut_ending, fanOut_ending,
      HastensAt.endings_eq hBranches]
  · rw [fanOut_finish, fanOut_finish]
    exact HastensAt.lastFinish_le
      (hBranches.imp fun _ _ hBranch => hBranch.2) hEarly

end KeepsUp

------------------------------------------------------------
-- Activities That Make One Call
------------------------------------------------------------

/-
  An activity that makes a call, or none, and does nothing else.  The call
  is answered alike at two times.
-/
inductive Brief
    (late early : Nat) :
    Activity α → Prop
  | done
      (a : α) :
      Brief late early (done a)
  | call
      {β : Type}
      {replyAt : Nat → Reply β}
      (call : Call)
      (hAgree : replyAt late = replyAt early)
      (f : Except CollaboratorFault β → α) :
      Brief late early
        ((perform call replyAt).andThen fun answer =>
          .done (f answer))

namespace Brief

variable {activity : Activity α}

/- What is made of an answer takes no further call. -/
theorem of_call
    {next : Except CollaboratorFault β → Activity α}
    {replyAt : Nat → Reply β}
    (call : Call)
    (hAgree : replyAt late = replyAt early)
    (hNext : ∀ answer, ∃ a, next answer = Activity.done a) :
    Brief late early
      ((perform call replyAt).andThen next) := by
  rcases Classical.skolem.mp hNext with ⟨f, hValue⟩
  rw [funext hValue]
  exact .call call hAgree f

theorem andThen_done
    (hBrief : Brief late early activity)
    (f : α → β) :
    Brief late early
      (activity.andThen fun a => Activity.done (f a)) := by
  cases hBrief with
  | done a => exact .done (f a)
  | call call hAgree g =>
      rw [andThen_done_andThen]
      exact .call call hAgree fun answer => f (g answer)

theorem fits
    (hBrief : Brief late early activity)
    (hEarly : early ≤ late)
    (hDeadline : tight ≤ loose) :
    Fits tight loose activity late activity early := by
  cases hBrief with
  | done a => exact .done a hEarly
  | call call hAgree f =>
      exact (Fits.perform call hAgree hEarly
        hDeadline).andThen_done f

end Brief

end Activity

namespace Engine

open Activity

------------------------------------------------------------
-- Tasks That Make One Call
------------------------------------------------------------

section Brief

variable {engine : Engine}
variable {scope : Scope}
variable {context : Context}
variable {late early : Nat}
variable (hAgree : engine.collaborators.AgreeAt late early)

include hAgree

theorem runModel_brief
    (task : ModelTask) :
    Brief late early (engine.runModel scope task context) := by
  unfold runModel
  cases task.model?.filter
      fun model => !Text.isBlankText model with
  | none => exact .done _
  | some model =>
      refine .of_call _ (congrFun hAgree.model _) ?_
      intro answer
      cases answer <;> exact ⟨_, rfl⟩

theorem runNotice_brief
    (task : NoticeTask) :
    Brief late early (engine.runNotice scope task) :=
  .of_call _ (congrFun hAgree.notify _) fun _ => ⟨_, rfl⟩

theorem runWebhook_brief
    (request : WebhookRequest) :
    Brief late early (engine.runWebhook request) := by
  unfold runWebhook
  split
  · exact .done _
  · refine .of_call _ (congrFun hAgree.webhook _) ?_
    intro answer
    cases answer with
    | error fault => exact ⟨_, rfl⟩
    | ok response =>
        dsimp only
        split <;> exact ⟨_, rfl⟩

end Brief

end Engine

end Automation
