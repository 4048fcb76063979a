import Automation.Proofs.Deadlines
import Automation.Proofs.InPlace
import Automation.Proofs.Speed

/-
  Actions side by side.

  Each action of a parallel run works on a context of its own, a copy of
  the one that the run has at the start.  As long as the deadline is not
  reached, what it comes to does not depend on the others: neither on what
  they come to, nor on when their permits let it start, nor on how long
  the collaborators take, whose answers depend on the request only.

  Key definitions include:
    * `Scope.limit`, the deadline of all that may start under a scope
    * `Engine.AnswersLike`, the same answers with any delays
    * `Engine.aloneResult`, what an action comes to by itself
    * `Engine.Arranged`, actions carried out side by side in any order
    * `Engine.RunsApart`, what a parallel run comes to

  Key theorems include:
    * `Engine.ending_eq_of_answersLike`, delays and starts play no part
    * `Activity.fanOut_alone`, activities side by side
    * `Engine.runParallel_eq_alone`, a parallel run is a map
-/

namespace Automation

------------------------------------------------------------
-- Deadlines Below A Scope
------------------------------------------------------------

/-
  The earliest deadline of all that may start under a scope from a time
  on: a run that is started below has its own budget as well.
-/
def Scope.limit
    (scope : Scope)
    (timeout start : Nat) :
    Nat :=
  min scope.deadline (start + timeout)

/- For the scope of a run, this is the deadline of the run. -/
theorem Scope.Covers.limit_eq
    {scope : Scope}
    {timeout start : Nat}
    (hCovers : scope.Covers timeout start) :
    scope.limit timeout start = scope.deadline :=
  Nat.min_eq_left hCovers.not_before

theorem Scope.alikeUntil_limit
    (scope : Scope)
    (timeout start : Nat) :
    AlikeUntil (scope.limit timeout start) scope scope :=
  .refl (Nat.min_le_left _ _)

------------------------------------------------------------
-- Answers Without Delays
------------------------------------------------------------

def Reply.instant
    {α : Type}
    (reply : Reply α) :
    Reply α :=
  { reply with delay := 0 }

namespace Engine

/- The answers to the first calls, all of them at once. -/
def instant
    (engine : Engine) :
    Engine :=
  { engine with
    collaborators :=
      { model := fun _ request =>
          (engine.collaborators.model 0 request).instant
        notify := fun _ notification =>
          (engine.collaborators.notify 0 notification).instant
        webhook := fun _ request =>
          (engine.collaborators.webhook 0 request).instant
        rule := engine.collaborators.rule } }

/-
  The same answers to the same requests, whenever they are made and with
  any delays.
-/
structure AnswersLike
    (engine other : Engine) : Prop where
  settings_eq : other.settings = engine.settings
  stamp_eq : other.stamp = engine.stamp
  patterns_eq : other.patterns = engine.patterns
  rule_eq : other.collaborators.rule = engine.collaborators.rule
  model :
    ∀ time first request,
      (other.collaborators.model time request).outcome =
        (engine.collaborators.model first request).outcome
  notify :
    ∀ time first notification,
      (other.collaborators.notify time notification).outcome =
        (engine.collaborators.notify first notification).outcome
  webhook :
    ∀ time first request,
      (other.collaborators.webhook time request).outcome =
        (engine.collaborators.webhook first request).outcome

variable {engine : Engine}
variable {scope : Scope}
variable {context : Context}
variable {start : Nat}

theorem AnswersLike.of_answersByRequest
    (hAnswers : engine.collaborators.AnswersByRequest) :
    engine.AnswersLike engine where
  settings_eq := rfl
  stamp_eq := rfl
  patterns_eq := rfl
  rule_eq := rfl
  model := hAnswers.model
  notify := hAnswers.notify
  webhook := hAnswers.webhook

theorem AnswersLike.hastens_instant
    {other : Engine}
    (hOther : engine.AnswersLike other) :
    other.Hastens engine.instant where
  depth_eq := by rw [hOther.settings_eq]; rfl
  timeout_eq := by rw [hOther.settings_eq]; rfl
  actions_le := by
    rw [hOther.settings_eq]
    exact Nat.le_refl _
  cost_eq := by rw [hOther.settings_eq]; rfl
  stamp_eq := hOther.stamp_eq.symm
  patterns_eq := hOther.patterns_eq.symm
  rule_eq := hOther.rule_eq.symm
  model late _ request :=
    ⟨(hOther.model late 0 request).symm, Nat.zero_le _⟩
  notify late _ notification :=
    ⟨(hOther.notify late 0 notification).symm, Nat.zero_le _⟩
  webhook late _ request :=
    ⟨(hOther.webhook late 0 request).symm, Nat.zero_le _⟩

/- An action below a scope, and a faster one that is started earlier. -/
theorem dispatch_hastensAt
    {fast : Engine}
    {time : Nat}
    (hHastens : engine.Hastens fast)
    (scope : Scope)
    (action : Action)
    (context : Context)
    (hStart : start ≤ time) :
    Activity.HastensAt
      (scope.limit engine.settings.runTimeout start)
      (engine.dispatch engine.runBelow scope action context)
      time
      (fast.dispatch fast.runBelow scope action context)
      start :=
  hHastens.dispatch hHastens.runBelow
    (scope.alikeUntil_limit _ _) action context time start
    hStart (Nat.min_le_right _ _)

/-
  What is over before the limit comes to the same, whenever it is started
  and whatever the delays are.
-/
theorem ending_eq_of_answersLike
    {other : Engine}
    {action : Action}
    {time : Nat}
    (hSteady : engine.collaborators.Steady)
    (hOther : engine.AnswersLike other)
    (hStart : start ≤ time)
    (hTime :
      finishOf time
          (other.dispatch other.runBelow scope action context
            time).steps <
        scope.limit engine.settings.runTimeout start)
    (hAlone :
      finishOf start
          (engine.dispatch engine.runBelow scope action context
            start).steps <
        scope.limit engine.settings.runTimeout start) :
    (other.dispatch other.runBelow scope action context
        time).ending =
      (engine.dispatch engine.runBelow scope action context
        start).ending := by
  have hAt :=
    dispatch_hastensAt hOther.hastens_instant scope action
      context hStart
  have hOwn :=
    dispatch_hastensAt
      (AnswersLike.of_answersByRequest
        hSteady.answersByRequest).hastens_instant
      scope action context (Nat.le_refl start)
  rw [hOther.settings_eq] at hAt
  exact (hAt.follows hTime).1.symm.trans
    (hOwn.follows hAlone).1

------------------------------------------------------------
-- Arrangements
------------------------------------------------------------

/- What an action comes to by itself, on a context of its own. -/
def aloneResult
    (engine : Engine)
    (scope : Scope)
    (context : Context)
    (start : Nat)
    (action : Action) :
    ActionResult :=
  parallelResult action
    (engine.dispatch engine.runBelow scope action context
      start).ending

/-
  Branches that carry out actions side by side, in any order: each starts
  at some time on the same context, with collaborators that take their
  time, and is over before a limit.
-/
def Arranged
    (engine : Engine)
    (scope : Scope)
    (context : Context)
    (start limit : Nat)
    (actions : List Action)
    (branches :
      List (Nat × Episode (ActionResult × Context))) : Prop :=
  List.Forall₂
    (fun action branch =>
      start ≤ branch.1 ∧
        finishOf branch.1 branch.2.steps < limit ∧
        ∃ other,
          engine.AnswersLike other ∧
            branch.2 =
              other.dispatch other.runBelow scope action
                context branch.1)
    actions branches

end Engine

namespace Activity

variable {α : Type}

/- Branches are the episodes of their activities, in order. -/
theorem forall₂_schedule
    {start : Nat}
    {free : List Nat}
    (activities : List (Activity α))
    (hForward :
      ∀ activity ∈ activities,
        ∀ time,
          start ≤ time → Forward time (activity time).steps)
    (hNonempty : free ≠ [])
    (hFree : ∀ time ∈ free, start ≤ time) :
    List.Forall₂
      (fun activity branch =>
        start ≤ branch.1 ∧ branch.2 = activity branch.1)
      activities (schedule free activities) := by
  induction activities generalizing free with
  | nil => exact .nil
  | cons activity rest ih =>
      have hStart := hFree _ (earliest_mem hNonempty)
      refine .cons ⟨hStart, rfl⟩ ?_
      apply ih
      · intro other hOther
        exact hForward other (List.mem_cons_of_mem _ hOther)
      · exact replaceFirst_ne_nil hNonempty
      · intro time hTime
        rcases List.mem_cons.mp
            (replaceFirst_subset _ _ _ hTime) with
          rfl | hTime
        · have hLater :=
            (hForward activity List.mem_cons_self
              (earliest free) hStart).le_finishOf
          omega
        · exact hFree time hTime

theorem forall₂_schedule_replicate
    {permits start : Nat}
    {activities : List (Activity α)}
    (hForward :
      ∀ activity ∈ activities,
        ∀ time,
          start ≤ time → Forward time (activity time).steps)
    (hPermits : permits ≠ 0) :
    List.Forall₂
      (fun activity branch =>
        start ≤ branch.1 ∧ branch.2 = activity branch.1)
      activities
      (schedule (List.replicate permits start) activities) := by
  apply forall₂_schedule activities hForward
  · simp [hPermits]
  · intro time hTime
    exact Nat.le_of_eq (List.eq_of_mem_replicate hTime).symm

/- The branches that a fan waits for. -/
theorem branches_of_fan_mem
    {permits limit start time given deadline : Nat}
    {activities : List (Activity α)}
    {branches : List (Nat × List Step)}
    {pause : Pause}
    (hFan :
      .fan time given deadline branches pause ∈
        (fanOut permits limit activities start).steps) :
    branches =
      (schedule (List.replicate permits start)
        activities).map fun branch =>
          (branch.1, branch.2.steps) := by
  unfold fanOut at hFan
  split at hFan
  · cases hFan
  · cases List.mem_singleton.mp hFan
    rfl

/-
  Branches that are over before a limit come to what their activities come
  to by themselves, which are over no later.
-/
theorem alone_of_branches
    {timeout limit start : Nat}
    {activities : List (Activity α)}
    {branches : List (Nat × Episode α)}
    (hBranches :
      List.Forall₂
        (fun activity branch =>
          start ≤ branch.1 ∧ branch.2 = activity branch.1)
        activities branches)
    (hHastens :
      ∀ activity ∈ activities,
        Hastens timeout limit activity activity)
    (hLimit : limit ≤ start + timeout)
    (hTime :
      ∀ branch ∈ branches,
        finishOf branch.1 branch.2.steps < limit) :
    (branches.map fun branch => branch.2.ending) =
        activities.map (fun activity =>
          (activity start).ending) ∧
      ∀ activity ∈ activities,
        finishOf start (activity start).steps < limit := by
  induction hBranches with
  | nil => exact ⟨rfl, by simp⟩
  | @cons activity branch activities branches hBranch _ ih =>
      rcases hBranch with ⟨hStart, hEpisode⟩
      have hFinish := hTime branch List.mem_cons_self
      rw [hEpisode] at hFinish
      rcases (hHastens activity List.mem_cons_self branch.1
          start hStart hLimit).follows hFinish with
        ⟨hEnding, hSooner⟩
      rcases ih
          (fun other hOther =>
            hHastens other (List.mem_cons_of_mem _ hOther))
          (fun other hOther =>
            hTime other (List.mem_cons_of_mem _ hOther)) with
        ⟨hEndings, hAlone⟩
      refine ⟨?_, ?_⟩
      · rw [List.map_cons, List.map_cons, hEndings, hEnding,
          hEpisode]
      · intro other hOther
        rcases List.mem_cons.mp hOther with rfl | hOther
        · exact Nat.lt_of_le_of_lt hSooner hFinish
        · exact hAlone other hOther

/- Activities side by side come to what each comes to by itself. -/
theorem fanOut_alone
    {timeout permits deadline limit start : Nat}
    {activities : List (Activity α)}
    (hHastens :
      ∀ activity ∈ activities,
        Hastens timeout limit activity activity)
    (hPermits : permits ≠ 0)
    (hLimit : limit ≤ start + timeout)
    (hTime :
      finishOf start
          (fanOut permits deadline activities start).steps <
        limit) :
    (fanOut permits deadline activities start).ending =
        .returned
          (activities.map fun activity =>
            (activity start).ending) ∧
      ∀ activity ∈ activities,
        finishOf start (activity start).steps < limit := by
  have hForward :
      ∀ activity ∈ activities,
        ∀ time,
          start ≤ time → Forward time (activity time).steps := by
    intro activity hActivity time hStart
    exact (hHastens activity hActivity time time
      (Nat.le_refl _) (by omega)).slow_forward
  rw [fanOut_finish] at hTime
  rw [fanOut_ending]
  have hBranches :=
    forall₂_schedule_replicate hForward hPermits
  have hAlone :=
    alone_of_branches hBranches hHastens hLimit
      fun branch hBranch =>
        Nat.lt_of_le_of_lt
          ((lastFinish_spec start _).2.1 branch hBranch) hTime
  exact ⟨congrArg Ending.returned hAlone.1, hAlone.2⟩

end Activity

------------------------------------------------------------
-- Parallel Runs
------------------------------------------------------------

namespace Engine

variable {engine : Engine}
variable {scope : Scope}
variable {context : Context}
variable {start : Nat}
variable {actions : List Action}

theorem aloneResult_names
    (action : Action) :
    (engine.aloneResult scope context start action).actionId =
        action.id ∧
      (engine.aloneResult scope context start
        action).actionType = action.type := by
  unfold aloneResult
  cases hEnding :
      (engine.dispatch engine.runBelow scope action context
        start).ending with
  | crashed crash => exact ⟨rfl, rfl⟩
  | returned finished => exact dispatch_names hEnding

/-
  What actions that are carried out side by side come to, in any
  arrangement, is what each of them comes to by itself.
-/
theorem Arranged.results_eq
    {branches :
      List (Nat × Episode (ActionResult × Context))}
    (hSteady : engine.collaborators.Steady)
    (hBranches :
      engine.Arranged scope context start
        (scope.limit engine.settings.runTimeout start) actions
        branches)
    (hAlone :
      ∀ action ∈ actions,
        finishOf start
            (engine.dispatch engine.runBelow scope action context
              start).steps <
          scope.limit engine.settings.runTimeout start) :
    List.zipWith parallelResult actions
        (branches.map fun branch => branch.2.ending) =
      actions.map
        (engine.aloneResult scope context start) := by
  induction hBranches with
  | nil => rfl
  | @cons action branch actions branches hBranch _ ih =>
      rcases hBranch with
        ⟨hStart, hTime, other, hOther, hEpisode⟩
      rw [hEpisode] at hTime
      have hEnding :=
        ending_eq_of_answersLike hSteady hOther hStart hTime
          (hAlone action List.mem_cons_self)
      have hRest :=
        ih fun other hMember =>
          hAlone other (List.mem_cons_of_mem _ hMember)
      rw [List.map_cons, List.zipWith_cons_cons, hRest,
        hEpisode, hEnding]
      rfl

theorem runParallel_steps
    {dispatch :
      Action → Context → Activity (ActionResult × Context)}
    (cap : Nat) :
    (runParallel cap dispatch scope actions context
        start).steps =
      (Activity.fanOut (max (min actions.length cap) 1)
        scope.deadline
        (actions.map fun action => dispatch action context)
        start).steps := by
  unfold runParallel
  rw [Activity.bind_eq_andThen,
    Activity.andThen_steps_of_still (fun _ _ => rfl)]

section Parallel

variable (cap : Nat)
variable (dispatch :
  Action → Context → Activity (ActionResult × Context))
variable (actions : List Action)
variable (context : Context)
variable (start : Nat)

/- The times at which actions start side by side, and what they do. -/
def parallelBranches :
    List (Nat × Episode (ActionResult × Context)) :=
  Activity.schedule
    (List.replicate (permitsFor cap actions.length) start)
    (actions.map fun action => dispatch action context)

/- What the actions of a parallel run come to, in their order. -/
def parallelResults : List ActionResult :=
  List.zipWith
    (fun action branch =>
      parallelResult action branch.2.ending)
    actions
    (parallelBranches cap dispatch actions context start)

end Parallel

section Branches

variable {dispatch :
  Action → Context → Activity (ActionResult × Context)}

theorem length_parallelBranches
    (cap : Nat)
    (actions : List Action)
    (context : Context)
    (start : Nat) :
    (parallelBranches cap dispatch actions context
      start).length = actions.length :=
  (Activity.length_schedule _ _).trans (List.length_map _)

theorem exists_parallelBranch
    {actions : List Action}
    {action : Action}
    {i : Nat}
    (cap : Nat)
    (context : Context)
    (start : Nat)
    (hAction : actions[i]? = some action) :
    ∃ time,
      (parallelBranches cap dispatch actions context
          start)[i]? =
        some (time, dispatch action context time) := by
  have hLess :
      i < (parallelBranches cap dispatch actions context
        start).length := by
    rw [length_parallelBranches]
    exact (List.getElem?_eq_some_iff.mp hAction).1
  have hBranch := List.getElem?_eq_getElem hLess
  rcases Activity.getElem?_schedule hBranch with
    ⟨activity, hActivity, hEpisode⟩
  rw [List.getElem?_map, hAction] at hActivity
  cases hActivity
  refine
    ⟨(parallelBranches cap dispatch actions context
        start)[i].1, ?_⟩
  rw [hBranch]
  exact congrArg some (Prod.ext rfl hEpisode)

theorem runParallel_ending
    (cap : Nat)
    (scope : Scope)
    (actions : List Action)
    (context : Context)
    (start : Nat) :
    (runParallel cap dispatch scope actions context
        start).ending =
      .returned
        (parallelResults cap dispatch actions context
          start) := by
  unfold runParallel
  rw [Activity.bind_eq_andThen,
    Activity.andThen_apply_of_returned
      (Activity.fanOut_ending _ _ _ _)]
  exact congrArg Ending.returned List.zipWith_map_right

theorem finishOf_runParallel
    (cap : Nat)
    (scope : Scope)
    (actions : List Action)
    (context : Context)
    (start : Nat) :
    finishOf start
        (runParallel cap dispatch scope actions context
          start).steps =
      Activity.lastFinish start
        (parallelBranches cap dispatch actions context
          start) := by
  rw [runParallel_steps, Activity.fanOut_finish]
  rfl

/- The result of an action is what its branch comes to. -/
theorem getElem?_parallelResults
    {cap i time : Nat}
    {action : Action}
    (hAction : actions[i]? = some action)
    (hBranch :
      ((parallelBranches cap dispatch actions context
          start)[i]?).map (·.1) = some time) :
    (parallelBranches cap dispatch actions context start)[i]? =
        some (time, dispatch action context time) ∧
      (parallelResults cap dispatch actions context
          start)[i]? =
        some
          (parallelResult action
            (dispatch action context time).ending) := by
  rcases exists_parallelBranch cap context start hAction with
    ⟨other, hOther⟩
  rw [hOther, Option.map_some] at hBranch
  cases hBranch
  refine ⟨hOther, ?_⟩
  rw [parallelResults, List.getElem?_zipWith, hAction, hOther]

end Branches

/- An action is done no later when it is started sooner. -/
theorem dispatch_hastens
    (hSteady : engine.collaborators.Steady)
    (scope : Scope)
    (actions : List Action)
    (context : Context)
    (start : Nat) :
    ∀ activity ∈ actions.map fun action =>
        engine.dispatch engine.runBelow scope action context,
      Activity.Hastens engine.settings.runTimeout
        (scope.limit engine.settings.runTimeout start)
        activity activity := by
  intro activity hActivity
  rcases List.mem_map.mp hActivity with ⟨action, _, rfl⟩
  have hHastens := Hastens.of_steady hSteady
  exact hHastens.dispatch hHastens.runBelow
    (scope.alikeUntil_limit _ _) action context

theorem permits_ne_zero
    (cap : Nat)
    (actions : List Action) :
    max (min actions.length cap) 1 ≠ 0 := by
  omega

/- Side by side, no action starts before the run, and each in its turn. -/
theorem forall₂_parallelBranches
    (engine : Engine)
    (cap : Nat)
    (scope : Scope)
    (actions : List Action)
    (context : Context)
    (start : Nat) :
    List.Forall₂
      (fun action branch =>
        start ≤ branch.1 ∧
          branch.2 =
            engine.dispatch engine.runBelow scope action context
              branch.1)
      actions
      (parallelBranches cap
        (engine.dispatch engine.runBelow scope) actions context
        start) := by
  refine
    List.forall₂_map_left_iff.mp
      (Activity.forall₂_schedule_replicate ?_
        (permits_ne_zero cap actions))
  intro activity hActivity time _
  rcases List.mem_map.mp hActivity with ⟨action, _, rfl⟩
  exact dispatch_runBelow_forward engine scope action context time

/- What a parallel run comes to, and that its actions are in time. -/
theorem runParallel_alone
    {cap : Nat}
    (hSteady : engine.collaborators.Steady)
    (hTime :
      finishOf start
          (runParallel cap
            (engine.dispatch engine.runBelow scope) scope
            actions context start).steps <
        scope.limit engine.settings.runTimeout start) :
    (runParallel cap (engine.dispatch engine.runBelow scope)
          scope actions context start).ending =
        .returned
          (actions.map
            (engine.aloneResult scope context start)) ∧
      ∀ action ∈ actions,
        finishOf start
            (engine.dispatch engine.runBelow scope action context
              start).steps <
          scope.limit engine.settings.runTimeout start := by
  rw [runParallel_steps] at hTime
  rcases Activity.fanOut_alone
      (dispatch_hastens hSteady scope actions context start)
      (permits_ne_zero cap actions) (Nat.min_le_right _ _) hTime
    with ⟨hEndings, hAlone⟩
  refine ⟨?_, ?_⟩
  · unfold runParallel
    rw [Activity.bind_eq_andThen,
      Activity.andThen_apply_of_returned hEndings,
      List.map_map, List.zipWith_map_right, List.zipWith_self]
    rfl
  · intro action hAction
    exact hAlone _ (List.mem_map_of_mem hAction)

/- What a parallel run of some actions comes to. -/
structure RunsApart
    (engine : Engine)
    (cap : Nat)
    (scope : Scope)
    (context : Context)
    (start : Nat)
    (actions : List Action) : Prop where
  /- One result for each action, in order. -/
  ending_eq :
    (runParallel cap (engine.dispatch engine.runBelow scope)
        scope actions context start).ending =
      .returned
        (actions.map (engine.aloneResult scope context start))
  names :
    ∀ action,
      (engine.aloneResult scope context start
          action).actionId = action.id ∧
        (engine.aloneResult scope context start
          action).actionType = action.type
  /- The context that the run has is the same all the time. -/
  inPlace_eq :
    runParallelInPlace cap
        (engine.dispatchInPlace engine.runBelow scope) scope
        actions context start =
      ⟨(runParallel cap (engine.dispatch engine.runBelow scope)
            scope actions context start).steps.map
          (fun step => (step, context)),
        .returned
          (actions.map
            (engine.aloneResult scope context start)),
        context⟩
  /- The branches start in their turn, all on the same context. -/
  branches :
    ∀ time permits deadline branches pause,
      .fan time permits deadline branches pause ∈
          (runParallel cap
            (engine.dispatch engine.runBelow scope) scope
            actions context start).steps →
        List.Forall₂
          (fun action branch =>
            start ≤ branch.1 ∧
              branch.2 =
                (engine.dispatch engine.runBelow scope action
                  context branch.1).steps)
          actions branches
  /-
    The results are the same when the actions are started in another
    order, or when the collaborators take another time.
  -/
  arranged :
    ∀ branches,
      engine.Arranged scope context start
          (scope.limit engine.settings.runTimeout start)
          actions branches →
        List.zipWith parallelResult actions
            (branches.map fun branch => branch.2.ending) =
          actions.map (engine.aloneResult scope context start)

/-
  A parallel run that is over before any deadline comes, for each action,
  to what the action comes to by itself on the context that the run starts
  with, whatever the order and the delays are.
-/
theorem runParallel_eq_alone
    (cap : Nat)
    (hSteady : engine.collaborators.Steady)
    (hTime :
      finishOf start
          (runParallel cap
            (engine.dispatch engine.runBelow scope) scope
            actions context start).steps <
        scope.limit engine.settings.runTimeout start) :
    RunsApart engine cap scope context start actions := by
  rcases runParallel_alone hSteady hTime with
    ⟨hEnding, hAlone⟩
  refine ⟨hEnding, aloneResult_names, ?_, ?_, ?_⟩
  · rw [runParallelInPlace_apply]
    dsimp only
    rw [hEnding]
  · intro time permits deadline branches pause hFan
    rw [runParallel_steps] at hFan
    rw [Activity.branches_of_fan_mem hFan,
      List.forall₂_map_right_iff]
    refine
      (forall₂_parallelBranches engine cap scope actions context
        start).imp fun action branch hBranch => ?_
    exact ⟨hBranch.1, congrArg Episode.steps hBranch.2⟩
  · intro branches hBranches
    exact hBranches.results_eq hSteady hAlone

/- Models that answer after a second, but for one that crashes. -/
def volatile
    (timeout cap : Nat)
    (store : RuleStore) :
    Engine :=
  let calm := unhurried timeout cap store
  { calm with
    collaborators :=
      { calm.collaborators with
        model := fun time request =>
          if request.model = "bad" then
            ⟨10, .crashed ⟨some "model exploded"⟩⟩
          else calm.collaborators.model time request } }

theorem unhurried_steady
    (timeout cap : Nat)
    (store : RuleStore) :
    (unhurried timeout cap store).collaborators.Steady :=
  fun _ _ => ⟨rfl, rfl, rfl⟩

theorem volatile_steady
    (timeout cap : Nat)
    (store : RuleStore) :
    (volatile timeout cap store).collaborators.Steady :=
  fun _ _ => ⟨rfl, rfl, rfl⟩

/- An action that crashes, and one that waits for its permit. -/
def mixedActions : List Action :=
  [asks "bad", asks "calm"]

def mixedRule : Rule :=
  ruleOf "mixed" .parallel mixedActions

def mixedScope : Scope :=
  .root mixedRule 5000 0

theorem mixed_actions_eq_alone :
    let engine := volatile 5000 1 []
    let run :=
      runParallel 1 (engine.dispatch engine.runBelow mixedScope)
        mixedScope mixedActions (.ofFixed [])
    engine.collaborators.Steady ∧
      finishOf 0 (run 0).steps < mixedScope.deadline ∧
      (run 0).ending =
        .returned
          [.failed "bad" "trigger-model"
              (Crash.actionError ⟨some "model exploded"⟩),
            ⟨"calm", "trigger-model", .success,
              .record
                [("modelId", .text "calm"), ("output", .null)],
              none⟩] := by
  have hTime :
      finishOf 0
          (runParallel 1
            ((volatile 5000 1 []).dispatch
              (volatile 5000 1 []).runBelow mixedScope)
            mixedScope mixedActions (.ofFixed []) 0).steps <
        mixedScope.deadline := by
    decide
  have hLimit : mixedScope.limit 5000 0 = mixedScope.deadline :=
    (Scope.Covers.root _ 5000 0).limit_eq
  have hSteady := volatile_steady 5000 1 []
  exact
    ⟨hSteady, hTime,
      (runParallel_eq_alone 1 hSteady
        (hLimit ▸ hTime)).ending_eq⟩

end Engine

end Automation
