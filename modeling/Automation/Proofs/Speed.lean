import Automation.Engine.Run
import Automation.Proofs.Forward
import Automation.Proofs.Permits
import Automation.Proofs.Tasks
import Mathlib.Data.List.Forall2

/-
  What does not depend on how fast things go.

  Two engines may come by the same answers, one of them sooner, or with
  more actions at a time.  What is over before every deadline under the
  slower one comes to the same under the faster one, when it is started no
  later, and is over no later.  The relation is kept by every way to put
  activities together, and so by every part of a run.

  What is started sooner makes its calls sooner, so the answers must not
  depend on when they are asked for.

  Key definitions include:
    * `Collaborators.Steady`, replies that depend on the request only
    * `Collaborators.AnswersByRequest`, the same but for the delays
    * `Engine.Hastens`, an engine that gives the same answers no later
    * `Scope.AlikeUntil`, scopes that differ in their deadlines only
    * `Activity.HastensAt` and `Activity.Hastens`

  Key theorems include:
    * `Activity.HastensAt.andThen` and `Activity.HastensAt.fanOut`
    * `Engine.Hastens.dispatch` and `Engine.Hastens.runWithin`
    * `Engine.Hastens.runBelow`, all runs that may be started below
-/

namespace Automation

------------------------------------------------------------
-- Answers That Come Sooner
------------------------------------------------------------

/- Calls at two times are answered alike. -/
structure Collaborators.AgreeAt
    (collaborators : Collaborators)
    (late early : Nat) : Prop where
  model : collaborators.model late = collaborators.model early
  notify : collaborators.notify late = collaborators.notify early
  webhook :
    collaborators.webhook late = collaborators.webhook early

theorem Collaborators.agreeAt_self
    (collaborators : Collaborators)
    (time : Nat) :
    collaborators.AgreeAt time time :=
  ⟨rfl, rfl, rfl⟩

/- A reply depends on the request only. -/
def Collaborators.Steady
    (collaborators : Collaborators) : Prop :=
  ∀ late early, collaborators.AgreeAt late early

/- The answer depends on the request only, if not the delay. -/
structure Collaborators.AnswersByRequest
    (collaborators : Collaborators) : Prop where
  model :
    ∀ late early request,
      (collaborators.model late request).outcome =
        (collaborators.model early request).outcome
  notify :
    ∀ late early notification,
      (collaborators.notify late notification).outcome =
        (collaborators.notify early notification).outcome
  webhook :
    ∀ late early request,
      (collaborators.webhook late request).outcome =
        (collaborators.webhook early request).outcome

theorem Collaborators.Steady.answersByRequest
    {collaborators : Collaborators}
    (hSteady : collaborators.Steady) :
    collaborators.AnswersByRequest where
  model late early _ := by rw [(hSteady late early).model]
  notify late early _ := by rw [(hSteady late early).notify]
  webhook late early _ := by rw [(hSteady late early).webhook]

structure Reply.Hastens
    {α : Type}
    (slow fast : Reply α) : Prop where
  outcome_eq : fast.outcome = slow.outcome
  delay_le : fast.delay ≤ slow.delay

structure Engine.Hastens
    (slow fast : Engine) : Prop where
  depth_eq :
    fast.settings.maxChainDepth = slow.settings.maxChainDepth
  timeout_eq :
    fast.settings.runTimeout = slow.settings.runTimeout
  actions_le :
    slow.settings.maxParallelActions ≤
      fast.settings.maxParallelActions
  cost_eq :
    fast.settings.defaultBaseCost =
      slow.settings.defaultBaseCost
  stamp_eq : fast.stamp = slow.stamp
  patterns_eq : fast.patterns = slow.patterns
  rule_eq :
    fast.collaborators.rule = slow.collaborators.rule
  model :
    ∀ late early request,
      (slow.collaborators.model late request).Hastens
        (fast.collaborators.model early request)
  notify :
    ∀ late early notification,
      (slow.collaborators.notify late notification).Hastens
        (fast.collaborators.notify early notification)
  webhook :
    ∀ late early request,
      (slow.collaborators.webhook late request).Hastens
        (fast.collaborators.webhook early request)

/- Scopes that differ in their deadlines only, both after a limit. -/
structure Scope.AlikeUntil
    (limit : Nat)
    (outer inner : Scope) : Prop where
  rule_eq : inner.rule = outer.rule
  user_eq : inner.user = outer.user
  chain_eq : inner.chain = outer.chain
  depth_eq : inner.depth = outer.depth
  outer_deadline : limit ≤ outer.deadline
  inner_deadline : limit ≤ inner.deadline

namespace Scope.AlikeUntil

variable {limit timeout late early : Nat}
variable {outer inner : Scope}

theorem refl
    (hLimit : limit ≤ outer.deadline) :
    AlikeUntil limit outer outer :=
  ⟨rfl, rfl, rfl, rfl, hLimit, hLimit⟩

theorem child
    (hAlike : AlikeUntil limit outer inner)
    (rule : Rule)
    (hEarly : early ≤ late)
    (hLimit : limit ≤ early + timeout) :
    AlikeUntil limit (outer.child rule timeout late)
      (inner.child rule timeout early) where
  rule_eq := rfl
  user_eq := rfl
  chain_eq := by simp [Scope.child, hAlike.chain_eq]
  depth_eq := by simp [Scope.child, hAlike.depth_eq]
  outer_deadline :=
    Nat.le_min.mpr ⟨hAlike.outer_deadline, by omega⟩
  inner_deadline :=
    Nat.le_min.mpr ⟨hAlike.inner_deadline, hLimit⟩

end Scope.AlikeUntil

------------------------------------------------------------
-- Activities That Are Over Sooner
------------------------------------------------------------

namespace Activity

variable {α β : Type}

/-
  Two activities that are started at two times: what the first comes to
  before the limit, the second comes to as well, and no later.
-/
structure HastensAt
    (limit : Nat)
    (slow : Activity α)
    (late : Nat)
    (fast : Activity α)
    (early : Nat) : Prop where
  slow_forward : Forward late (slow late).steps
  fast_forward : Forward early (fast early).steps
  follows :
    finishOf late (slow late).steps < limit →
      (fast early).ending = (slow late).ending ∧
        finishOf early (fast early).steps ≤
          finishOf late (slow late).steps

/- The second activity may start at any time that is not later. -/
def Hastens
    (timeout limit : Nat)
    (slow fast : Activity α) : Prop :=
  ∀ late early,
    early ≤ late →
      limit ≤ early + timeout →
        HastensAt limit slow late fast early

/- The wait for activities side by side goes forward. -/
theorem fanOut_forward
    (permits deadline : Nat)
    (activities : List (Activity α))
    (start : Nat) :
    Forward start
      (fanOut permits deadline activities start).steps := by
  unfold fanOut
  split
  · exact .nil
  · exact .cons rfl (lastFinish_spec start _).1 .nil

theorem fanOut_finish
    (permits deadline : Nat)
    (activities : List (Activity α))
    (start : Nat) :
    finishOf start
        (fanOut permits deadline activities start).steps =
      lastFinish start
        (schedule (List.replicate permits start)
          activities) := by
  cases activities with
  | nil => rfl
  | cons first rest => rfl

theorem fanOut_ending
    (permits deadline : Nat)
    (activities : List (Activity α))
    (start : Nat) :
    (fanOut permits deadline activities start).ending =
      .returned
        ((schedule (List.replicate permits start)
          activities).map fun branch => branch.2.ending) := by
  cases activities with
  | nil => rfl
  | cons first rest => rfl

namespace HastensAt

variable {limit late early : Nat}
variable {slow fast : Activity α}

/- What takes no time only has to come to the same. -/
theorem still
    {ending : Ending α}
    (hSlow : slow late = ⟨[], ending⟩)
    (hFast :
      late < limit → (fast early).ending = ending)
    (hSteps : (fast early).steps = [])
    (hEarly : early ≤ late) :
    HastensAt limit slow late fast early where
  slow_forward := by rw [hSlow]; exact .nil
  fast_forward := by rw [hSteps]; exact .nil
  follows hFinish := by
    rw [hSlow] at hFinish ⊢
    rw [hSteps]
    exact ⟨hFast hFinish, hEarly⟩

/- After the limit, activities only have to go forward. -/
theorem of_limit_le
    (hSlow : Forward late (slow late).steps)
    (hFast : Forward early (fast early).steps)
    (hLimit : limit ≤ late) :
    HastensAt limit slow late fast early where
  slow_forward := hSlow
  fast_forward := hFast
  follows hFinish := by
    have hLate := hSlow.le_finishOf
    omega

theorem done
    (a : α)
    (hEarly : early ≤ late) :
    HastensAt limit (done a) late (Activity.done a) early :=
  still rfl (fun _ => rfl) rfl hEarly

theorem andThen
    {next other : α → Activity β}
    (hFirst : HastensAt limit slow late fast early)
    (hNext :
      ∀ a later sooner,
        sooner ≤ later →
          early ≤ sooner →
            HastensAt limit (next a) later (other a) sooner)
    (hEarly : early ≤ late) :
    HastensAt limit (slow.andThen next) late
      (fast.andThen other) early := by
  have hSlowFinish := hFirst.slow_forward.le_finishOf
  have hFastFinish := hFirst.fast_forward.le_finishOf
  have hFast :
      Forward early (fast.andThen other early).steps := by
    cases hEnding : (fast early).ending with
    | crashed crash =>
        rw [andThen_apply_of_crashed hEnding]
        exact hFirst.fast_forward
    | returned b =>
        rw [andThen_apply_of_returned hEnding]
        exact hFirst.fast_forward.append
          (hNext b _ _ (Nat.le_refl _)
            hFastFinish).fast_forward
  refine ⟨?_, hFast, ?_⟩
  · cases hEnding : (slow late).ending with
    | crashed crash =>
        rw [andThen_apply_of_crashed hEnding]
        exact hFirst.slow_forward
    | returned a =>
        rw [andThen_apply_of_returned hEnding]
        exact hFirst.slow_forward.append
          (hNext a _ early (Nat.le_trans hEarly hSlowFinish)
            (Nat.le_refl _)).slow_forward
  · intro hFinish
    cases hEnding : (slow late).ending with
    | crashed crash =>
        rw [andThen_apply_of_crashed hEnding] at hFinish ⊢
        rcases hFirst.follows hFinish with ⟨hSame, hLe⟩
        rw [hEnding] at hSame
        rw [andThen_apply_of_crashed hSame]
        exact ⟨rfl, hLe⟩
    | returned a =>
        rw [andThen_apply_of_returned hEnding] at hFinish ⊢
        rw [finishOf_append] at hFinish ⊢
        have hLater :=
          hNext a (finishOf late (slow late).steps) early
            (Nat.le_trans hEarly hSlowFinish) (Nat.le_refl _)
        have hBetween := hLater.slow_forward.le_finishOf
        rcases hFirst.follows (by omega) with ⟨hSame, hLe⟩
        rw [hEnding] at hSame
        rw [andThen_apply_of_returned hSame, finishOf_append]
        exact (hNext a _ _ hLe hFastFinish).follows hFinish

/- Work that is left out only after the limit. -/
theorem ite
    {a b : α}
    {skip skip' : Bool}
    (hSlow : skip = true → limit ≤ late)
    (hFast : skip' = true → limit ≤ late)
    (hWork : HastensAt limit slow late fast early) :
    HastensAt limit
      (if skip then Activity.done a else slow) late
      (if skip' then Activity.done b else fast) early := by
  cases skip with
  | false =>
      cases skip' with
      | false => exact hWork
      | true =>
          exact of_limit_le hWork.slow_forward .nil
            (hFast rfl)
  | true =>
      cases skip' with
      | false =>
          exact of_limit_le .nil hWork.fast_forward
            (hSlow rfl)
      | true => exact of_limit_le .nil .nil (hSlow rfl)

/- The present time is no later. -/
theorem now_andThen
    {next other : Nat → Activity β}
    (hNext :
      HastensAt limit (next late) late (other early) early) :
    HastensAt limit (now.andThen next) late
      (now.andThen other) early := by
  have hAt :
      ∀ (f : Nat → Activity β) time,
        now.andThen f time = f time time := fun _ _ => rfl
  refine ⟨?_, ?_, ?_⟩
  · rw [hAt]
    exact hNext.slow_forward
  · rw [hAt]
    exact hNext.fast_forward
  · rw [hAt, hAt]
    exact hNext.follows

theorem perform
    {slow fast : Nat → Reply α}
    (call : Call)
    (hReply : (slow late).Hastens (fast early))
    (hEarly : early ≤ late) :
    HastensAt limit (perform call slow) late
      (Activity.perform call fast) early := by
  have hForward :
      ∀ (replyAt : Nat → Reply α) start,
        Forward start
          (Activity.perform call replyAt start).steps := by
    intro replyAt start
    refine .cons rfl ?_ .nil
    by_cases hDelay : (replyAt start).delay = 0 <;>
      simp [Step.overAt, Step.resume?, Step.time, hDelay]
  refine ⟨hForward _ _, hForward _ _, ?_⟩
  intro _
  rw [finishOf_perform, finishOf_perform]
  have hDelay := hReply.delay_le
  refine ⟨?_, by omega⟩
  simp only [Activity.perform, hReply.outcome_eq]

theorem reach
    (first second : Milestone)
    (hEarly : early ≤ late) :
    HastensAt limit (reach first) late
      (Activity.reach second) early where
  slow_forward := .milestone .nil
  fast_forward := .milestone .nil
  follows _ := ⟨rfl, hEarly⟩

theorem announced
    {rule : String}
    {outer inner : Scope}
    (hRun :
      ∀ later sooner,
        sooner ≤ later →
          early ≤ sooner →
            HastensAt limit slow later fast sooner)
    (hEarly : early ≤ late) :
    HastensAt limit (announced rule outer slow) late
      (Activity.announced rule inner fast) early := by
  unfold Activity.announced
  refine andThen (reach _ _ hEarly) ?_ hEarly
  intro _ later sooner hSooner hStart
  refine andThen (hRun _ _ hSooner hStart) ?_ hSooner
  intro value later sooner hSooner _
  refine andThen (reach _ _ hSooner) ?_ hSooner
  intro _ later sooner hSooner _
  exact done value hSooner

theorem settled
    (hActivity : HastensAt limit slow late fast early) :
    HastensAt limit (settled slow) late
      (Activity.settled fast) early where
  slow_forward := hActivity.slow_forward
  fast_forward := hActivity.fast_forward
  follows hFinish := by
    rcases hActivity.follows hFinish with ⟨hSame, hLe⟩
    exact ⟨congrArg Ending.returned hSame, hLe⟩

/- The branches of two schedules, one of them no later. -/
theorem schedule
    {timeout : Nat}
    {slows fasts : List (Activity α)}
    {free other : List Nat}
    (hActivities :
      List.Forall₂ (Hastens timeout limit) slows fasts)
    (hFree : FreeNoLater free other)
    (hNonempty : free ≠ [])
    (hStart : ∀ time ∈ other, limit ≤ time + timeout)
    (hFinish :
      ∀ branch ∈ schedule free slows,
        finishOf branch.1 branch.2.steps < limit) :
    List.Forall₂
      (fun first second =>
        second.2.ending = first.2.ending ∧
          finishOf second.1 second.2.steps ≤
            finishOf first.1 first.2.steps)
      (schedule free slows)
      (Activity.schedule other fasts) := by
  induction hActivities generalizing free other with
  | nil => exact .nil
  | @cons slow fast slows fasts hActivity hRest ih =>
      have hEarliest :=
        Activity.earliest_mem (hFree.ne_nil hNonempty)
      have hFirst :=
        hActivity _ _ (hFree.earliest_le hNonempty)
          (hStart _ hEarliest)
      have hFollows :=
        hFirst.follows (hFinish _ List.mem_cons_self)
      refine .cons hFollows ?_
      apply ih
      · exact hFree.replaceFirst hNonempty
          hFirst.slow_forward.le_finishOf hFollows.2
      · exact replaceFirst_ne_nil hNonempty
      · intro time hTime
        rcases List.mem_cons.mp
            (replaceFirst_subset _ _ _ hTime) with
          rfl | hTime
        · have hForward := hFirst.fast_forward.le_finishOf
          have hLimit := hStart _ hEarliest
          omega
        · exact hStart time hTime
      · intro branch hBranch
        exact hFinish branch (List.mem_cons_of_mem _ hBranch)

theorem endings_eq
    {slows fasts : List (Nat × Episode α)}
    (hBranches :
      List.Forall₂
        (fun first second =>
          second.2.ending = first.2.ending ∧
            finishOf second.1 second.2.steps ≤
              finishOf first.1 first.2.steps)
        slows fasts) :
    fasts.map (fun branch => branch.2.ending) =
      slows.map fun branch => branch.2.ending := by
  rw [← List.forall₂_eq_eq_eq, List.forall₂_map_left_iff,
    List.forall₂_map_right_iff]
  exact hBranches.flip.imp fun _ _ hBranch => hBranch.1

theorem lastFinish_le
    {slows fasts : List (Nat × Episode α)}
    (hBranches :
      List.Forall₂
        (fun first second =>
          finishOf second.1 second.2.steps ≤
            finishOf first.1 first.2.steps)
        slows fasts)
    (hEarly : early ≤ late) :
    lastFinish early fasts ≤ lastFinish late slows := by
  induction hBranches generalizing early late with
  | nil => exact hEarly
  | cons hBranch _ ih =>
      apply ih
      dsimp only
      omega

theorem fanOut
    {timeout permits more first second : Nat}
    {slows fasts : List (Activity α)}
    (hActivities :
      List.Forall₂ (Hastens timeout limit) slows fasts)
    (hPermits : permits ≠ 0)
    (hMore : permits ≤ more)
    (hEarly : early ≤ late)
    (hLimit : limit ≤ early + timeout) :
    HastensAt limit (fanOut permits first slows) late
      (Activity.fanOut more second fasts) early := by
  refine ⟨fanOut_forward _ _ _ _, fanOut_forward _ _ _ _, ?_⟩
  rw [fanOut_finish, fanOut_finish, fanOut_ending,
    fanOut_ending]
  intro hFinish
  have hBranches :=
    schedule hActivities
      (.replicate hMore hEarly)
      (by simp [hPermits])
      (fun time hTime => by
        rw [List.eq_of_mem_replicate hTime]
        exact hLimit)
      (fun branch hBranch =>
        Nat.lt_of_le_of_lt
          ((lastFinish_spec late _).2.1 branch hBranch)
          hFinish)
  refine ⟨?_, lastFinish_le
    (hBranches.imp fun _ _ hBranch => hBranch.2) hEarly⟩
  rw [endings_eq hBranches]

end HastensAt

end Activity

------------------------------------------------------------
-- Parts Of Runs
------------------------------------------------------------

/- Two ways to carry out other runs, one of them faster. -/
def RunChild.Hastens
    (timeout limit : Nat)
    (slow fast : RunChild) : Prop :=
  ∀ rule input outer inner,
    Scope.AlikeUntil limit outer inner →
      Activity.Hastens timeout limit (slow rule input outer)
        (fast rule input inner)

namespace Engine

theorem dispatch_forward
    {engine : Engine}
    {runChild : RunChild}
    {scope : Scope}
    {action : Action}
    {context : Context}
    {start : Nat}
    (hExecute :
      Forward start
        (engine.execute runChild scope action context
          start).steps) :
    Forward start
      (engine.dispatch runChild scope action context
        start).steps := by
  rw [dispatch_steps]
  exact hExecute.stepsBy _

end Engine

namespace Engine.Hastens

open Activity

variable {slow fast : Engine}
variable {limit : Nat}
variable {outer inner : Scope}

theorem of_steady
    {engine : Engine}
    (hSteady : engine.collaborators.Steady) :
    engine.Hastens engine where
  depth_eq := rfl
  timeout_eq := rfl
  actions_le := Nat.le_refl _
  cost_eq := rfl
  stamp_eq := rfl
  patterns_eq := rfl
  rule_eq := rfl
  model late early _ := by
    rw [(hSteady late early).model]
    exact ⟨rfl, Nat.le_refl _⟩
  notify late early _ := by
    rw [(hSteady late early).notify]
    exact ⟨rfl, Nat.le_refl _⟩
  webhook late early _ := by
    rw [(hSteady late early).webhook]
    exact ⟨rfl, Nat.le_refl _⟩

theorem runModel
    (hHastens : slow.Hastens fast)
    (hScope : outer.AlikeUntil limit inner)
    (task : ModelTask)
    (context : Context)
    {timeout : Nat} :
    Activity.Hastens timeout limit
      (slow.runModel outer task context)
      (fast.runModel inner task context) := by
  intro late early hEarly hLimit
  unfold Engine.runModel
  cases task.model?.filter
      fun model => !Text.isBlankText model with
  | none => exact .done _ hEarly
  | some model =>
      dsimp only
      rw [hScope.rule_eq, hScope.user_eq]
      refine .andThen (.perform _ (hHastens.model _ _ _) hEarly) ?_
        hEarly
      intro answer later sooner hSooner _
      cases answer with
      | error fault => exact .done _ hSooner
      | ok output => exact .done _ hSooner

theorem runNotice
    (hHastens : slow.Hastens fast)
    (hScope : outer.AlikeUntil limit inner)
    (task : NoticeTask)
    {timeout : Nat} :
    Activity.Hastens timeout limit
      (slow.runNotice outer task)
      (fast.runNotice inner task) := by
  intro late early hEarly hLimit
  unfold Engine.runNotice
  rw [hScope.rule_eq, hScope.user_eq]
  refine .andThen (.perform _ (hHastens.notify _ _ _) hEarly) ?_
    hEarly
  intro answer later sooner hSooner _
  exact .done _ hSooner

theorem runWebhook
    (hHastens : slow.Hastens fast)
    (request : WebhookRequest)
    {timeout : Nat} :
    Activity.Hastens timeout limit
      (slow.runWebhook request) (fast.runWebhook request) := by
  intro late early hEarly hLimit
  unfold Engine.runWebhook
  split
  · exact .done _ hEarly
  · refine .andThen (.perform _ (hHastens.webhook _ _ _) hEarly)
      ?_ hEarly
    intro answer later sooner hSooner _
    cases answer with
    | error fault => exact .done _ hSooner
    | ok response =>
        dsimp only
        split
        · exact .done _ hSooner
        · exact .done _ hSooner

theorem chainedRule_eq
    (hHastens : slow.Hastens fast)
    (hScope : outer.AlikeUntil limit inner)
    (id : String) :
    fast.chainedRule inner id = slow.chainedRule outer id := by
  unfold Engine.chainedRule Scope.checkChain
  rw [hScope.chain_eq, hScope.depth_eq, hHastens.depth_eq,
    hHastens.rule_eq]

theorem runRule
    (hHastens : slow.Hastens fast)
    {first second : RunChild}
    (hChild :
      first.Hastens slow.settings.runTimeout limit second)
    (hScope : outer.AlikeUntil limit inner)
    (task : RuleTask)
    (context : Context) :
    Activity.Hastens slow.settings.runTimeout limit
      (slow.runRule first outer task context)
      (fast.runRule second inner task context) := by
  intro late early hEarly hLimit
  unfold Engine.runRule
  rw [hHastens.chainedRule_eq hScope, hHastens.timeout_eq]
  cases slow.chainedRule outer task.rule with
  | error fault => exact .done _ hEarly
  | ok rule =>
      refine .now_andThen ?_
      have hChildren := hScope.child rule hEarly hLimit
      refine .andThen (.announced ?_ hEarly) ?_ hEarly
      · intro later sooner hSooner hStart
        exact hChild _ _ _ _ hChildren _ _ hSooner
          (by omega)
      · intro report later sooner hSooner _
        refine .now_andThen (.still rfl ?_ rfl hSooner)
        intro hLater
        have hOuter := hChildren.outer_deadline
        have hInner := hChildren.inner_deadline
        rw [chainedResult_of_lt report (by omega),
          chainedResult_of_lt report (by omega)]
        rfl

theorem runBranch
    {patterns : PatternLibrary}
    {first second :
      Action → Context → Activity (ActionResult × Context)}
    {timeout : Nat}
    (hExecute :
      ∀ action context,
        Activity.Hastens timeout limit (first action context)
          (second action context))
    (task : BranchTask)
    (context : Context) :
    Activity.Hastens timeout limit
      (Engine.runBranch patterns first task context)
      (Engine.runBranch patterns second task context) := by
  intro late early hEarly hLimit
  cases hSelected : task.selected? patterns context with
  | none =>
      rw [runBranch_of_none hSelected,
        runBranch_of_none hSelected]
      exact .done _ hEarly
  | some action =>
      rw [runBranch_of_selected hSelected,
        runBranch_of_selected hSelected]
      refine .andThen (hExecute _ _ _ _ hEarly hLimit) ?_
        hEarly
      intro finished later sooner hSooner _
      exact .done _ hSooner

theorem keeping
    {first second : Activity TaskResult}
    {timeout : Nat}
    (context : Context)
    (hActivity : Activity.Hastens timeout limit first second) :
    Activity.Hastens timeout limit
      (Engine.keeping context first)
      (Engine.keeping context second) := by
  intro late early hEarly hLimit
  refine .andThen (hActivity _ _ hEarly hLimit) ?_ hEarly
  intro result later sooner hSooner _
  exact .done _ hSooner

theorem runTask
    (hHastens : slow.Hastens fast)
    {first second : RunChild}
    (hChild :
      first.Hastens slow.settings.runTimeout limit second)
    (hScope : outer.AlikeUntil limit inner)
    {carry carry' :
      Action → Context → Activity (ActionResult × Context)}
    (hExecute :
      ∀ action context,
        Activity.Hastens slow.settings.runTimeout limit
          (carry action context) (carry' action context))
    (task : Task)
    (context : Context) :
    Activity.Hastens slow.settings.runTimeout limit
      (slow.runTask first outer carry task context)
      (fast.runTask second inner carry' task context) := by
  cases task with
  | model task =>
      exact keeping context
        (hHastens.runModel hScope task context)
  | notice task =>
      exact keeping context (hHastens.runNotice hScope task)
  | webhook request =>
      exact keeping context (hHastens.runWebhook request)
  | store task => exact fun _ _ hEarly _ => .done _ hEarly
  | transform task => exact fun _ _ hEarly _ => .done _ hEarly
  | branch task =>
      simp only [Engine.runTask]
      rw [hHastens.patterns_eq]
      exact runBranch hExecute task context
  | rule task =>
      exact keeping context
        (hHastens.runRule hChild hScope task context)
  | unsupported type =>
      exact fun _ _ hEarly _ => .done _ hEarly

theorem executeWithin
    (hHastens : slow.Hastens fast)
    {first second : RunChild}
    (hChild :
      first.Hastens slow.settings.runTimeout limit second)
    (hScope : outer.AlikeUntil limit inner)
    (depth : Nat)
    (action : Action)
    (context : Context) :
    Activity.Hastens slow.settings.runTimeout limit
      (slow.executeWithin first outer depth action context)
      (fast.executeWithin second inner depth action
        context) := by
  induction depth generalizing action context with
  | zero => exact fun _ _ hEarly _ => .done _ hEarly
  | succ depth ih =>
      cases hTask :
          Task.ofConfig action.kind
            (filledConfig action context) with
      | error fault =>
          rw [executeWithin_of_fault depth hTask,
            executeWithin_of_fault depth hTask]
          exact fun _ _ hEarly _ => .done _ hEarly
      | ok task =>
          rw [executeWithin_of_task depth hTask,
            executeWithin_of_task depth hTask]
          intro late early hEarly hLimit
          refine .andThen
            (hHastens.runTask hChild hScope ih task context
              _ _ hEarly hLimit) ?_ hEarly
          intro finished later sooner hSooner _
          exact .done _ hSooner

theorem dispatch
    (hHastens : slow.Hastens fast)
    {first second : RunChild}
    (hChild :
      first.Hastens slow.settings.runTimeout limit second)
    (hScope : outer.AlikeUntil limit inner)
    (action : Action)
    (context : Context) :
    Activity.Hastens slow.settings.runTimeout limit
      (slow.dispatch first outer action context)
      (fast.dispatch second inner action context) := by
  intro late early hEarly hLimit
  have hExecute :
      Activity.HastensAt limit
        (slow.execute first outer action context) late
        (fast.execute second inner action context) early :=
    hHastens.executeWithin hChild hScope _ action context
      _ _ hEarly hLimit
  have hOuter := hScope.outer_deadline
  have hInner := hScope.inner_deadline
  refine ⟨dispatch_forward hExecute.slow_forward,
    dispatch_forward hExecute.fast_forward, ?_⟩
  intro hFinish
  cases hSlow :
      cutSteps? outer.deadline
        (slow.execute first outer action context
          late).steps with
  | some left =>
      rw [dispatch_of_cut hSlow] at hFinish
      have hLate : outer.deadline ≤ finishOf late left :=
        deadline_le_finishOf_of_cut hSlow
      dsimp only at hFinish
      omega
  | none =>
      rw [dispatch_of_uncut hSlow] at hFinish ⊢
      rcases hExecute.follows hFinish with ⟨hSame, hLe⟩
      rw [dispatch_of_uncut
        (hExecute.fast_forward.cutSteps?_eq_none (by omega))]
      exact ⟨hSame, hLe⟩

theorem runSequential
    {first second :
      Action → Context → Activity (ActionResult × Context)}
    {timeout : Nat}
    (hScope : outer.AlikeUntil limit inner)
    (hDispatch :
      ∀ action context,
        Activity.Hastens timeout limit (first action context)
          (second action context))
    (actions : List Action)
    (context : Context) :
    Activity.Hastens timeout limit
      (Engine.runSequential first outer actions context)
      (Engine.runSequential second inner actions context) := by
  induction actions generalizing context with
  | nil => exact fun _ _ hEarly _ => .done _ hEarly
  | cons action rest ih =>
      intro late early hEarly hLimit
      unfold Engine.runSequential
      refine .now_andThen ?_
      have hOuter := hScope.outer_deadline
      have hInner := hScope.inner_deadline
      refine .ite ?_ ?_ ?_
      · intro hExpired
        have hOver : outer.deadline ≤ late := by
          simpa [Scope.isExpired] using hExpired
        omega
      · intro hExpired
        have hOver : inner.deadline ≤ early := by
          simpa [Scope.isExpired] using hExpired
        omega
      · refine .andThen (hDispatch _ _ _ _ hEarly hLimit) ?_
          hEarly
        intro finished later sooner hSooner hStart
        dsimp only
        split
        · exact .done _ hSooner
        · refine .andThen
            (ih finished.2 _ _ hSooner (by omega)) ?_ hSooner
          intro remaining later sooner hSooner _
          exact .done _ hSooner

theorem runParallel
    {first second :
      Action → Context → Activity (ActionResult × Context)}
    {timeout : Nat}
    (hDispatch :
      ∀ action context,
        Activity.Hastens timeout limit (first action context)
          (second action context))
    {cap more : Nat}
    (hCap : cap ≤ more)
    (actions : List Action)
    (context : Context) :
    Activity.Hastens timeout limit
      (Engine.runParallel cap first outer actions context)
      (Engine.runParallel more second inner actions
        context) := by
  intro late early hEarly hLimit
  unfold Engine.runParallel
  refine .andThen
    (.fanOut ?_ (by omega) (by omega) hEarly hLimit)
    ?_ hEarly
  · rw [List.forall₂_map_left_iff, List.forall₂_map_right_iff,
      List.forall₂_same]
    intro action _
    exact hDispatch action context
  · intro endings later sooner hSooner _
    exact .done _ hSooner

theorem evaluateAndAct
    (hHastens : slow.Hastens fast)
    {first second : RunChild}
    (hChild :
      first.Hastens slow.settings.runTimeout limit second)
    (hScope : outer.AlikeUntil limit inner)
    (rule : Rule)
    (context : Context) :
    Activity.Hastens slow.settings.runTimeout limit
      (slow.evaluateAndAct first rule context outer)
      (fast.evaluateAndAct second rule context inner) := by
  intro late early hEarly hLimit
  have hDispatch := hHastens.dispatch hChild hScope
  unfold Engine.evaluateAndAct
  rw [hHastens.patterns_eq]
  dsimp only
  split
  · exact .done _ hEarly
  · cases rule.mode with
    | sequential =>
        refine .andThen
          (runSequential hScope hDispatch _ _ _ _ hEarly
            hLimit) ?_ hEarly
        intro outcome later sooner hSooner _
        exact .done _ hSooner
    | parallel =>
        refine .andThen
          (runParallel hDispatch hHastens.actions_le _ _ _ _
            hEarly hLimit) ?_ hEarly
        intro results later sooner hSooner _
        exact .done _ hSooner

theorem reportOf_eq
    (hHastens : slow.Hastens fast)
    (rule : Rule)
    (input : Document)
    (trigger : TriggerKind) :
    fast.reportOf rule input trigger =
      slow.reportOf rule input trigger := by
  funext outcome
  simp only [Engine.reportOf, hHastens.stamp_eq,
    hHastens.cost_eq]

theorem runWithin
    (hHastens : slow.Hastens fast)
    {first second : RunChild}
    (hChild :
      first.Hastens slow.settings.runTimeout limit second)
    (hScope : outer.AlikeUntil limit inner)
    (rule : Rule)
    (input : Document)
    (trigger : TriggerKind) :
    Activity.Hastens slow.settings.runTimeout limit
      (slow.runWithin first rule input trigger outer)
      (fast.runWithin second rule input trigger inner) := by
  intro late early hEarly hLimit
  unfold Engine.runWithin
  dsimp only
  rw [hHastens.stamp_eq]
  refine .andThen
    (.settled
      (hHastens.evaluateAndAct hChild hScope rule _ _ _ hEarly
        hLimit)) ?_ hEarly
  intro ending later sooner hSooner _
  rw [hHastens.reportOf_eq]
  cases ending with
  | returned outcome => exact .done _ hSooner
  | crashed crash => exact .done _ hSooner

theorem runChained
    (hHastens : slow.Hastens fast)
    (depth : Nat) :
    (slow.runChained depth).Hastens slow.settings.runTimeout
      limit (fast.runChained depth) := by
  induction depth with
  | zero =>
      intro rule input outer inner hScope late early hEarly _
      unfold Engine.runChained
      rw [hHastens.reportOf_eq]
      exact .done _ hEarly
  | succ depth ih =>
      intro rule input outer inner hScope
      exact hHastens.runWithin ih hScope rule input .chained

theorem runBelow
    (hHastens : slow.Hastens fast) :
    slow.runBelow.Hastens slow.settings.runTimeout limit
      fast.runBelow := by
  unfold Engine.runBelow
  rw [hHastens.depth_eq]
  exact hHastens.runChained _

end Engine.Hastens

end Automation
