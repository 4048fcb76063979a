import Automation.Proofs.Admission
import Automation.Proofs.Joining

/-
  Actions side by side.

  The actions of a parallel run share permits.  No more of them are under
  way at a time than there are permits, each starts once and in order, and
  while one waits all permits are with others that are under way.  A permit
  is given back whichever way an action ends, so every action has a result.
  This is so at the times that a run tells, and after every turn of the
  thread that takes the steps of a run.

  Key definitions include:
    * `Journal.afterTurns`, the journals of a run
    * `Journal.InTurn`, how the branches of a group stand
    * `Journal.TakesTurns`, all groups after all turns
    * `Engine.FansOut`, parallel runs and the turns they take

  Key theorems include:
    * `Journal.takesTurns`, turns that keep branches in order
    * `Engine.run_fansOut`, every run of an active rule
-/

namespace Automation

namespace Journal

variable {j : Journal}
variable {cap groupId first begun start : Nat}
variable {steps : List Step}

------------------------------------------------------------
-- How The Branches Of A Group Stand
------------------------------------------------------------

/-
  The branches of a group, of which as many as have begun are the first.
-/
structure InTurn
    (cap : Nat)
    (j : Journal)
    (groupId first begun : Nat) : Prop where
  /- Each branch is one strand, and no strand is two branches. -/
  group?_iff :
    ∀ id position,
      (j.strand id).group? = some (groupId, position) ↔
        id = first + position ∧ position < j.size groupId
  started_iff :
    ∀ position < j.size groupId,
      (j.strand (first + position)).waiting.isFresh = false ↔
        position < begun
  capped :
    j.underWay groupId ≤ permitsFor cap (j.size groupId)
  /- A permit is free, or with a branch that has not finished. -/
  shared :
    (j.group groupId).free + (j.called groupId).length +
        j.underWay groupId =
      permitsFor cap (j.size groupId)
  /- The next branch is to have its turn, or all permits are in use. -/
  busy :
    begun < j.size groupId →
      first + begun ∈ j.ready ∨
        j.underWay groupId = permitsFor cap (j.size groupId)

/- The first in line is ready, or nobody has been handed a permit. -/
theorem Lined.next
    (hLined : j.Lined groupId first begun)
    (hBegun : begun < j.size groupId) :
    first + begun ∈ j.ready ∨
      j.called groupId = [] ∧ (j.group groupId).queue ≠ [] := by
  have hHead : (j.line groupId).head? = some (first + begun) := by
    have hLeft :
        j.size groupId - begun =
          j.size groupId - begun - 1 + 1 := by
      omega
    rw [hLined.line_eq, hLeft, List.range'_succ]
    rfl
  have hReady :
      ∀ waiting rest,
        j.lined waiting groupId = (first + begun) :: rest →
          first + begun ∈ j.ready := by
    intro waiting rest hList
    have hMem : first + begun ∈ j.lined waiting groupId := by
      rw [hList]
      exact List.mem_cons_self
    exact List.mem_of_mem_filter hMem
  unfold line at hHead
  cases hCalled : j.called groupId with
  | cons id rest =>
      rw [hCalled] at hHead
      cases hHead
      exact Or.inl (hReady .permit rest hCalled)
  | nil =>
      rw [hCalled] at hHead
      cases hQueue : (j.group groupId).queue with
      | cons id rest =>
          exact Or.inr ⟨rfl, List.cons_ne_nil _ _⟩
      | nil =>
          rw [hQueue] at hHead
          cases hComing : j.coming groupId with
          | cons id rest =>
              rw [hComing] at hHead
              cases hHead
              exact Or.inl (hReady .turn rest hComing)
          | nil =>
              rw [hComing] at hHead
              cases hHead

theorem Serves.inTurn
    (hServes : j.Serves cap groupId first begun)
    (hSound : j.Sound none) :
    j.InTurn cap groupId first begun where
  group?_iff := hServes.lined.group?_iff
  started_iff := hServes.lined.started_iff
  capped := by
    have hShared := hServes.shared
    omega
  shared := hServes.shared
  busy := by
    intro hBegun
    rcases hServes.lined.next hBegun with
      hReady | ⟨hCalled, hQueue⟩
    · exact Or.inl hReady
    · have hShared := hServes.shared
      rw [hCalled, hSound.full groupId hQueue] at hShared
      refine Or.inr (Eq.trans ?_ hShared)
      simp

/- When all strands have finished, all permits are free again. -/
theorem Serves.free_of_finished
    (hServes : j.Serves cap groupId first begun)
    (hFinished :
      ∀ id < j.strands.length,
        (j.strand id).waiting = .finished)
    (hReady : j.ready = []) :
    (j.group groupId).free = permitsFor cap (j.size groupId) := by
  have hCalled : j.called groupId = [] := by
    unfold called Journal.lined
    rw [hReady]
    rfl
  have hNone : j.underWay groupId = 0 := by
    rw [underWay, List.countP_eq_zero]
    intro s hStrand hUnderWay
    rcases List.mem_iff_getElem.mp hStrand with ⟨id, hId, hSame⟩
    have hOver := hFinished id hId
    have hLook : j.strand id = s := by
      rw [← hSame]
      simp [strand, List.getD, hId]
    rw [hLook] at hOver
    rw [Strand.isUnderWayIn, hOver, Bool.and_eq_true]
      at hUnderWay
    cases hUnderWay.2
  have hShared := hServes.shared
  rw [hCalled, hNone] at hShared
  exact hShared

------------------------------------------------------------
-- Turn After Turn
------------------------------------------------------------

/- The journal after some turns that carry steps out. -/
def afterTurns
    (start : Nat)
    (steps : List Step) :
    Nat → Journal
  | 0 => (fresh start steps).poll 0
  | turns + 1 => (afterTurns start steps turns).turn

/- The branches of all groups, after every number of turns. -/
structure TakesTurns
    (cap start : Nat)
    (steps : List Step) : Prop where
  /- The journals in which the steps of an activity are followed. -/
  follows :
    ∃ turns,
      ({ empty with time := start } : Journal).follow steps =
        afterTurns start steps turns
  inTurn :
    ∀ turns groupId,
      groupId < (afterTurns start steps turns).groups.length →
        ∃ first begun,
          (afterTurns start steps turns).InTurn cap groupId first
              begun ∧
            ∃ next,
              begun ≤ next ∧ next ≤ begun + 1 ∧
                (afterTurns start steps (turns + 1)).InTurn cap
                  groupId first next
  begins :
    ∀ turns groupId,
      (afterTurns start steps turns).groups.length ≤ groupId →
        groupId <
            (afterTurns start steps (turns + 1)).groups.length →
          ∃ first,
            (afterTurns start steps (turns + 1)).InTurn cap
              groupId first 0
  busy :
    ∀ turns groupId first begun,
      groupId < (afterTurns start steps turns).groups.length →
        (afterTurns start steps turns).InTurn cap groupId first
            begun →
          begun < (afterTurns start steps turns).size groupId →
            (afterTurns start steps (turns + 1)).time ≠
                (afterTurns start steps turns).time →
              (afterTurns start steps turns).underWay groupId =
                permitsFor cap
                  ((afterTurns start steps turns).size groupId)
  ends :
    ∃ last, ∀ turns, last ≤ turns →
      (∀ id < (afterTurns start steps turns).strands.length,
          ((afterTurns start steps turns).strand id).waiting =
            .finished) ∧
        ∀ groupId <
            (afterTurns start steps turns).groups.length,
          ((afterTurns start steps turns).group groupId).free =
            permitsFor cap
              ((afterTurns start steps turns).size groupId)

theorem exists_takeTurns
    (start : Nat)
    (steps : List Step)
    (fuel turns : Nat) :
    ∃ more,
      takeTurns fuel (afterTurns start steps turns) =
        afterTurns start steps more := by
  induction fuel generalizing turns with
  | zero => exact ⟨turns, rfl⟩
  | succ fuel ih =>
      rw [takeTurns]
      split
      · exact ⟨turns, rfl⟩
      · exact ih (turns + 1)

/- After enough turns nothing is left to do. -/
theorem afterTurns_stuck
    {turns : Nat}
    (hWorth : (afterTurns start steps 0).worth ≤ turns) :
    (afterTurns start steps turns).Stuck := by
  have hLess :
      ∀ turns,
        (afterTurns start steps turns).Stuck ∨
          (afterTurns start steps turns).worth + turns ≤
            (afterTurns start steps 0).worth := by
    intro turns
    induction turns with
    | zero => exact Or.inr (Nat.le_refl _)
    | succ turns ih =>
        by_cases hStuck : (afterTurns start steps turns).Stuck
        · refine Or.inl ?_
          rw [afterTurns, turn_of_stuck hStuck]
          exact hStuck
        · refine Or.inr ?_
          have hTurn := worth_turn hStuck
          have hBefore := ih.resolve_left hStuck
          change
            (afterTurns start steps turns).turn.worth +
                (turns + 1) ≤ _
          omega
  rcases hLess turns with hStuck | hLeft
  · exact hStuck
  · exact stuck_of_worth (by omega)

section AfterTurns

variable {deadline : Nat}
variable (hSteps : Joinable deadline steps)

include hSteps

theorem afterTurns_sound
    (start turns : Nat) :
    (afterTurns start steps turns).Sound none ∧
      (afterTurns start steps turns).Manned := by
  induction turns with
  | zero =>
      have hTurn := fresh_hasTurn hSteps start
      have hManned : (fresh start steps).Manned := by
        intro groupId position hLeft
        cases hLeft
      exact ⟨hTurn.sound_poll, hManned.poll hTurn⟩
  | succ turns ih => exact ⟨ih.1.turn, ih.2.turn ih.1⟩

omit hSteps in
theorem afterTurns_rations
    (hRationed : Rationed cap steps)
    (turns : Nat) :
    (afterTurns start steps turns).Rations cap := by
  induction turns with
  | zero =>
      refine Rations.poll ?_ 0
      intro s hStrand
      rw [List.mem_singleton.mp hStrand]
      exact hRationed
  | succ turns ih => exact ih.turn

theorem afterTurns_serves
    (hRationed : Rationed cap steps)
    {turns : Nat}
    (hLess :
      groupId < (afterTurns start steps turns).groups.length) :
    ∃ first begun,
      (afterTurns start steps turns).Serves cap groupId first
        begun := by
  induction turns with
  | zero =>
      have hFresh : (fresh start steps).Rations cap := by
        intro s hStrand
        rw [List.mem_singleton.mp hStrand]
        exact hRationed
      rcases serves_poll_of_new (fresh_hasTurn hSteps start)
          hFresh (Nat.zero_le groupId) hLess with
        ⟨first, hServes⟩
      exact ⟨first, 0, hServes⟩
  | succ turns ih =>
      have hSound := (afterTurns_sound hSteps start turns).1
      by_cases hOld :
          groupId <
            (afterTurns start steps turns).groups.length
      · rcases ih hOld with ⟨first, begun, hServes⟩
        rcases hServes.turn hSound hOld with ⟨next, _, _, hNext⟩
        exact ⟨first, next, hNext⟩
      · rcases serves_turn_of_new hSound
            (afterTurns_rations hRationed turns)
            (Nat.le_of_not_lt hOld) hLess with
          ⟨first, hServes⟩
        exact ⟨first, 0, hServes⟩

/- The branches of all groups take their turns in order. -/
theorem takesTurns
    (hRationed : Rationed cap steps)
    (start : Nat) :
    TakesTurns cap start steps where
  follows := exists_takeTurns start steps _ 0
  inTurn := by
    intro turns groupId hLess
    have hSound := (afterTurns_sound hSteps start turns).1
    rcases afterTurns_serves hSteps hRationed hLess with
      ⟨first, begun, hServes⟩
    rcases hServes.turn hSound hLess with
      ⟨next, hBegun, hNext, hLater⟩
    exact
      ⟨first, begun, hServes.inTurn hSound, next, hBegun, hNext,
        hLater.inTurn hSound.turn⟩
  begins := by
    intro turns groupId hNew hLess
    have hSound := (afterTurns_sound hSteps start turns).1
    rcases serves_turn_of_new hSound
        (afterTurns_rations hRationed turns) hNew hLess with
      ⟨first, hServes⟩
    exact ⟨first, hServes.inTurn hSound.turn⟩
  busy := by
    intro turns groupId first begun _ hInTurn hBegun hTime
    have hSound := (afterTurns_sound hSteps start turns).1
    rcases hInTurn.busy hBegun with hReady | hBusy
    · rw [ready_of_time_turn hSound hTime] at hReady
      cases hReady
    · exact hBusy
  ends := by
    refine ⟨(afterTurns start steps 0).worth, ?_⟩
    intro turns hTurns
    have hStuck := afterTurns_stuck hTurns
    rcases afterTurns_sound hSteps start turns with ⟨hSound, hManned⟩
    have hFinished :
        ∀ id < (afterTurns start steps turns).strands.length,
          ((afterTurns start steps turns).strand id).waiting =
            .finished :=
      fun id hId => hStuck.finished hSound hManned hId
    refine ⟨hFinished, ?_⟩
    intro groupId hLess
    rcases afterTurns_serves hSteps hRationed hLess with
      ⟨first, begun, hServes⟩
    exact hServes.free_of_finished hFinished hStuck.ready

end AfterTurns

end Journal

------------------------------------------------------------
-- Runs
------------------------------------------------------------

namespace Engine

/-
  A run takes the one step of its actions side by side, and reports what
  they come to.
-/
def TakesFan
    (engine : Engine)
    (runChild : RunChild)
    (rule : Rule)
    (input : Document)
    (trigger : TriggerKind)
    (scope : Scope)
    (start : Nat) : Prop :=
  let cap := engine.settings.maxParallelActions
  let dispatch := engine.dispatch runChild scope
  let actions := rule.logic.actions
  let context := engine.freshContext rule input trigger
  ∃ report,
    engine.runWithin runChild rule input trigger scope start =
        ⟨parallelSteps cap dispatch scope actions context start,
          .returned report⟩ ∧
      report.results =
        parallelResults cap dispatch actions context start

/-
  The parallel runs of an engine with the steps that they take, and the
  turns that a run of a rule takes.
-/
structure FansOut
    (engine : Engine)
    (rule : Rule)
    (input : Document)
    (trigger : TriggerKind)
    (start : Nat)
    (steps : List Step) : Prop where
  sharesPermits :
    ∀ depth scope actions context time,
      SharesPermits engine.settings.maxParallelActions
        (engine.dispatch (engine.runChained depth) scope) scope
        actions context time
  /- The branches that share permits are those that a run starts. -/
  takesFan :
    ∀ depth rule input trigger scope time,
      rule.mode = .parallel →
        engine.IsMet rule input trigger →
          engine.TakesFan (engine.runChained depth) rule input
            trigger scope time
  /- The steps whose turns are followed hold those of the rule. -/
  holds :
    rule.mode = .parallel →
      engine.IsMet rule input trigger →
        ∀ step ∈
            parallelSteps engine.settings.maxParallelActions
              (engine.dispatch engine.runBelow
                (.root rule engine.settings.runTimeout start))
              (.root rule engine.settings.runTimeout start)
              rule.logic.actions
              (engine.freshContext rule input trigger) start,
          step.Occurs steps
  takesTurns :
    Journal.TakesTurns engine.settings.maxParallelActions start
      steps

/- A parallel run whose condition holds fans out. -/
theorem runWithin_takesFan
    {engine : Engine}
    {rule : Rule}
    {input : Document}
    {trigger : TriggerKind}
    (runChild : RunChild)
    (scope : Scope)
    (start : Nat)
    (hMode : rule.mode = .parallel)
    (hMet : engine.IsMet rule input trigger) :
    engine.TakesFan runChild rule input trigger scope start := by
  have hActed :
      engine.evaluateAndAct runChild rule
          (engine.freshContext rule input trigger) scope start =
        ⟨parallelSteps engine.settings.maxParallelActions
            (engine.dispatch runChild scope) scope
            rule.logic.actions
            (engine.freshContext rule input trigger) start,
          .returned
            ⟨true,
              parallelResults engine.settings.maxParallelActions
                (engine.dispatch runChild scope)
                rule.logic.actions
                (engine.freshContext rule input trigger) start,
              (rule.logic.condition.evaluate engine.patterns
                (engine.freshContext rule input
                  trigger)).diagnostics.map (·.text),
              none⟩⟩ := by
    rw [evaluateAndAct_of_parallel hMode hMet,
      Activity.andThen_apply_of_returned
        (runParallel_ending _ _ _ _ _),
      runParallel_steps_eq]
    exact congrArg (Episode.mk · _) (List.append_nil _)
  have hWithin :=
    runWithin_of_returned (congrArg Episode.ending hActed)
  rw [freshContext] at hActed
  rw [hActed] at hWithin
  exact ⟨_, hWithin, rfl⟩

/-
  Every run of an active rule fans out in order, whatever the cap is and
  however long the actions take.
-/
theorem run_fansOut
    {engine : Engine}
    {rule : Rule}
    {input : Document}
    {trigger : TriggerKind}
    {activity : Activity Report}
    (hRun : engine.run rule input trigger = .ok activity)
    (start : Nat) :
    engine.FansOut rule input trigger start
      (activity start).steps where
  sharesPermits := by
    intro depth scope actions context time
    apply runParallel_sharesPermits
    intro action _ begin
    exact
      (dispatch_runChained_forward engine depth scope action
        context begin).le_finishOf
  takesFan := by
    intro depth rule input trigger scope time hMode hMet
    exact runWithin_takesFan _ scope time hMode hMet
  holds := by
    intro hMode hMet step hStep
    let scope := Scope.root rule engine.settings.runTimeout start
    rcases runWithin_takesFan engine.runBelow scope start hMode
        hMet with ⟨report, hWithin, _⟩
    have hSteps :
        (activity start).steps =
          announcedSteps rule.id scope start
            (parallelSteps engine.settings.maxParallelActions
              (engine.dispatch engine.runBelow scope) scope
              rule.logic.actions
              (engine.freshContext rule input trigger)
              start) := by
      rw [run_apply hRun,
        Activity.announced_apply (congrArg Episode.ending hWithin),
        hWithin]
    rw [hSteps]
    exact .tail (Step.occurs_append.mpr (Or.inl (.of_mem hStep)))
  takesTurns :=
    Journal.takesTurns (run_joinable hRun start)
      (run_rationed hRun start) start

/- The second action waits for the only permit until both are late. -/
theorem crowded_run_fansOut :
    ∃ activity report first second pause,
      (unhurried 100 1 []).run crowdedRule .null .manual =
          .ok activity ∧
        (activity 0).ending = .returned report ∧
        (Step.fan 0 1 100 [(0, first), (100, second)]
            pause).Occurs (activity 0).steps ∧
        report.results.map (·.error?) =
          [some "Action timed out after 100 ms",
            some "Action timed out after 100 ms"] ∧
        (unhurried 100 1 []).FansOut crowdedRule .null .manual 0
          (activity 0).steps :=
  ⟨_, _, _, _, _, rfl, rfl, .tail .head, rfl, run_fansOut rfl 0⟩

end Engine

end Automation
