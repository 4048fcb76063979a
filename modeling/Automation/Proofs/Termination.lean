import Automation.Proofs.Joining
import Automation.Proofs.Jobs
import Mathlib.Data.List.Perm.Subperm

/-
  Runs come to an end.

  Jobs do not start jobs forever, and no bound on the recursion is ever
  used up.  The rules of a chain are distinct, and all but the outermost
  are stored, so runs are nested no deeper than there are stored rules,
  whatever the limit is.

  Key definitions include:
    * `Scope.Stored`, scopes whose chain leads through stored rules
    * `Engine.Terminates`, what it takes for a run to come to an end

  Key theorems include:
    * `Scope.Stored.depth_le_length`, the chain is no longer than the store
    * `Engine.Involves.stored`, the scopes of all jobs of a run
    * `Engine.run_terminates`, every run of an active rule
-/

namespace Automation

------------------------------------------------------------
-- Chains Through Stored Rules
------------------------------------------------------------

/-
  The scope of a job: the rules of its chain are distinct, and those that
  another rule has started are stored.
-/
structure Scope.Stored
    (store : RuleStore)
    (maxDepth : Nat)
    (scope : Scope) : Prop where
  distinct : scope.chain.Nodup
  length : scope.chain.length = scope.depth + 1
  stored : scope.chain.tail ⊆ store.map (·.1)
  depth_le : scope.depth ≤ maxDepth

namespace Scope.Stored

variable {store : RuleStore}
variable {maxDepth : Nat}
variable {scope : Scope}

theorem root
    (store : RuleStore)
    (rule : Rule)
    (maxDepth timeout start : Nat) :
    (Scope.root rule timeout start).Stored store maxDepth where
  distinct := by simp [Scope.root]
  length := rfl
  stored := by simp [Scope.root]
  depth_le := Nat.zero_le _

/- A stored rule that passes the check is started. -/
theorem child
    {rule : Rule}
    (hStored : scope.Stored store maxDepth)
    (hFind : Table.find? store rule.id = some rule)
    (hChain : rule.id ∉ scope.chain)
    (hDepth : scope.depth + 1 ≤ maxDepth)
    (timeout start : Nat) :
    (scope.child rule timeout start).Stored store
      maxDepth where
  distinct := Scope.nodup_chain_child hStored.distinct hChain _ _
  length := by simp [Scope.child, hStored.length]
  stored := by
    have hNonempty : scope.chain ≠ [] := by
      intro hEmpty
      have hLength := hStored.length
      rw [hEmpty] at hLength
      cases hLength
    rw [Scope.child, List.tail_append_of_ne_nil hNonempty]
    intro id hId
    rcases List.mem_append.mp hId with hOld | hNew
    · exact hStored.stored hOld
    · rw [List.mem_singleton.mp hNew]
      exact List.mem_map_of_mem (Table.mem_of_find? hFind)
  depth_le := hDepth

/- A chain of distinct stored rules is no longer than the store. -/
theorem depth_le_length
    (hStored : scope.Stored store maxDepth) :
    scope.depth ≤ store.length := by
  have hDistinct : scope.chain.tail.Nodup :=
    hStored.distinct.sublist (List.tail_sublist _)
  have hLe :=
    (hDistinct.subperm hStored.stored).length_le
  rw [List.length_tail, hStored.length, List.length_map] at hLe
  exact hLe

end Scope.Stored

namespace Engine

variable {engine : Engine}
variable {store : RuleStore}
variable {outer inner : Job}

theorem Starts.stored
    (hStore : store.Built)
    (hRules :
      ∀ id,
        engine.collaborators.rule id =
          .ok (Table.find? store id))
    (hStarts : engine.Starts outer inner)
    (hOuter :
      outer.scope.Stored store engine.settings.maxChainDepth) :
    inner.scope.Stored store
      engine.settings.maxChainDepth := by
  cases hStarts with
  | next => exact hOuter
  | beside => exact hOuter
  | carryOut => exact hOuter
  | select => exact hOuter
  | chain hTask hRule =>
      rcases chainedRule_eq_ok hRule with
        ⟨hChain, hDepth, hFind, _⟩
      rw [hRules] at hFind
      have hStored := Except.ok.inj hFind
      have hId := hStore.id_eq hStored
      rw [← hId] at hStored hChain
      exact Scope.Stored.child hOuter hStored hChain hDepth _ _

/- Every job of a run has a chain through stored rules. -/
theorem Involves.stored
    (hStore : store.Built)
    (hRules :
      ∀ id,
        engine.collaborators.rule id =
          .ok (Table.find? store id))
    (hInvolves : engine.Involves outer inner)
    (hOuter :
      outer.scope.Stored store engine.settings.maxChainDepth) :
    inner.scope.Stored store
      engine.settings.maxChainDepth := by
  induction hInvolves with
  | refl => exact hOuter
  | tail _ hStarts ih => exact hStarts.stored hStore hRules ih

------------------------------------------------------------
-- Runs Come To An End
------------------------------------------------------------

/- The job that an outermost run is. -/
def rootJob
    (engine : Engine)
    (rule : Rule)
    (input : Document)
    (trigger : TriggerKind)
    (start : Nat) :
    Job :=
  .run rule input trigger
    (.root rule engine.settings.runTimeout start) start

/-
  A run comes to an end with a report.  The jobs that it is made of do not
  start jobs forever, whatever the limits are; they are nested no deeper
  than the limit and the store allow; and the actions of a parallel run
  share at least one permit, which each gets when the run starts or an
  earlier action is over, so that nothing is waited for in vain.
-/
structure Terminates
    (engine : Engine)
    (store : RuleStore)
    (rule : Rule)
    (input : Document)
    (trigger : TriggerKind)
    (start : Nat)
    (activity : Activity Report) : Prop where
  returns :
    ∃ report, (activity start).ending = .returned report
  descends :
    WellFounded fun inner outer => engine.Starts outer inner
  /- Every run that is seen to start is one of the jobs. -/
  runs :
    ∀ time id scope,
      (Step.milestone time (.started id scope)).Occurs
          (activity start).steps →
        (time = start ∧
            id = rule.id ∧
            scope =
              .root rule engine.settings.runTimeout start) ∨
          engine.Runs
            (engine.rootJob rule input trigger start) id scope
            time
  nests :
    ∀ job,
      engine.Involves
          (engine.rootJob rule input trigger start) job →
        job.scope.depth ≤
          min engine.settings.maxChainDepth store.length
  /- A word holds the depth of a run below, if it can count rules. -/
  counts :
    ∀ job,
      engine.Involves
          (engine.rootJob rule input trigger start) job →
        store.length + 1 < UInt64.size →
          job.scope.depth + 1 < UInt64.size
  /- The bound on runs inside runs is not used up. -/
  runsInFull :
    ∀ scope context time task found,
      engine.chainedRule scope task.rule = .ok found →
        engine.runBelow found
            (task.input?.getD context.input)
            (scope.child found engine.settings.runTimeout
              time) time =
          engine.chainedRun scope found task context time
  /- The bound on branches inside branches is not used up. -/
  branchesInFull :
    ∀ scope action context bound,
      action.config.depth < bound →
        engine.executeWithin engine.runBelow scope bound action
            context =
          engine.execute engine.runBelow scope action context
  admits :
    ∀ time permits limit branches pause,
      (Step.fan time permits limit branches pause).Occurs
          (activity start).steps →
        permits ≠ 0 ∧ Admitted [time] branches
  /- When all steps are taken side by side, nobody waits forever. -/
  joins :
    ((({ Journal.empty with time := start } : Journal).follow
        (activity start).steps).strand 0).waiting = .finished

/-
  Every run of an active rule comes to an end, whatever rules are stored
  and whatever the limits are; the run of any other rule is rejected.
-/
theorem run_terminates
    (hStore : store.Built)
    (hRules :
      ∀ id,
        engine.collaborators.rule id =
          .ok (Table.find? store id))
    (rule : Rule)
    (input : Document)
    (trigger : TriggerKind) :
    (rule.active = false →
        engine.run rule input trigger =
          .error (.ruleInactive rule.id)) ∧
      (rule.active = true →
        ∃ activity,
          engine.run rule input trigger = .ok activity ∧
            ∀ start,
              engine.Terminates store rule input trigger start
                activity) := by
  constructor
  · intro hActive
    rw [run, hActive]
    rfl
  intro hActive
  rcases exists_run hActive input trigger with ⟨activity, hRun⟩
  refine ⟨activity, hRun, ?_⟩
  intro start
  have hNests :
      ∀ job,
        engine.Involves
            (engine.rootJob rule input trigger start) job →
          job.scope.Stored store
            engine.settings.maxChainDepth :=
    fun job hInvolves =>
      hInvolves.stored hStore hRules (.root store rule _ _ _)
  rcases run_spec hRun start with
    ⟨steps, report, hActivity, hUnfolds⟩
  have hJoinable := run_joinable hRun start
  exact
    { returns := ⟨report, congrArg Episode.ending hActivity⟩
      descends := starts_wellFounded engine
      runs := by
        intro time id scope hOccurs
        rcases runWithin_apply rule input trigger start with
          ⟨report, hWithin⟩
        rw [run_apply hRun,
          Activity.announced_apply
            (congrArg Episode.ending hWithin)] at hOccurs
        rcases started_of_announced hOccurs with
          hOuter | hInner
        · exact Or.inl hOuter
        · exact Or.inr (runs_of_occurs hInner)
      nests := by
        intro job hInvolves
        have hStored := hNests job hInvolves
        exact
          Nat.le_min.mpr
            ⟨hStored.depth_le, hStored.depth_le_length⟩
      counts := by
        intro job hInvolves hStore
        have hDepth := (hNests job hInvolves).depth_le_length
        omega
      runsInFull := fun _ _ _ _ _ => runBelow_eq_chainedRun
      branchesInFull := fun _ _ context _ =>
        executeWithin_eq_execute context
      admits := fun _ _ _ _ _ => hJoinable.fan_of_occurs
      joins := Journal.follow_finishes hJoinable start }

/- Rules that start each other, no limit to speak of, and no permits. -/
def unbounded : Engine :=
  { unhurried 100 0 ring with
    settings :=
      { (unhurried 100 0 ring).settings with
        maxChainDepth := UInt64.size - 1 } }

theorem unbounded_run_terminates :
    ∃ activity,
      unbounded.run
          (ruleOf "b" .parallel [starts "a", asks "slow"])
          .null .manual = .ok activity ∧
        unbounded.Terminates ring
          (ruleOf "b" .parallel [starts "a", asks "slow"])
          .null .manual 0 activity := by
  have hTerminates :=
    @run_terminates unbounded ring (.ofRules _) (fun _ => rfl)
      (ruleOf "b" .parallel [starts "a", asks "slow"]) .null
      .manual
  rcases hTerminates.2 rfl with ⟨activity, hRun, hEnds⟩
  exact ⟨activity, hRun, hEnds 0⟩

end Engine

end Automation
