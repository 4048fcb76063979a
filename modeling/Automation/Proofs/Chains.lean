import Automation.Proofs.Deadlines

/-
  The chains of runs.

  A run records the rules of the runs around it, from the outermost one to
  its own.  Another rule is started only when it is not among them and the
  chain is not too long; so the rules of a chain are distinct, provided
  that a store gives out rules under their own ids.

  Key definitions include:
    * `RuleStore.Built`, the stores that rules are put in and taken from
    * `Scope.Linked`, what the scope of a run says of its chain
    * `Nested`, steps of runs that record just the runs around them
    * `Engine.GuardsChain`, how a rule that is to be started is checked

  Key theorems include:
    * `Unfolds.linked` and `Unfolds.nested`
    * `Engine.run_keeps_chains`, the chains below an outermost run
-/

namespace Automation

------------------------------------------------------------
-- Rules Under Their Own Ids
------------------------------------------------------------

/- Stores that rules are put in, and taken from by their ids. -/
inductive RuleStore.Built : RuleStore → Prop
  | empty :
      Built []
  | insert
      {store : RuleStore}
      (rule : Rule)
      (hStore : Built store) :
      Built (store.insert rule)
  | erase
      {store : RuleStore}
      (id : String)
      (hStore : Built store) :
      Built (Table.erase store id)

namespace RuleStore.Built

theorem ofRules
    (rules : List Rule) :
    Built (RuleStore.ofRules rules) := by
  have hFrom :
      ∀ store, Built store →
        Built (rules.foldl RuleStore.insert store) := by
    induction rules with
    | nil =>
        intro store hStore
        exact hStore
    | cons rule rest ih =>
        intro store hStore
        exact ih _ (.insert rule hStore)
  exact hFrom [] .empty

/- A store gives out a rule under its own id only. -/
theorem id_eq
    {store : RuleStore}
    {id : String}
    {rule : Rule}
    (hStore : Built store)
    (hFind : Table.find? store id = some rule) :
    rule.id = id := by
  induction hStore with
  | empty => cases hFind
  | insert other _ ih =>
      rw [RuleStore.insert, Table.find?_insert] at hFind
      split at hFind
      · rename_i hId
        cases hFind
        exact hId.symm
      · exact ih hFind
  | erase other _ ih =>
      rw [Table.find?_erase] at hFind
      split at hFind
      · cases hFind
      · exact ih hFind

end RuleStore.Built

------------------------------------------------------------
-- What A Scope Says Of Its Chain
------------------------------------------------------------

/- A rule that is not in the chain keeps its rules distinct. -/
theorem Scope.nodup_chain_child
    {scope : Scope}
    {rule : Rule}
    (hDistinct : scope.chain.Nodup)
    (hChain : rule.id ∉ scope.chain)
    (timeout time : Nat) :
    (scope.child rule timeout time).chain.Nodup := by
  rw [Scope.child, List.nodup_append]
  refine ⟨hDistinct, by simp, ?_⟩
  intro other hOther last hLast hEq
  rw [List.mem_singleton.mp hLast] at hEq
  exact hChain (hEq ▸ hOther)

/-
  The scope of the run of a rule, below the run of the outermost rule: its
  chain leads from the one to the other.
-/
structure Scope.Linked
    (outermost : String)
    (maxDepth deadline : Nat)
    (id : String)
    (scope : Scope) : Prop where
  head : scope.chain.head? = some outermost
  last : scope.chain.getLast? = some id
  distinct : scope.chain.Nodup
  length : scope.chain.length = scope.depth + 1
  depth_le : scope.depth ≤ maxDepth
  deadline_eq : scope.deadline = deadline

namespace Scope.Linked

variable {outermost id : String}
variable {maxDepth deadline : Nat}
variable {scope : Scope}

theorem root
    (rule : Rule)
    (maxDepth timeout time : Nat) :
    (Scope.root rule timeout time).Linked rule.id maxDepth
      (time + timeout) rule.id where
  head := rfl
  last := rfl
  distinct := by simp [Scope.root]
  length := rfl
  depth_le := Nat.zero_le _
  deadline_eq := rfl

/- A rule that passes the check is linked in turn. -/
theorem child
    {timeout time : Nat}
    {rule : Rule}
    (hLinked : scope.Linked outermost maxDepth deadline id)
    (hCovers : scope.Covers timeout time)
    (hChain : rule.id ∉ scope.chain)
    (hDepth : scope.depth + 1 ≤ maxDepth) :
    (scope.child rule timeout time).Linked outermost maxDepth
      deadline rule.id where
  head := by
    rw [Scope.child, List.head?_append, hLinked.head]
    rfl
  last := by simp [Scope.child]
  distinct := Scope.nodup_chain_child hLinked.distinct hChain _ _
  length := by simp [Scope.child, hLinked.length]
  depth_le := hDepth
  deadline_eq := by
    rw [hCovers.child_deadline rule]
    exact hLinked.deadline_eq

end Scope.Linked

/-
  Every run that is started among some steps is linked to the outermost
  rule.
-/
def StartsLinked
    (outermost : String)
    (maxDepth deadline : Nat)
    (steps : List Step) : Prop :=
  ∀ time id scope,
    (Step.milestone time (.started id scope)).Occurs steps →
      scope.Linked outermost maxDepth deadline id

namespace StartsLinked

variable {outermost id : String}
variable {maxDepth deadline : Nat}
variable {scope : Scope}

theorem nil :
    StartsLinked outermost maxDepth deadline [] := by
  intro time id scope hOccurs
  exact absurd hOccurs Step.not_occurs_nil

theorem append
    {earlier later : List Step}
    (hEarlier :
      StartsLinked outermost maxDepth deadline earlier)
    (hLater :
      StartsLinked outermost maxDepth deadline later) :
    StartsLinked outermost maxDepth deadline
      (earlier ++ later) := by
  intro time id scope hOccurs
  rcases Step.occurs_append.mp hOccurs with hOccurs | hOccurs
  · exact hEarlier time id scope hOccurs
  · exact hLater time id scope hOccurs

theorem announced
    {start : Nat}
    {steps : List Step}
    (hScope : scope.Linked outermost maxDepth deadline id)
    (hSteps :
      StartsLinked outermost maxDepth deadline steps) :
    StartsLinked outermost maxDepth deadline
      (announcedSteps id scope start steps) := by
  intro time other inner hOccurs
  cases hOccurs with
  | head => exact hScope
  | tail hOccurs =>
      rcases Step.occurs_append.mp hOccurs with
        hOccurs | hOccurs
      · exact hSteps time other inner hOccurs
      · cases hOccurs with
        | tail hOccurs =>
            exact absurd hOccurs Step.not_occurs_nil

end StartsLinked

/-
  What is started below a linked scope is linked, as long as rules are
  given out under their own ids.
-/
theorem Unfolds.linked
    {engine : Engine}
    {part : Part}
    {scope : Scope}
    {start : Nat}
    {steps : List Step}
    {outermost id : String}
    {deadline : Nat}
    (hUnfolds : Unfolds engine part scope start steps)
    (hRules :
      ∀ id rule,
        engine.collaborators.rule id = .ok (some rule) →
          rule.id = id)
    (hLinked :
      scope.Linked outermost engine.settings.maxChainDepth
        deadline id)
    (hCovers :
      scope.Covers engine.settings.runTimeout start) :
    StartsLinked outermost engine.settings.maxChainDepth
      deadline steps := by
  induction hUnfolds generalizing id with
  | idle => exact .nil
  | call call delay =>
      intro time other inner hOccurs
      cases hOccurs with
      | tail hOccurs =>
          exact absurd hOccurs Step.not_occurs_nil
  | chained hRule hRun ih =>
      rcases Engine.chainedRule_eq_ok hRule with
        ⟨hChain, hDepth, hFind, _⟩
      rw [← hRules _ _ hFind] at hChain
      have hChild :=
        hLinked.child hCovers hChain hDepth
      exact .announced hChild (ih hChild (hCovers.child _))
  | within hExecution ih =>
      intro time other inner hOccurs
      exact ih hLinked hCovers time other inner
        (milestone_occurs_of_stepsBy hOccurs)
  | finished => exact .nil
  | next hTime hFirst hRest ihFirst ihRest =>
      have hOrderly := hFirst.orderly hCovers
      have hLater :=
        hCovers.later hOrderly.1.le_finishOf
          (hOrderly.2 (by simp))
      exact (ihFirst hLinked hCovers).append
        (ihRest hLinked hLater)
  | still => exact .nil
  | sequential hSteps ih => exact ih hLinked hCovers
  | parallel hMode _ _ hAdmitted hBranches hFinish hLast ih =>
      have hStarts := branch_covers hAdmitted hBranches hCovers
      intro time other inner hOccurs
      cases hOccurs with
      | tail hOccurs =>
          exact absurd hOccurs Step.not_occurs_nil
      | branch hBranch hOccurs =>
          exact ih _ hBranch hLinked (hStarts _ hBranch).2
            time other inner hOccurs

------------------------------------------------------------
-- Runs Inside Runs
------------------------------------------------------------

/-
  Steps among which every run records just the runs around it, from the
  outermost on; `chain` are the rules of the runs around the steps.  A run
  that a deadline cuts off is started, but does not end.
-/
inductive Nested :
    List String → List Step → Prop
  | nil
      {chain : List String} :
      Nested chain []
  | call
      {chain : List String}
      {time due : Nat}
      {call : Call}
      {pause? : Option Pause}
      {rest : List Step}
      (hRest : Nested chain rest) :
      Nested chain (.call time call due pause? :: rest)
  | fan
      {chain : List String}
      {time permits limit : Nat}
      {branches : List (Nat × List Step)}
      {pause : Pause}
      {rest : List Step}
      (hBranches :
        ∀ branch ∈ branches, Nested chain branch.2)
      (hRest : Nested chain rest) :
      Nested chain
        (.fan time permits limit branches pause :: rest)
  | run
      {chain : List String}
      {id : String}
      {scope : Scope}
      {time finish : Nat}
      {steps rest : List Step}
      (hScope : scope.chain = chain ++ [id])
      (hSteps : Nested scope.chain steps)
      (hRest : Nested chain rest) :
      Nested chain
        (.milestone time (.started id scope) ::
          (steps ++
            .milestone finish (.ended id scope) :: rest))
  | cutOff
      {chain : List String}
      {id : String}
      {scope : Scope}
      {time : Nat}
      {steps rest : List Step}
      (hScope : scope.chain = chain ++ [id])
      (hSteps : Nested scope.chain steps)
      (hRest : Nested chain rest) :
      Nested chain
        (.milestone time (.started id scope) ::
          (steps ++ rest))

namespace Nested

variable {chain : List String}
variable {steps : List Step}

theorem append
    {later : List Step}
    (hSteps : Nested chain steps)
    (hLater : Nested chain later) :
    Nested chain (steps ++ later) := by
  induction hSteps with
  | nil => exact hLater
  | call _ ih => exact .call (ih hLater)
  | fan hBranches _ _ ih => exact .fan hBranches (ih hLater)
  | run hScope hSteps _ _ ih =>
      rw [List.cons_append, List.append_assoc,
        List.cons_append]
      exact .run hScope hSteps (ih hLater)
  | cutOff hScope hSteps _ _ ih =>
      rw [List.cons_append, List.append_assoc]
      exact .cutOff hScope hSteps (ih hLater)

/- What a deadline leaves of a run is the run, or is cut off. -/
theorem stepsBy
    (deadline : Nat)
    (hSteps : Nested chain steps) :
    Nested chain (stepsBy deadline steps) := by
  induction hSteps with
  | nil => exact .nil
  | @call chain time due call pause? rest hRest ih =>
      rcases stepsBy_call_cases deadline time due call pause?
          rest with ⟨_, hLeft⟩ | hLeft
      · rw [hLeft]
        exact .call ih
      · rw [hLeft]
        exact .call .nil
  | @fan chain time permits limit branches pause rest hBranches
      hRest _ ih =>
      rcases stepsBy_fan_cases deadline time permits limit
          branches pause rest with hLeft | hLeft
      · rw [hLeft]
        exact .fan hBranches ih
      · rw [hLeft]
        exact .fan hBranches .nil
  | @run chain id scope time finish steps rest hScope hSteps
      hRest ihSteps ihRest =>
      rw [stepsBy_milestone]
      rcases stepsBy_append deadline steps
          (.milestone finish (.ended id scope) :: rest) with
        hLeft | hLeft
      · rw [hLeft, ← List.append_nil (Automation.stepsBy _ _)]
        exact .cutOff hScope ihSteps .nil
      · rw [hLeft, stepsBy_milestone]
        exact .run hScope hSteps ihRest
  | @cutOff chain id scope time steps rest hScope hSteps hRest
      ihSteps ihRest =>
      rw [stepsBy_milestone]
      rcases stepsBy_append deadline steps rest with
        hLeft | hLeft
      · rw [hLeft, ← List.append_nil (Automation.stepsBy _ _)]
        exact .cutOff hScope ihSteps .nil
      · rw [hLeft]
        exact .cutOff hScope hSteps ihRest

end Nested

/- The runs below a scope lie inside the runs of its chain. -/
theorem Unfolds.nested
    {engine : Engine}
    {part : Part}
    {scope : Scope}
    {start : Nat}
    {steps : List Step}
    (hUnfolds : Unfolds engine part scope start steps) :
    Nested scope.chain steps := by
  induction hUnfolds with
  | idle => exact .nil
  | call call delay => exact .call .nil
  | chained hRule hRun ih => exact .run rfl ih .nil
  | within hExecution ih => exact ih.stepsBy _
  | finished => exact .nil
  | next hTime hFirst hRest ihFirst ihRest =>
      exact ihFirst.append ihRest
  | still => exact .nil
  | sequential hSteps ih => exact ih
  | parallel hMode _ _ hAdmitted hBranches hFinish hLast ih =>
      exact .fan ih .nil

------------------------------------------------------------
-- Rules That Are Refused
------------------------------------------------------------

namespace Engine

variable {engine : Engine}

/- A task that starts a rule is refused on account of the chain. -/
def Refuses
    (engine : Engine)
    (runChild : RunChild)
    (scope : Scope)
    (task : RuleTask)
    (context : Context)
    (time : Nat)
    (fault : ChainFault) : Prop :=
  (engine.runRule runChild scope task context time).ending =
    .returned (.error (.chain fault))

/-
  An action that starts a rule does what its task does, and its task is
  refused just when the rule is in the chain of the scope or the chain is
  too long; the action then fails at once.
-/
structure GuardsChain
    (engine : Engine)
    (runChild : RunChild)
    (scope : Scope)
    (action : Action)
    (task : RuleTask)
    (context : Context)
    (time : Nat) : Prop where
  execute_eq :
    engine.execute runChild scope action context =
      (keeping context
        (engine.runRule runChild scope task
          context)).andThen fun finished =>
            Activity.done (concluded action finished)
  refuses_iff :
    (∃ fault,
        engine.Refuses runChild scope task context time
          fault) ↔
      task.rule ∈ scope.chain ∨
        engine.settings.maxChainDepth < scope.depth + 1
  refuses_cycle_iff :
    (∃ chain,
        engine.Refuses runChild scope task context time
          (.cycle task.rule chain)) ↔
      task.rule ∈ scope.chain
  execute_of_refuses :
    ∀ fault,
      engine.Refuses runChild scope task context time fault →
        engine.execute runChild scope action context time =
          ⟨[], .returned
            (resultOf action (.error (.chain fault)),
              context)⟩

section Refusal

variable {runChild : RunChild}
variable {scope : Scope}
variable {context : Context}
variable {time : Nat}

/- A chain fault can only come from the check of the chain. -/
theorem chainedRule_eq_chain_iff
    {id : String}
    {fault : ChainFault}
    (hId : Text.isBlankText id = false) :
    engine.chainedRule scope id = .error (.chain fault) ↔
      scope.checkChain id engine.settings.maxChainDepth =
        .error fault := by
  unfold chainedRule
  rw [hId]
  cases scope.checkChain id engine.settings.maxChainDepth with
  | error other => simp
  | ok _ =>
      cases engine.collaborators.rule id with
      | error other => simp
      | ok found =>
          cases found with
          | none => simp
          | some rule =>
              cases hActive : rule.active <;> simp [hActive]

/- A rule that is started comes to an achievement, or crashes. -/
theorem runRule_ne_error
    {task : RuleTask}
    {rule : Rule}
    (hRule : engine.chainedRule scope task.rule = .ok rule)
    (fault : ActionFault) :
    (engine.runRule runChild scope task context
        time).ending ≠
      .returned (.error fault) := by
  cases hRun :
      (Activity.announced rule.id
        (scope.child rule engine.settings.runTimeout time)
        (runChild rule (task.input?.getD context.input)
          (scope.child rule engine.settings.runTimeout time))
        time).ending <;>
    simp [runRule, hRule, Activity.andThen, Activity.now, hRun]

theorem refuses_iff_checkChain
    {task : RuleTask}
    {fault : ChainFault}
    (hId : Text.isBlankText task.rule = false) :
    engine.Refuses runChild scope task context time fault ↔
      scope.checkChain task.rule
          engine.settings.maxChainDepth =
        .error fault := by
  rw [← chainedRule_eq_chain_iff hId]
  constructor
  · intro hRefuses
    cases hRule : engine.chainedRule scope task.rule with
    | error other =>
        rw [Refuses, runRule_of_fault hRule] at hRefuses
        cases hRefuses
        rfl
    | ok rule =>
        exact absurd hRefuses (runRule_ne_error hRule _)
  · intro hRule
    rw [Refuses, runRule_of_fault hRule]
    rfl

theorem guardsChain
    {action : Action}
    {task : RuleTask}
    (hTask :
      Task.ofConfig action.kind
        (filledConfig action context) = .ok (.rule task))
    (hId : Text.isBlankText task.rule = false)
    (time : Nat) :
    engine.GuardsChain runChild scope action task context
      time := by
  have hExecute :
      engine.execute runChild scope action context =
        (keeping context
          (engine.runRule runChild scope task
            context)).andThen fun finished =>
              Activity.done (concluded action finished) :=
    executeWithin_of_task _ hTask
  refine ⟨hExecute, ?_, ?_, ?_⟩
  · simp only [refuses_iff_checkChain hId]
    rcases scope.checkChain_cases task.rule
        engine.settings.maxChainDepth with
      ⟨hChain, hCheck⟩ | ⟨_, hDepth, hCheck⟩ |
        ⟨hChain, hDepth, hCheck⟩
    · exact ⟨fun _ => Or.inl hChain, fun _ => ⟨_, hCheck⟩⟩
    · exact ⟨fun _ => Or.inr hDepth, fun _ => ⟨_, hCheck⟩⟩
    · rw [hCheck]
      constructor
      · rintro ⟨fault, hFault⟩
        cases hFault
      · rintro (hIn | hLong)
        · exact absurd hIn hChain
        · omega
  · simp only [refuses_iff_checkChain hId]
    rcases scope.checkChain_cases task.rule
        engine.settings.maxChainDepth with
      ⟨hChain, hCheck⟩ | ⟨hChain, _, hCheck⟩ |
        ⟨hChain, _, hCheck⟩
    · exact ⟨fun _ => hChain, fun _ => ⟨_, hCheck⟩⟩
    · simp [hCheck, hChain]
    · simp [hCheck, hChain]
  · intro fault hRefuses
    have hRule :
        engine.chainedRule scope task.rule =
          .error (.chain fault) :=
      (chainedRule_eq_chain_iff hId).mpr
        ((refuses_iff_checkChain hId).mp hRefuses)
    rw [hExecute, runRule_of_fault hRule]
    rfl

end Refusal

------------------------------------------------------------
-- Outermost Runs
------------------------------------------------------------

/-
  Every run below an outermost run is linked to it, and lies inside the
  runs of its chain; and a rule is refused just on account of the chain of
  the run that asks for it.
-/
theorem run_keeps_chains
    {store : RuleStore}
    {rule : Rule}
    {input : Document}
    {trigger : TriggerKind}
    {activity : Activity Report}
    (hStore : store.Built)
    (hRules :
      ∀ id,
        engine.collaborators.rule id =
          .ok (Table.find? store id))
    (hRun : engine.run rule input trigger = .ok activity)
    (start : Nat) :
    StartsLinked rule.id engine.settings.maxChainDepth
        (start + engine.settings.runTimeout)
        (activity start).steps ∧
      Nested [] (activity start).steps ∧
      ∀ runChild scope action task context time,
        Task.ofConfig action.kind
            (filledConfig action context) =
            .ok (.rule task) →
          Text.isBlankText task.rule = false →
            engine.GuardsChain runChild scope action task
              context time := by
  have hIds :
      ∀ id found,
        engine.collaborators.rule id = .ok (some found) →
          found.id = id := by
    intro id found hFound
    rw [hRules id] at hFound
    exact hStore.id_eq (Except.ok.inj hFound)
  rcases run_spec hRun start with
    ⟨steps, report, hActivity, hUnfolds⟩
  have hLinked :=
    Scope.Linked.root rule engine.settings.maxChainDepth
      engine.settings.runTimeout start
  have hCovers :=
    Scope.Covers.root rule engine.settings.runTimeout start
  rw [hActivity]
  refine ⟨?_, ?_, ?_⟩
  · exact .announced hLinked
      (hUnfolds.linked hIds hLinked hCovers)
  · exact .run rfl hUnfolds.nested .nil
  · intro runChild scope action task context time hTask hId
    exact guardsChain hTask hId time

/- Two rules each of which starts the other. -/
def ring : RuleStore :=
  .ofRules
    [ruleOf "a" .sequential [starts "b"],
      ruleOf "b" .parallel [starts "a", asks "slow"]]

theorem ring_run_keeps_chains :
    ∃ activity scope,
      (unhurried 100 8 ring).run
          (ruleOf "a" .sequential [starts "b"])
          .null .manual = .ok activity ∧
        (Step.milestone 0 (.started "b" scope)).Occurs
            (activity 0).steps ∧
        scope.Linked "a" 5 100 "b" := by
  have hRuns :
      ∃ activity scope,
        (unhurried 100 8 ring).run
            (ruleOf "a" .sequential [starts "b"])
            .null .manual = .ok activity ∧
          (Step.milestone 0 (.started "b" scope)).Occurs
            (activity 0).steps :=
    ⟨_, _, rfl, .tail .head⟩
  rcases hRuns with ⟨activity, scope, hRun, hOccurs⟩
  have hChains :=
    run_keeps_chains (.ofRules _) (fun _ => rfl) hRun 0
  exact
    ⟨activity, scope, hRun, hOccurs, hChains.1 _ _ _ hOccurs⟩

end Engine

end Automation
