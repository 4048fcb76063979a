import Automation.Proofs.InPlace

/-
  What actions change.

  An action that does not succeed leaves the variables as they were, cut
  short or not.  One that succeeds writes its output, the key of a task
  that stores, and what the selected action of a branch may write.  The
  fixed scope of a context is never written, and other rules that an action
  starts neither see nor change the variables.

  Key definitions include:
    * `Engine.MayWrite`, the names that an action may write
    * `Engine.KeepsFrame`, what an action leaves as it was
    * `Course.Alike`, courses that differ in their contexts only
    * `Engine.ActsAtomically`, all of this on a shared context

  Key theorems include:
    * `Engine.executeWithin_keepsFrame`, by induction on branches
    * `Engine.runRule_of_input_eq`, what other rules see
    * `Engine.actsAtomically`, what an action changes
-/

namespace Automation

------------------------------------------------------------
-- Variables
------------------------------------------------------------

namespace Context

theorem valueOf?_setVariable
    (context : Context)
    (name : String)
    (value : Document)
    (other : String) :
    (context.setVariable name value).valueOf? other =
      if other = name then some value
      else context.valueOf? other :=
  Table.find?_insert context.assigned name value other

end Context

------------------------------------------------------------
-- The Names That An Action May Write
------------------------------------------------------------

namespace Engine

/-
  An action may write the variable that receives its output, the key under
  which it stores, and what the action that its branch selects may write.
-/
inductive MayWrite
    (patterns : PatternLibrary)
    (context : Context) :
    Action → String → Prop
  | target
      {action : Action}
      {name : String}
      (hTarget : action.target? = some name) :
      MayWrite patterns context action name
  | store
      {action : Action}
      {task : StoreTask}
      (hTask :
        Task.ofConfig action.kind
          (filledConfig action context) = .ok (.store task)) :
      MayWrite patterns context action task.key
  | branch
      {action selected : Action}
      {task : BranchTask}
      {name : String}
      (hTask :
        Task.ofConfig action.kind
          (filledConfig action context) = .ok (.branch task))
      (hSelected : task.selected? patterns context = some selected)
      (hName : MayWrite patterns context selected name) :
      MayWrite patterns context action name

/- An action that starts another rule writes only its output. -/
theorem MayWrite.target_of_rule
    {patterns : PatternLibrary}
    {context : Context}
    {action : Action}
    {name : String}
    {task : RuleTask}
    (hName : MayWrite patterns context action name)
    (hRule :
      Task.ofConfig action.kind
        (filledConfig action context) = .ok (.rule task)) :
    action.target? = some name := by
  cases hName with
  | target hTarget => exact hTarget
  | store hTask =>
      rw [hTask] at hRule
      cases hRule
  | branch hTask =>
      rw [hTask] at hRule
      cases hRule

/- What an action leaves as it was, and what it writes. -/
structure KeepsFrame
    (patterns : PatternLibrary)
    (context : Context)
    (action : Action)
    (finished : ActionResult × Context) : Prop where
  fixed_eq : finished.2.fixed = context.fixed
  unsuccessful :
    finished.1.isSuccess = false → finished.2 = context
  unwritten :
    ∀ name,
      ¬ MayWrite patterns context action name →
        finished.2.valueOf? name = context.valueOf? name
  written :
    finished.1.isSuccess = true →
      ∀ name,
        action.target? = some name →
          finished.2.valueOf? name = some finished.1.output

------------------------------------------------------------
-- Tasks
------------------------------------------------------------

variable {patterns : PatternLibrary}
variable {engine : Engine}
variable {runChild : RunChild}
variable {scope : Scope}
variable {context : Context}
variable {action : Action}
variable {start : Nat}

theorem writeOutput_of_unsuccessful
    {result : ActionResult}
    (hResult : result.isSuccess = false) :
    writeOutput action result context = context := by
  simp [writeOutput, hResult]

theorem writeOutput_of_untargeted
    {result : ActionResult}
    (hTarget : action.target? = none) :
    writeOutput action result context = context := by
  simp [writeOutput, hTarget]

theorem writeOutput_of_target
    {result : ActionResult}
    {name : String}
    (hResult : result.isSuccess = true)
    (hTarget : action.target? = some name) :
    writeOutput action result context =
      context.setVariable name result.output := by
  simp [writeOutput, hResult, hTarget]

/-
  What a task leaves as it was is left by its action, which only writes
  the output.
-/
theorem keepsFrame_concluded
    {finished : TaskResult × Context}
    (hFixed : finished.2.fixed = context.fixed)
    (hUnsuccessful :
      (resultOf action finished.1).isSuccess = false →
        finished.2 = context)
    (hUnwritten :
      ∀ name,
        ¬ MayWrite patterns context action name →
          finished.2.valueOf? name = context.valueOf? name) :
    KeepsFrame patterns context action (concluded action finished) := by
  unfold concluded
  cases hSuccess : (resultOf action finished.1).isSuccess with
  | false =>
      rw [writeOutput_of_unsuccessful hSuccess]
      exact
        ⟨hFixed, hUnsuccessful, hUnwritten, by simp [hSuccess]⟩
  | true =>
      cases hTarget : action.target? with
      | none =>
          rw [writeOutput_of_untargeted hTarget]
          refine ⟨hFixed, hUnsuccessful, hUnwritten, ?_⟩
          intro _ name hName
          rw [hTarget] at hName
          cases hName
      | some name =>
          rw [writeOutput_of_target hSuccess hTarget]
          refine ⟨hFixed, by simp [hSuccess], ?_, ?_⟩
          · intro other hOther
            have hNe : other ≠ name := by
              rintro rfl
              exact hOther (.target hTarget)
            rw [Context.valueOf?_setVariable, if_neg hNe]
            exact hUnwritten other hOther
          · intro _ other hOther
            rw [hTarget] at hOther
            cases hOther
            rw [Context.valueOf?_setVariable, if_pos rfl]

/- A task that leaves the variables alone. -/
theorem keepsFrame_of_same
    {finished : TaskResult × Context}
    (hSame : finished.2 = context) :
    KeepsFrame patterns context action (concluded action finished) :=
  keepsFrame_concluded (congrArg Context.fixed hSame)
    (fun _ => hSame) fun name _ => by rw [hSame]

theorem keepsFrame_of_fault
    (fault : ActionFault) :
    KeepsFrame patterns context action
      (resultOf action (.error fault), context) where
  fixed_eq := rfl
  unsuccessful _ := rfl
  unwritten _ _ := rfl
  written hSuccess := by cases hSuccess

theorem keeping_returned
    {activity : Activity TaskResult}
    {finished : TaskResult × Context}
    (hEnding :
      (keeping context activity start).ending =
        .returned finished) :
    finished.2 = context := by
  rcases Activity.returned_of_andThen_done hEnding with
    ⟨outcome, _, rfl⟩
  rfl

theorem runStore_keepsFrame
    {task : StoreTask}
    (hTask :
      Task.ofConfig action.kind
        (filledConfig action context) = .ok (.store task)) :
    KeepsFrame patterns context action
      (concluded action (runStore task context)) := by
  unfold runStore
  split
  · exact keepsFrame_of_same rfl
  · refine keepsFrame_concluded rfl ?_ ?_
    · intro hFailed
      cases hFailed
    · intro name hName
      have hNe : name ≠ task.key := by
        rintro rfl
        exact hName (.store hTask)
      rw [Context.valueOf?_setVariable, if_neg hNe]

/- A branch fails just when the selected action does. -/
theorem branchFinished_isSuccess
    (verdict : Bool)
    (finished : ActionResult × Context) :
    (resultOf action (branchFinished verdict finished).1).isSuccess =
      !finished.1.isFailed := by
  unfold branchFinished branchResult resultOf
  cases hFailed : finished.1.isFailed <;> simp [hFailed] <;> rfl

theorem branchFinished_keepsFrame
    {task : BranchTask}
    {selected : Action}
    {finished : ActionResult × Context}
    (hTask :
      Task.ofConfig action.kind
        (filledConfig action context) = .ok (.branch task))
    (hSelected : task.selected? patterns context = some selected)
    (hFinished : KeepsFrame patterns context selected finished)
    (verdict : Bool) :
    KeepsFrame patterns context action
      (concluded action (branchFinished verdict finished)) := by
  refine keepsFrame_concluded hFinished.fixed_eq ?_ ?_
  · intro hResult
    apply hFinished.unsuccessful
    rw [branchFinished_isSuccess] at hResult
    cases hStatus : finished.1.status <;>
      simp_all [ActionResult.isFailed, ActionResult.isSuccess]
  · intro name hName
    exact hFinished.unwritten name fun hInner =>
      hName (.branch hTask hSelected hInner)

------------------------------------------------------------
-- Actions
------------------------------------------------------------

theorem runTask_keepsFrame
    {execute :
      Action → Context → Activity (ActionResult × Context)}
    {task : Task}
    {finished : TaskResult × Context}
    (hTask :
      Task.ofConfig action.kind
        (filledConfig action context) = .ok task)
    (hExecute :
      ∀ selected start finished,
        (execute selected context start).ending =
            .returned finished →
          KeepsFrame engine.patterns context selected finished)
    (hEnding :
      (engine.runTask runChild scope execute task context
        start).ending = .returned finished) :
    KeepsFrame engine.patterns context action
      (concluded action finished) := by
  cases task with
  | model task =>
      exact keepsFrame_of_same (keeping_returned hEnding)
  | notice task =>
      exact keepsFrame_of_same (keeping_returned hEnding)
  | webhook request =>
      exact keepsFrame_of_same (keeping_returned hEnding)
  | store task =>
      cases hEnding
      exact runStore_keepsFrame hTask
  | transform task =>
      cases hEnding
      exact keepsFrame_of_same rfl
  | branch task =>
      cases hSelected : task.selected? engine.patterns context with
      | none =>
          rw [runTask, runBranch_of_none hSelected] at hEnding
          cases hEnding
          exact keepsFrame_of_same rfl
      | some selected =>
          rw [runTask, runBranch_of_selected hSelected]
            at hEnding
          rcases Activity.returned_of_andThen_done hEnding with
            ⟨inner, hInner, rfl⟩
          exact branchFinished_keepsFrame hTask hSelected
            (hExecute selected start inner hInner) _
  | rule task =>
      exact keepsFrame_of_same (keeping_returned hEnding)
  | unsupported type =>
      cases hEnding
      exact keepsFrame_of_same rfl

/- What an action without a deadline changes. -/
theorem executeWithin_keepsFrame
    {depth : Nat}
    {finished : ActionResult × Context}
    (hEnding :
      (engine.executeWithin runChild scope depth action context
        start).ending = .returned finished) :
    KeepsFrame engine.patterns context action finished := by
  induction depth generalizing action start finished with
  | zero =>
      cases hEnding
      exact keepsFrame_of_fault _
  | succ depth ih =>
      cases hTask :
          Task.ofConfig action.kind
            (filledConfig action context) with
      | error fault =>
          rw [executeWithin_of_fault depth hTask] at hEnding
          cases hEnding
          exact keepsFrame_of_fault fault
      | ok task =>
          rw [executeWithin_of_task depth hTask] at hEnding
          rcases Activity.returned_of_andThen_done hEnding with
            ⟨outcome, hOutcome, rfl⟩
          exact runTask_keepsFrame hTask
            (fun _ _ _ hInner => ih hInner) hOutcome

/- What an action within its deadline changes. -/
theorem dispatch_keepsFrame
    {finished : ActionResult × Context}
    (hEnding :
      (engine.dispatch runChild scope action context
        start).ending = .returned finished) :
    KeepsFrame engine.patterns context action finished := by
  cases hCut :
      cutSteps? scope.deadline
        (engine.execute runChild scope action context
          start).steps with
  | some left =>
      rw [dispatch_of_cut hCut] at hEnding
      cases hEnding
      exact keepsFrame_of_fault _
  | none =>
      rw [dispatch_of_uncut hCut] at hEnding
      exact executeWithin_keepsFrame hEnding

------------------------------------------------------------
-- Other Rules
------------------------------------------------------------

/- Of the context, the run of another rule sees the input alone. -/
theorem runRule_of_input_eq
    {other : Context}
    (task : RuleTask)
    (hInput : other.input = context.input) :
    engine.runRule runChild scope task other =
      engine.runRule runChild scope task context := by
  unfold runRule
  rw [hInput]

end Engine

/- An ending without the context that is left. -/
def Ending.result
    {α : Type} :
    Ending (α × Context) → Ending α
  | .returned (a, _) => .returned a
  | .crashed crash => .crashed crash

theorem Activity.andThen_done_result
    {α β : Type}
    (first : Activity α)
    (f : α → β × Context)
    (start : Nat) :
    (first.andThen (fun a => done (f a)) start).ending.result =
      (first.andThen (fun a => done (f a).1) start).ending := by
  cases hEnding : (first start).ending with
  | returned a =>
      simp [andThen_apply_of_returned hEnding, Ending.result]
  | crashed crash =>
      simp [andThen_apply_of_crashed hEnding, Ending.result]

namespace Course

variable {α : Type}

/- The same steps and the same ending, whatever the contexts are. -/
def Alike
    (first second : Course α) : Prop :=
  first.steps.map Prod.fst = second.steps.map Prod.fst ∧
    first.ending = second.ending

theorem ofEpisode_ending
    (context : Context)
    (episode : Episode (α × Context)) :
    (ofEpisode context episode).ending =
      episode.ending.result := by
  unfold ofEpisode Ending.result
  cases episode.ending <;> rfl

theorem ofEpisode_of_returned
    {context : Context}
    {episode : Episode (α × Context)}
    {a : α}
    (hEnding :
      (ofEpisode context episode).ending = .returned a) :
    episode.ending =
      .returned (a, (ofEpisode context episode).context) := by
  unfold ofEpisode at *
  cases hEpisode : episode.ending with
  | returned finished =>
      rw [hEpisode] at hEnding
      cases hEnding
      rfl
  | crashed crash =>
      rw [hEpisode] at hEnding
      cases hEnding

theorem ofEpisode_of_crashed
    {context : Context}
    {episode : Episode (α × Context)}
    {crash : Crash}
    (hEnding :
      (ofEpisode context episode).ending = .crashed crash) :
    (ofEpisode context episode).context = context := by
  unfold ofEpisode at *
  cases hEpisode : episode.ending with
  | returned finished =>
      rw [hEpisode] at hEnding
      cases hEnding
  | crashed crash => rfl

theorem ofEpisode_alike
    {context other : Context}
    {first second : Episode (α × Context)}
    (hSteps : first.steps = second.steps)
    (hResult : first.ending.result = second.ending.result) :
    (ofEpisode context first).Alike (ofEpisode other second) := by
  refine ⟨?_, ?_⟩
  · rw [ofEpisode_steps, ofEpisode_steps, hSteps, List.map_map,
      List.map_map]
    rfl
  · rw [ofEpisode_ending, ofEpisode_ending, hResult]

end Course

namespace Engine

variable {engine : Engine}
variable {runChild : RunChild}
variable {scope : Scope}
variable {context other : Context}
variable {action : Action}

/- An action that starts another rule, on contexts with one input. -/
theorem executeWithin_of_input_eq
    (engine : Engine)
    (runChild : RunChild)
    (scope : Scope)
    {task : RuleTask}
    (hTask :
      Task.ofConfig action.kind
        (filledConfig action context) = .ok (.rule task))
    (hConfig :
      filledConfig action other = filledConfig action context)
    (hInput : other.input = context.input)
    (depth start : Nat) :
    (engine.executeWithin runChild scope depth action other
          start).steps =
        (engine.executeWithin runChild scope depth action
          context start).steps ∧
      (engine.executeWithin runChild scope depth action other
          start).ending.result =
        (engine.executeWithin runChild scope depth action
          context start).ending.result := by
  cases depth with
  | zero => exact ⟨rfl, rfl⟩
  | succ depth =>
      have hOther :
          Task.ofConfig action.kind
            (filledConfig action other) = .ok (.rule task) := by
        rw [hConfig, hTask]
      rw [executeWithin_of_rule depth hTask,
        executeWithin_of_rule depth hOther,
        runRule_of_input_eq task hInput]
      refine ⟨?_, ?_⟩
      · rw [Activity.andThen_steps_of_still (fun _ _ => rfl),
          Activity.andThen_steps_of_still (fun _ _ => rfl)]
      · rw [Activity.andThen_done_result,
          Activity.andThen_done_result]
        rfl

/- The deadline plays no part in what an action sees. -/
theorem dispatch_of_execute_eq
    {start : Nat}
    (hSteps :
      (engine.execute runChild scope action other start).steps =
        (engine.execute runChild scope action context
          start).steps)
    (hResult :
      (engine.execute runChild scope action other
          start).ending.result =
        (engine.execute runChild scope action context
          start).ending.result) :
    (engine.dispatch runChild scope action other start).steps =
        (engine.dispatch runChild scope action context
          start).steps ∧
      (engine.dispatch runChild scope action other
          start).ending.result =
        (engine.dispatch runChild scope action context
          start).ending.result := by
  cases hCut :
      cutSteps? scope.deadline
        (engine.execute runChild scope action context
          start).steps with
  | some left =>
      rw [dispatch_of_cut hCut,
        dispatch_of_cut (hSteps ▸ hCut)]
      exact ⟨rfl, rfl⟩
  | none =>
      rw [dispatch_of_uncut hCut,
        dispatch_of_uncut (hSteps ▸ hCut)]
      exact ⟨hSteps, hResult⟩

------------------------------------------------------------
-- Actions On A Shared Context
------------------------------------------------------------

/-
  What an action does to the context that it works on, which it shares with
  everything that waits for it.
-/
structure ActsAtomically
    (engine : Engine)
    (runChild : RunChild)
    (scope : Scope)
    (action : Action)
    (context : Context)
    (start : Nat) : Prop where
  /- It is the action that runs carry out. -/
  dispatch_eq :
    engine.dispatchInPlace runChild scope action context
        start =
      .ofEpisode context
        (engine.dispatch runChild scope action context start)
  /- Nothing is written as long as there is something to wait for. -/
  waiting :
    ∀ step ∈
        (engine.dispatchInPlace runChild scope action context
          start).steps,
      step.2 = context
  fixed_eq :
    (engine.dispatchInPlace runChild scope action context
      start).context.fixed = context.fixed
  /- An action that fails or is not supported changes nothing. -/
  unsuccessful :
    ∀ result,
      (engine.dispatchInPlace runChild scope action context
          start).ending = .returned result →
        result.status ≠ .success →
          (engine.dispatchInPlace runChild scope action context
            start).context = context
  /- One that succeeds writes its output, and what it may write. -/
  successful :
    ∀ result,
      (engine.dispatchInPlace runChild scope action context
          start).ending = .returned result →
        result.status = .success →
          (∀ name,
            ¬ MayWrite engine.patterns context action name →
              (engine.dispatchInPlace runChild scope action
                  context start).context.valueOf? name =
                context.valueOf? name) ∧
            ∀ name,
              action.target? = some name →
                (engine.dispatchInPlace runChild scope action
                    context start).context.valueOf? name =
                  some result.output
  /- A rule that an action starts changes no variable. -/
  otherRule_changes :
    ∀ task name,
      Task.ofConfig action.kind
          (filledConfig action context) = .ok (.rule task) →
        MayWrite engine.patterns context action name →
          action.target? = some name
  /- Nor does it see one, whether it is started in a branch or not. -/
  otherRule_sees :
    ∀ inner task other,
      Task.ofConfig inner.kind
          (filledConfig inner context) = .ok (.rule task) →
        filledConfig inner other = filledConfig inner context →
          other.input = context.input →
            (engine.dispatchInPlace runChild scope inner other
                start).Alike
                (engine.dispatchInPlace runChild scope inner
                  context start) ∧
              ∀ depth,
                (engine.executeWithinInPlace runChild scope
                    depth inner other start).Alike
                  (engine.executeWithinInPlace runChild scope
                    depth inner context start)

theorem dispatchInPlace_keepsFrame
    {start : Nat}
    {result : ActionResult}
    (hEnding :
      (engine.dispatchInPlace runChild scope action context
        start).ending = .returned result) :
    KeepsFrame engine.patterns context action
      (result,
        (engine.dispatchInPlace runChild scope action context
          start).context) := by
  rw [dispatchInPlace_apply] at hEnding ⊢
  exact dispatch_keepsFrame
    (Course.ofEpisode_of_returned hEnding)

/- The fixed scope is the same after a crash as well. -/
theorem dispatchInPlace_fixed_eq
    (engine : Engine)
    (runChild : RunChild)
    (scope : Scope)
    (action : Action)
    (context : Context)
    (start : Nat) :
    (engine.dispatchInPlace runChild scope action context
      start).context.fixed = context.fixed := by
  cases hEnding :
      (engine.dispatchInPlace runChild scope action context
        start).ending with
  | returned result =>
      exact (dispatchInPlace_keepsFrame hEnding).fixed_eq
  | crashed crash =>
      rw [dispatchInPlace_apply] at hEnding ⊢
      rw [Course.ofEpisode_of_crashed hEnding]

/- On two contexts with one input, started rules come to the same. -/
theorem inPlace_alike_of_input_eq
    {task : RuleTask}
    (hTask :
      Task.ofConfig action.kind
        (filledConfig action context) = .ok (.rule task))
    (hConfig :
      filledConfig action other = filledConfig action context)
    (hInput : other.input = context.input)
    (start : Nat) :
    (engine.dispatchInPlace runChild scope action other
        start).Alike
        (engine.dispatchInPlace runChild scope action context
          start) ∧
      ∀ depth,
        (engine.executeWithinInPlace runChild scope depth
            action other start).Alike
          (engine.executeWithinInPlace runChild scope depth
            action context start) := by
  have hExecute := fun depth =>
    executeWithin_of_input_eq engine runChild scope hTask
      hConfig hInput depth start
  refine ⟨?_, ?_⟩
  · rw [dispatchInPlace_apply, dispatchInPlace_apply]
    have hDispatch :=
      dispatch_of_execute_eq (hExecute _).1 (hExecute _).2
    exact Course.ofEpisode_alike hDispatch.1 hDispatch.2
  · intro depth
    rw [executeWithinInPlace_apply, executeWithinInPlace_apply]
    exact Course.ofEpisode_alike (hExecute depth).1
      (hExecute depth).2

/- Every action acts atomically, whatever is answered and when. -/
theorem actsAtomically
    (engine : Engine)
    (runChild : RunChild)
    (scope : Scope)
    (action : Action)
    (context : Context)
    (start : Nat) :
    ActsAtomically engine runChild scope action context
      start where
  dispatch_eq := dispatchInPlace_apply action context start
  waiting := by
    intro step hStep
    rw [dispatchInPlace_apply, Course.ofEpisode_steps] at hStep
    rcases List.mem_map.mp hStep with ⟨_, _, rfl⟩
    rfl
  fixed_eq := dispatchInPlace_fixed_eq _ _ _ _ _ _
  unsuccessful := by
    intro result hEnding hStatus
    have hFrame := dispatchInPlace_keepsFrame hEnding
    apply hFrame.unsuccessful
    simpa [ActionResult.isSuccess] using hStatus
  successful := by
    intro result hEnding hStatus
    have hFrame := dispatchInPlace_keepsFrame hEnding
    refine ⟨hFrame.unwritten, hFrame.written ?_⟩
    simpa [ActionResult.isSuccess] using hStatus
  otherRule_changes := by
    intro task name hTask hName
    exact hName.target_of_rule hTask
  otherRule_sees := by
    intro inner task other hTask hConfig hInput
    exact inPlace_alike_of_input_eq hTask hConfig hInput start

end Engine

end Automation
