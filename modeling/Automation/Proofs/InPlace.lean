import Automation.Engine.Run
import Automation.Proofs.Tasks

/-
  Actions that write to a context that they share.

  Actions may also be told as they read and write one context, which their
  run, the branches around them and the deadline share with them.  Each
  step is then taken with the context that there is at the time, and what
  is cut short leaves the context as it is at that step.  An action writes
  only when it has nothing left to wait for, so this comes to the same as
  to hand on a new context at the end.

  Key definitions include:
    * `Course` and `InPlace`, work on a shared context
    * `Course.ofEpisode`, work that writes only when it is over
    * `Engine.dispatchInPlace`, an action on a shared context
    * `Engine.runSequentialInPlace`, actions one after the other
    * `Engine.runParallelInPlace`, actions on copies of the context

  Key theorems include:
    * `Engine.dispatchInPlace_apply`, an action writes when it is over
    * `Engine.runParallelInPlace_apply`, copies are written instead
-/

namespace Automation

------------------------------------------------------------
-- Courses
------------------------------------------------------------

/-
  The steps that are taken, each with the context at the time, how the work
  ends, and the context that it leaves.
-/
structure Course (α : Type) where
  steps : List (Step × Context)
  ending : Ending α
  context : Context

/- What happens when work is started on a context at a time. -/
def InPlace (α : Type) : Type :=
  Context → Nat → Course α

namespace Course

variable {α : Type}

/- Work that leaves the context alone until it is over. -/
def ofEpisode
    (context : Context)
    (episode : Episode (α × Context)) :
    Course α :=
  let steps := episode.steps.map fun step => (step, context)
  match episode.ending with
  | .returned (a, after) => ⟨steps, .returned a, after⟩
  | .crashed crash => ⟨steps, .crashed crash, context⟩

/-
  The steps that are taken, and what the work hands on with its context.
-/
def episode
    (course : Course α) :
    Episode (α × Context) :=
  let ending :=
    match course.ending with
    | .returned a => .returned (a, course.context)
    | .crashed crash => .crashed crash
  ⟨course.steps.map Prod.fst, ending⟩

/-
  The steps up to the first that a deadline ends, if it ends any, and the
  context at the time.
-/
def cutSteps?
    (deadline : Nat) :
    List (Step × Context) →
      Option (List (Step × Context) × Context)
  | [] => none
  | (step, context) :: rest =>
      match step.cut? deadline with
      | some last => some ([(last, context)], context)
      | none =>
          (cutSteps? deadline rest).map fun cut =>
            ((step, context) :: cut.1, cut.2)

end Course

------------------------------------------------------------
-- Work In Place
------------------------------------------------------------

namespace InPlace

variable {α β : Type}

def done
    (a : α) :
    InPlace α :=
  fun context _ => ⟨[], .returned a, context⟩

/- Go on where earlier work has left the context, unless it crashes. -/
def andThen
    (first : InPlace α)
    (next : α → InPlace β) :
    InPlace β :=
  fun context start =>
    let earlier := first context start
    match earlier.ending with
    | .crashed crash =>
        ⟨earlier.steps, .crashed crash, earlier.context⟩
    | .returned a =>
        let finish := finishOf start (earlier.steps.map Prod.fst)
        let later := next a earlier.context finish
        ⟨earlier.steps ++ later.steps, later.ending,
          later.context⟩

instance : Monad InPlace where
  pure := done
  bind := andThen

/- The context as it is. -/
def present : InPlace Context :=
  fun context _ => ⟨[], .returned context, context⟩

/- The present time. -/
def now : InPlace Nat :=
  fun context start => ⟨[], .returned start, context⟩

def write
    (change : Context → Context) :
    InPlace Unit :=
  fun context _ => ⟨[], .returned (), change context⟩

/- An activity that knows nothing of the context. -/
def leaving
    (activity : Activity α) :
    InPlace α :=
  fun context start =>
    let episode := activity start
    ⟨episode.steps.map fun step => (step, context),
      episode.ending, context⟩

/- Work on a copy of a context, which nothing else reads or writes. -/
def onCopy
    (work : InPlace α)
    (copy : Context) :
    Activity (α × Context) :=
  fun start => (work copy start).episode

/- What is cut short leaves the context as it is then. -/
def within
    (deadline : Nat)
    (work : InPlace α) :
    InPlace (Option α) :=
  fun context start =>
    let course := work context start
    match Course.cutSteps? deadline course.steps with
    | some (steps, left) => ⟨steps, .returned none, left⟩
    | none =>
        let ending :=
          match course.ending with
          | .returned a => .returned (some a)
          | .crashed crash => .crashed crash
        ⟨course.steps, ending, course.context⟩

end InPlace

------------------------------------------------------------
-- Actions In Place
------------------------------------------------------------

namespace Engine

def runStoreInPlace
    (task : StoreTask) :
    InPlace TaskResult := do
  if Text.isBlankText task.key then
    return .error (.missingField "key")
  else
    InPlace.write fun context =>
      context.setVariable task.key task.value
    return .ok (.success task.document)

def runBranchInPlace
    (patterns : PatternLibrary)
    (execute : Action → InPlace ActionResult)
    (task : BranchTask) :
    InPlace TaskResult := do
  let context ← InPlace.present
  let verdict := task.verdict patterns context
  match task.selected? patterns context with
  | none =>
      return .ok (branchResult verdict (branchName verdict) none)
  | some action =>
      let result ← execute action
      return .ok
        (branchResult verdict (branchName verdict) (some result))

def runTaskInPlace
    (engine : Engine)
    (runChild : RunChild)
    (scope : Scope)
    (execute : Action → InPlace ActionResult)
    (task : Task) :
    InPlace TaskResult := do
  let context ← InPlace.present
  match task with
  | .model task =>
      InPlace.leaving (engine.runModel scope task context)
  | .notice task =>
      InPlace.leaving (engine.runNotice scope task)
  | .webhook request =>
      InPlace.leaving (engine.runWebhook request)
  | .store task => runStoreInPlace task
  | .transform task =>
      return .ok (.success (task.output context))
  | .branch task => runBranchInPlace engine.patterns execute task
  | .rule task =>
      InPlace.leaving
        (engine.runRule runChild scope task context)
  | .unsupported type =>
      return .ok ⟨.unsupported, .null,
        some (ActionResult.unsupportedError type)⟩

/- An action whose branches are nested no deeper than the number. -/
def executeWithinInPlace
    (engine : Engine)
    (runChild : RunChild)
    (scope : Scope) :
    Nat → Action → InPlace ActionResult
  | 0, action =>
      return resultOf action
        (.error (.configuration "branches are nested too deeply"))
  | depth + 1, action => do
      let context ← InPlace.present
      match Task.ofConfig action.kind
          (filledConfig action context) with
      | .error fault => return resultOf action (.error fault)
      | .ok task =>
          let outcome ←
            engine.runTaskInPlace runChild scope
              (executeWithinInPlace engine runChild scope depth)
              task
          let result := resultOf action outcome
          InPlace.write (writeOutput action result)
          return result

def executeInPlace
    (engine : Engine)
    (runChild : RunChild)
    (scope : Scope)
    (action : Action) :
    InPlace ActionResult :=
  engine.executeWithinInPlace runChild scope
    (action.config.depth + 1) action

def dispatchInPlace
    (engine : Engine)
    (runChild : RunChild)
    (scope : Scope)
    (action : Action) :
    InPlace ActionResult := do
  match ← InPlace.within scope.deadline
      (engine.executeInPlace runChild scope action) with
  | some result => return result
  | none =>
      return resultOf action (.error (.timeout scope.budget))

/- Actions in order, each on what the ones before have left. -/
def runSequentialInPlace
    (dispatch : Action → InPlace ActionResult)
    (scope : Scope) :
    List Action → InPlace (List ActionResult × Option String)
  | [] => return ([], none)
  | action :: rest => do
      if scope.isExpired (← InPlace.now) then
        return ([], some (budgetError scope))
      else
        let result ← dispatch action
        if result.isFailed && action.stopsOnFailure then
          return ([result], none)
        else
          let (results, error?) ←
            runSequentialInPlace dispatch scope rest
          return (result :: results, error?)

/- Actions side by side, each on a copy of the context. -/
def runParallelInPlace
    (cap : Nat)
    (dispatch : Action → InPlace ActionResult)
    (scope : Scope)
    (actions : List Action) :
    InPlace (List ActionResult) := do
  let context ← InPlace.present
  let permits := max (min actions.length cap) 1
  let endings ← InPlace.leaving
    (Activity.fanOut permits scope.deadline
      (actions.map fun action =>
        InPlace.onCopy (dispatch action) context))
  return List.zipWith parallelResult actions endings

end Engine

------------------------------------------------------------
-- Writing When It Is Over
------------------------------------------------------------

namespace Course

variable {α : Type}
variable {context : Context}

/- No step sees a context other than the one at the start. -/
theorem ofEpisode_steps
    (context : Context)
    (episode : Episode (α × Context)) :
    (ofEpisode context episode).steps =
      episode.steps.map fun step => (step, context) := by
  unfold ofEpisode
  cases episode.ending <;> rfl

/- Work that writes only when it is over hands on what it writes. -/
theorem ofEpisode_episode
    (context : Context)
    (episode : Episode (α × Context)) :
    (ofEpisode context episode).episode = episode := by
  rcases episode with ⟨steps, ending⟩
  unfold ofEpisode Course.episode
  cases ending <;> simp [Function.comp_def]

/- A deadline that ends a step finds the context as at the start. -/
theorem cutSteps?_map
    (deadline : Nat)
    (context : Context)
    (steps : List Step) :
    cutSteps? deadline
        (steps.map fun step => (step, context)) =
      (Automation.cutSteps? deadline steps).map fun left =>
        (left.map fun step => (step, context), context) := by
  induction steps with
  | nil => rfl
  | cons step rest ih =>
      rw [List.map_cons, cutSteps?, Automation.cutSteps?]
      cases step.cut? deadline with
      | some last => rfl
      | none =>
          simp only [ih, Option.map_map]
          rfl

end Course

namespace InPlace

variable {α β : Type}
variable {context : Context}
variable {start : Nat}

@[simp] theorem pure_eq_done
    (a : α) :
    (pure a : InPlace α) = done a := rfl

@[simp] theorem bind_eq_andThen
    (first : InPlace α)
    (next : α → InPlace β) :
    first >>= next = first.andThen next := rfl

@[simp] theorem present_andThen
    (next : Context → InPlace β) :
    present.andThen next context start =
      next context context start := rfl

@[simp] theorem now_andThen
    (next : Nat → InPlace β) :
    now.andThen next context start =
      next start context start := rfl

theorem leaving_apply
    (activity : Activity TaskResult) :
    leaving activity context start =
      .ofEpisode context
        (Engine.keeping context activity start) := by
  unfold leaving Engine.keeping Course.ofEpisode
  cases hEnding : (activity start).ending with
  | returned a =>
      simp [Activity.andThen_apply_of_returned hEnding, hEnding]
  | crashed crash =>
      simp [Activity.andThen_apply_of_crashed hEnding, hEnding]

/- What is worked out at the end leaves the context alone as well. -/
theorem leaving_andThen_done
    (activity : Activity α)
    (f : α → β) :
    (leaving activity).andThen (fun a => done (f a)) context
        start =
      leaving
        (activity.andThen fun a => Activity.done (f a))
        context start := by
  unfold andThen leaving
  cases hEnding : (activity start).ending with
  | returned a =>
      simp [Activity.andThen_apply_of_returned hEnding, hEnding,
        done]
  | crashed crash =>
      simp [Activity.andThen_apply_of_crashed hEnding, hEnding]

/- Work that goes on where an episode has left the context. -/
theorem andThen_apply_of_returned
    {work : InPlace α}
    {next : α → InPlace β}
    {episode : Episode (α × Context)}
    {a : α}
    {left : Context}
    (hWork : work context start = .ofEpisode context episode)
    (hEnding : episode.ending = .returned (a, left)) :
    work.andThen next context start =
      let later := next a left (finishOf start episode.steps)
      ⟨(episode.steps.map fun step => (step, context)) ++
          later.steps,
        later.ending, later.context⟩ := by
  unfold andThen
  rw [hWork]
  unfold Course.ofEpisode
  simp [hEnding, Function.comp_def]

theorem andThen_done_of_returned
    {work : InPlace α}
    {f : α → β}
    {a : α}
    (hEnding : (work context start).ending = .returned a) :
    work.andThen (fun a => done (f a)) context start =
      ⟨(work context start).steps, .returned (f a),
        (work context start).context⟩ := by
  simp [andThen, done, hEnding]

/- What is worked out and written at the end takes no step. -/
theorem andThen_ofEpisode
    {work : InPlace α}
    {first : Activity (α × Context)}
    {next : α → InPlace β}
    {later : α × Context → β × Context}
    (hWork :
      work context start = .ofEpisode context (first start))
    (hNext :
      ∀ a after time,
        next a after time =
          ⟨[], .returned (later (a, after)).1,
            (later (a, after)).2⟩) :
    work.andThen next context start =
      .ofEpisode context
        (first.andThen
          (fun finished => Activity.done (later finished))
          start) := by
  unfold andThen
  rw [hWork]
  unfold Course.ofEpisode
  cases hEnding : (first start).ending with
  | returned finished =>
      simp [Activity.andThen_apply_of_returned hEnding, hNext]
  | crashed crash =>
      simp [Activity.andThen_apply_of_crashed hEnding]

end InPlace

namespace Engine

variable {engine : Engine}
variable {runChild : RunChild}
variable {scope : Scope}

theorem runStoreInPlace_apply
    (task : StoreTask)
    (context : Context)
    (start : Nat) :
    runStoreInPlace task context start =
      .ofEpisode context
        (Activity.done (runStore task context) start) := by
  unfold runStoreInPlace runStore
  split <;> rfl

theorem runBranchInPlace_apply
    {patterns : PatternLibrary}
    {executeInPlace : Action → InPlace ActionResult}
    {execute :
      Action → Context → Activity (ActionResult × Context)}
    (hExecute :
      ∀ action context start,
        executeInPlace action context start =
          .ofEpisode context (execute action context start))
    (task : BranchTask)
    (context : Context)
    (start : Nat) :
    runBranchInPlace patterns executeInPlace task context start =
      .ofEpisode context
        (runBranch patterns execute task context start) := by
  unfold runBranchInPlace
  simp only [InPlace.bind_eq_andThen, InPlace.present_andThen]
  cases hSelected : task.selected? patterns context with
  | none =>
      rw [runBranch_of_none hSelected]
      rfl
  | some action =>
      rw [runBranch_of_selected hSelected]
      exact InPlace.andThen_ofEpisode
        (hExecute action context start) fun _ _ _ => rfl

theorem runTaskInPlace_apply
    {executeInPlace : Action → InPlace ActionResult}
    {execute :
      Action → Context → Activity (ActionResult × Context)}
    (hExecute :
      ∀ action context start,
        executeInPlace action context start =
          .ofEpisode context (execute action context start))
    (task : Task)
    (context : Context)
    (start : Nat) :
    engine.runTaskInPlace runChild scope executeInPlace task
        context start =
      .ofEpisode context
        (engine.runTask runChild scope execute task context
          start) := by
  unfold runTaskInPlace
  simp only [InPlace.bind_eq_andThen, InPlace.present_andThen]
  cases task with
  | model task => exact InPlace.leaving_apply _
  | notice task => exact InPlace.leaving_apply _
  | webhook request => exact InPlace.leaving_apply _
  | store task => exact runStoreInPlace_apply task context start
  | transform task => rfl
  | branch task =>
      exact runBranchInPlace_apply hExecute task context start
  | rule task => exact InPlace.leaving_apply _
  | unsupported type => rfl

theorem executeWithinInPlace_apply
    (depth : Nat)
    (action : Action)
    (context : Context)
    (start : Nat) :
    engine.executeWithinInPlace runChild scope depth action
        context start =
      .ofEpisode context
        (engine.executeWithin runChild scope depth action
          context start) := by
  induction depth generalizing action context start with
  | zero => rfl
  | succ depth ih =>
      unfold executeWithinInPlace
      simp only [InPlace.bind_eq_andThen,
        InPlace.present_andThen]
      cases hTask :
          Task.ofConfig action.kind
            (filledConfig action context) with
      | error fault =>
          rw [executeWithin_of_fault depth hTask]
          rfl
      | ok task =>
          rw [executeWithin_of_task depth hTask]
          exact InPlace.andThen_ofEpisode
            (runTaskInPlace_apply ih task context start)
            fun _ _ _ => rfl

/-
  An action reads and writes its context when it is over, and not at all
  when it is cut short.
-/
theorem dispatchInPlace_apply
    (action : Action)
    (context : Context)
    (start : Nat) :
    engine.dispatchInPlace runChild scope action context
        start =
      .ofEpisode context
        (engine.dispatch runChild scope action context
          start) := by
  have hExecute :
      engine.executeInPlace runChild scope action context
          start =
        .ofEpisode context
          (engine.execute runChild scope action context
            start) :=
    executeWithinInPlace_apply _ action context start
  have hCourse :=
    Course.cutSteps?_map scope.deadline context
      (engine.execute runChild scope action context start).steps
  rw [← Course.ofEpisode_steps, ← hExecute] at hCourse
  unfold dispatchInPlace
  simp only [InPlace.bind_eq_andThen, InPlace.andThen,
    InPlace.within, hCourse]
  cases hCut :
      cutSteps? scope.deadline
        (engine.execute runChild scope action context
          start).steps with
  | some left =>
      rw [dispatch_of_cut hCut]
      simp [Course.ofEpisode, InPlace.done]
  | none =>
      rw [dispatch_of_uncut hCut, hExecute]
      unfold Course.ofEpisode
      cases (engine.execute runChild scope action context
          start).ending <;>
        simp [InPlace.done]

/-
  Actions side by side write to their copies: the context that they are
  copies of is the same at every step, and afterwards.
-/
theorem runParallelInPlace_apply
    (cap : Nat)
    (actions : List Action)
    (context : Context)
    (start : Nat) :
    runParallelInPlace cap
        (engine.dispatchInPlace runChild scope) scope actions
        context start =
      let run :=
        runParallel cap (engine.dispatch runChild scope) scope
          actions context start
      ⟨run.steps.map fun step => (step, context), run.ending,
        context⟩ := by
  have hCopies :
      (fun action =>
          InPlace.onCopy
            (engine.dispatchInPlace runChild scope action)
            context) =
        fun action =>
          engine.dispatch runChild scope action context := by
    funext action time
    unfold InPlace.onCopy
    rw [dispatchInPlace_apply, Course.ofEpisode_episode]
  unfold runParallelInPlace runParallel
  simp only [InPlace.bind_eq_andThen, InPlace.present_andThen,
    hCopies]
  exact InPlace.leaving_andThen_done _ _

end Engine

end Automation
