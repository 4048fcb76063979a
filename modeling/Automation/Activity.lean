import Automation.Scope

/-
  Activities: work that takes time and calls on collaborators.

  Time is counted in milliseconds and passes only while a collaborator is
  awaited.  An activity that is started at some time runs through an
  episode: the steps it takes, and how it ends.  Activities that run side
  by side are the branches of one step; a branch stays part of the step
  when the activity that waits for it is cut short.  A run of a rule says
  when it starts and when it ends.

  Key definitions include:
    * `Step`, `Episode` and `Activity`
    * `Activity.perform`, a call to a collaborator
    * `Activity.announced`, a run that says when it starts and ends
    * `Activity.within`, an activity with a deadline
    * `Activity.fanOut`, activities side by side
-/

namespace Automation

------------------------------------------------------------
-- Steps
------------------------------------------------------------

/-
  A wait that ends at `resume`.  A wait is `cut` when a deadline ends it,
  and not what was waited for.
-/
structure Pause where
  resume : Nat
  cut : Bool
deriving DecidableEq, Inhabited

/- A point in the life of a run: its rule, and the scope it runs under. -/
inductive Milestone where
  | started (rule : String) (scope : Scope)
  | ended (rule : String) (scope : Scope)
deriving DecidableEq, Inhabited

/-
  A call at a time, answered at `due`, and the wait for the answer if there
  is any; a milestone that is reached; or branches that start when one of a
  number of permits is free, and the wait for all of them.
-/
inductive Step where
  | call (time : Nat) (call : Call) (due : Nat) (pause? : Option Pause)
  | milestone (time : Nat) (milestone : Milestone)
  | fan
      (time permits deadline : Nat)
      (branches : List (Nat × List Step))
      (pause : Pause)
deriving Inhabited

namespace Pause

/- The wait ended by a deadline. -/
def cutAt
    (time deadline : Nat) :
    Pause :=
  ⟨max deadline time, true⟩

/-
  Whether a deadline ends the wait.  A wait that is over at the deadline is
  not cut, unless `strict` says that the deadline comes first.
-/
def overruns
    (time deadline : Nat)
    (strict : Bool)
    (pause : Pause) :
    Bool :=
  if pause.cut || !strict then
    time < pause.resume ∧ deadline < pause.resume
  else deadline ≤ pause.resume

end Pause

namespace Step

/- The time at which the step is over, if it takes any. -/
def resume? : Step → Option Nat
  | .call _ _ _ pause? => pause?.map (·.resume)
  | .milestone _ _ => none
  | .fan _ _ _ _ pause => some pause.resume

/-
  The step with its wait ended by a deadline, if the deadline comes before
  the end of the wait.  Branches that end at the deadline come too late.
-/
def cut?
    (deadline : Nat) :
    Step → Option Step
  | .call time c due (some pause) =>
      if pause.overruns time deadline false then
        some (.call time c due (some (.cutAt time deadline)))
      else none
  | .call _ _ _ none => none
  | .milestone _ _ => none
  | .fan time permits limit branches pause =>
      if pause.overruns time deadline true then
        some (.fan time permits limit branches (.cutAt time deadline))
      else none

end Step

/- The time at which steps taken from a start are over. -/
def finishOf
    (start : Nat)
    (steps : List Step) :
    Nat :=
  steps.foldl (fun time step => step.resume?.getD time) start

/- The steps up to the first that a deadline ends, if it ends any. -/
def cutSteps?
    (deadline : Nat) :
    List Step → Option (List Step)
  | [] => none
  | step :: rest =>
      match step.cut? deadline with
      | some last => some [last]
      | none => (cutSteps? deadline rest).map (step :: ·)

------------------------------------------------------------
-- Episodes And Activities
------------------------------------------------------------

inductive Ending (α : Type) where
  | returned (value : α)
  | crashed (crash : Crash)
deriving Inhabited

structure Episode (α : Type) where
  steps : List Step
  ending : Ending α
deriving Inhabited

/- What happens when the work is started at a time. -/
def Activity (α : Type) : Type := Nat → Episode α

namespace Activity

variable {α β : Type}

instance [Inhabited α] : Inhabited (Activity α) :=
  ⟨fun _ => default⟩

def done
    (a : α) :
    Activity α :=
  fun _ => ⟨[], .returned a⟩

/- Work that crashes before it does anything. -/
def crash
    (crash : Crash) :
    Activity α :=
  fun _ => ⟨[], .crashed crash⟩

/- Go on with the value of an activity, unless it crashes. -/
def andThen
    (first : Activity α)
    (next : α → Activity β) :
    Activity β :=
  fun start =>
    let earlier := first start
    match earlier.ending with
    | .crashed crash => ⟨earlier.steps, .crashed crash⟩
    | .returned a =>
        let later := next a (finishOf start earlier.steps)
        ⟨earlier.steps ++ later.steps, later.ending⟩

instance : Monad Activity where
  pure := done
  bind := andThen

/- The present time. -/
def now : Activity Nat :=
  fun start => ⟨[], .returned start⟩

------------------------------------------------------------
-- Calls
------------------------------------------------------------

/- Make a call and wait for the reply to a call at this time. -/
def perform
    (call : Call)
    (replyAt : (time : Nat) → Reply α) :
    Activity (Except CollaboratorFault α) :=
  fun start =>
    let reply := replyAt start
    let due := start + reply.delay
    let pause? := if reply.delay = 0 then none else some ⟨due, false⟩
    let ending :=
      match reply.outcome with
      | .answered a => .returned (.ok a)
      | .failed fault => .returned (.error fault)
      | .crashed crash => .crashed crash
    ⟨[.call start call due pause?], ending⟩

------------------------------------------------------------
-- Milestones
------------------------------------------------------------

def reach
    (milestone : Milestone) :
    Activity Unit :=
  fun start => ⟨[.milestone start milestone], .returned ()⟩

/- A run with the milestones of its start and of its end. -/
def announced
    (rule : String)
    (scope : Scope)
    (run : Activity α) :
    Activity α := do
  reach (.started rule scope)
  let value ← run
  reach (.ended rule scope)
  return value

------------------------------------------------------------
-- Deadlines And Crashes
------------------------------------------------------------

/- The value of an activity, if it has one by the deadline. -/
def within
    (deadline : Nat)
    (activity : Activity α) :
    Activity (Option α) :=
  fun start =>
    let episode := activity start
    match cutSteps? deadline episode.steps with
    | some steps => ⟨steps, .returned none⟩
    | none =>
        let ending :=
          match episode.ending with
          | .returned a => .returned (some a)
          | .crashed crash => .crashed crash
        ⟨episode.steps, ending⟩

/- The way an activity ends, as its value. -/
def settled
    (activity : Activity α) :
    Activity (Ending α) :=
  fun start =>
    let episode := activity start
    ⟨episode.steps, .returned episode.ending⟩

------------------------------------------------------------
-- Activities Side By Side
------------------------------------------------------------

/- The least of some times. -/
def earliest : List Nat → Nat
  | [] => 0
  | [t] => t
  | t :: ts => min t (earliest ts)

/- Put another time in the place of the first that equals a given one. -/
def replaceFirst
    (old new : Nat) :
    List Nat → List Nat
  | [] => []
  | t :: ts => if t = old then new :: ts else t :: replaceFirst old new ts

/-
  The episodes of activities that start in order, each as soon as a permit
  is free.  The list `free` has the time from which each permit is free.
-/
def schedule :
    (free : List Nat) → List (Activity α) → List (Nat × Episode α)
  | _, [] => []
  | free, activity :: rest =>
      let start := earliest free
      let episode := activity start
      let finish := finishOf start episode.steps
      (start, episode) :: schedule (replaceFirst start finish free) rest

/- The time at which the last of some episodes is over. -/
def lastFinish
    (start : Nat)
    (branches : List (Nat × Episode α)) :
    Nat :=
  branches.foldl
    (fun time (start, episode) => max time (finishOf start episode.steps))
    start

/- Run activities side by side under a number of permits, and wait. -/
def fanOut
    (permits deadline : Nat)
    (activities : List (Activity α)) :
    Activity (List (Ending α)) :=
  fun start =>
    if activities.isEmpty then ⟨[], .returned []⟩
    else
      let branches := schedule (List.replicate permits start) activities
      let steps := branches.map fun (start, episode) =>
        (start, episode.steps)
      let pause := ⟨lastFinish start branches, false⟩
      ⟨[.fan start permits deadline steps pause],
        .returned (branches.map fun (_, episode) => episode.ending)⟩

end Activity

end Automation
