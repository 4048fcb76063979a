import Automation.Activity

/-
  The order of calls among activities that run side by side.

  The steps of an activity, and those of the branches it starts, are taken
  on one thread.  The activity that everything started from goes first
  whenever it can go on; the branches take turns in the order in which
  they became able to go on.  Waits that end at the same time end in the
  order in which they began.  A branch whose activity was cut short goes
  on when the thread is free.

  Key definitions include:
    * `Journal`, what was called and who waits for what
    * `Journal.follow`, which takes the steps of an activity
    * `Journal.advance`, which lets time pass
-/

namespace Automation

------------------------------------------------------------
-- Strands
------------------------------------------------------------

/- What a strand waits for. -/
inductive Waiting where
  | turn
  | permit
  | answer (resume : Nat)
  | branches (group : Nat) (pause : Pause)
  | finished
deriving DecidableEq, Inhabited

/- The remaining steps of an activity or of one of its branches. -/
structure Strand where
  steps : List Step
  waiting : Waiting
  /- The model call that the strand waits for. -/
  asksModel : Bool
  /- The branches it belongs to, and its position among them. -/
  group? : Option (Nat × Nat)
  deadline : Nat
  hasAlarm : Bool
deriving Inhabited

/- Branches that share permits, and the strand that waits for them. -/
structure Group where
  free : Nat
  queue : List Nat
  finished : List Bool
  joiner : Nat
  awaiting : Nat
deriving DecidableEq, Inhabited

/- A strand to be woken at a time; an alarm lasts as long as the strand. -/
structure Timer where
  due : Nat
  strand : Nat
  alarm : Bool
deriving DecidableEq, Inhabited

/-
  Strand 0 is the one that everything started from.  `draining` says that
  it had its turn, and `woken` that it can go on.
-/
structure Journal where
  time : Nat
  strands : List Strand
  groups : List Group
  ready : List Nat
  timers : List Timer
  woken : Bool
  draining : Bool
  calls : List Call
  inFlight : Nat
  peak : Nat
deriving Inhabited

namespace Journal

/- No steps taken yet. -/
def empty : Journal where
  time := 0
  strands :=
    [{ steps := []
       waiting := .finished
       asksModel := false
       group? := none
       deadline := 0
       hasAlarm := false }]
  groups := []
  ready := []
  timers := []
  woken := false
  draining := false
  calls := []
  inFlight := 0
  peak := 0

------------------------------------------------------------
-- Waking And Waiting
------------------------------------------------------------

def strand
    (j : Journal)
    (id : Nat) :
    Strand :=
  j.strands.getD id default

def setStrand
    (j : Journal)
    (id : Nat)
    (s : Strand) :
    Journal :=
  { j with strands := j.strands.set id s }

def group
    (j : Journal)
    (id : Nat) :
    Group :=
  j.groups.getD id default

def setGroup
    (j : Journal)
    (id : Nat)
    (g : Group) :
    Journal :=
  { j with groups := j.groups.set id g }

/- Let a strand go on when its turn comes. -/
def wake
    (j : Journal)
    (id : Nat) :
    Journal :=
  if id = 0 then { j with woken := true }
  else if j.ready.contains id then j
  else { j with ready := j.ready ++ [id] }

def addTimer
    (j : Journal)
    (timer : Timer) :
    Journal :=
  { j with timers := j.timers ++ [timer] }

/- The alarm for the deadline of a strand, when it first waits. -/
def addAlarm
    (j : Journal)
    (id : Nat)
    (resume : Nat) :
    Journal :=
  let s := j.strand id
  if id = 0 then j.addTimer ⟨resume, id, false⟩
  else if s.hasAlarm then j
  else
    (j.setStrand id { s with hasAlarm := true }).addTimer
      ⟨s.deadline, id, true⟩

/- Drop the timers of a strand that no longer waits. -/
def dropTimers
    (j : Journal)
    (id : Nat)
    (alarms : Bool) :
    Journal :=
  { j with
    timers := j.timers.filter fun timer =>
      timer.strand ≠ id || (timer.alarm && !alarms) }

------------------------------------------------------------
-- Calls
------------------------------------------------------------

def isModelCall : Call → Bool
  | .model _ => true
  | _ => false

/- Note a call that is made. -/
def note
    (j : Journal)
    (call : Call) :
    Journal :=
  let inFlight := if isModelCall call then j.inFlight + 1 else j.inFlight
  { j with
    calls := j.calls ++ [call]
    inFlight := inFlight
    peak := max j.peak inFlight }

/- A model call is over. -/
def release
    (j : Journal)
    (asksModel : Bool) :
    Journal :=
  if asksModel then { j with inFlight := j.inFlight - 1 } else j

------------------------------------------------------------
-- Branches
------------------------------------------------------------

/- Start the branches of a group, which then take their turns. -/
def spawn
    (group deadline : Nat) :
    (position : Nat) → List (Nat × List Step) → Journal → Journal
  | _, [], j => j
  | position, (_, steps) :: rest, j =>
      let branch : Strand :=
        { steps := steps
          waiting := .turn
          asksModel := false
          group? := some (group, position)
          deadline := deadline
          hasAlarm := false }
      let id := j.strands.length
      spawn group deadline (position + 1) rest
        ({ j with strands := j.strands ++ [branch] }.wake id)

/-
  A strand has taken its last step: its permit goes to the first strand in
  the queue, and the strand that waits for this one can go on.
-/
def finish
    (j : Journal)
    (id : Nat) :
    Journal :=
  let s := j.strand id
  let j := (j.setStrand id { s with steps := [], waiting := .finished })
  let j := j.dropTimers id true
  match s.group? with
  | none => j
  | some (groupId, position) =>
      let g := j.group groupId
      let g := { g with finished := g.finished.set position true }
      let j :=
        match g.queue with
        | [] => j.setGroup groupId { g with free := g.free + 1 }
        | next :: rest =>
            (j.setGroup groupId { g with queue := rest }).wake next
      if g.awaiting = position then j.wake g.joiner else j

------------------------------------------------------------
-- Taking Steps
------------------------------------------------------------

/- Take steps up to the first wait. -/
def proceed
    (id : Nat) :
    List Step → Journal → Journal
  | [], j => j.finish id
  | .call _ call due pause? :: rest, j =>
      let asksModel := isModelCall call
      let j := j.note call
      match pause? with
      | none => proceed id rest (j.release asksModel)
      | some pause =>
          if pause.resume ≤ j.time then
            proceed id rest (j.release asksModel)
          else
            let j := j.setStrand id
              { j.strand id with
                steps := rest
                waiting := .answer pause.resume
                asksModel := asksModel }
            (j.addTimer ⟨due, id, false⟩).addAlarm id pause.resume
  | .milestone _ _ :: rest, j => proceed id rest j
  | .fan _ permits deadline branches pause :: rest, j =>
      let groupId := j.groups.length
      let g : Group :=
        { free := permits
          queue := []
          finished := branches.map fun _ => false
          joiner := id
          awaiting := 0 }
      let j := { j with groups := j.groups ++ [g] }
      let j := spawn groupId deadline 0 branches j
      if pause.cut && pause.resume ≤ j.time then proceed id rest j
      else
        let j := j.setStrand id
          { j.strand id with
            steps := rest
            waiting := .branches groupId pause
            asksModel := false }
        if pause.cut || id ≠ 0 then j.addAlarm id pause.resume else j

/- The first branch of a group that is not finished. -/
def firstUnfinished
    (g : Group) :
    Nat :=
  (g.finished.findIdx? fun finished => !finished).getD g.finished.length

/- Give a strand its turn. -/
def poll
    (j : Journal)
    (id : Nat) :
    Journal :=
  let s := j.strand id
  match s.waiting with
  | .finished => j
  | .permit => proceed id s.steps j
  | .turn =>
      match s.group? with
      | none => proceed id s.steps j
      | some (groupId, _) =>
          let g := j.group groupId
          if g.free = 0 then
            (j.setGroup groupId
                { g with queue := g.queue ++ [id] }).setStrand id
              { s with waiting := .permit }
          else
            proceed id s.steps
              (j.setGroup groupId { g with free := g.free - 1 })
  | .answer resume =>
      if resume ≤ j.time then
        proceed id s.steps
          ((j.release s.asksModel).dropTimers id false)
      else j
  | .branches groupId pause =>
      let g := j.group groupId
      let next := firstUnfinished g
      let j := j.setGroup groupId { g with awaiting := next }
      let isOver :=
        if pause.cut then pause.resume ≤ j.time
        else next = g.finished.length
      if isOver then proceed id s.steps (j.dropTimers id false) else j

------------------------------------------------------------
-- Turns
------------------------------------------------------------

/- Wake the strands of the timers that are due, in order of their times. -/
def fire
    (j : Journal) :
    Journal :=
  let due := j.timers.filter fun timer => timer.due ≤ j.time
  let later := j.timers.filter fun timer => !(timer.due ≤ j.time)
  let ordered := due.mergeSort fun a b => a.due ≤ b.due
  ordered.foldl (fun j timer => j.wake timer.strand)
    { j with timers := later }

/- The time of the next timer. -/
def nextDue? : List Timer → Option Nat
  | [] => none
  | timer :: rest =>
      match nextDue? rest with
      | none => some timer.due
      | some due => some (min timer.due due)

/- One turn of the thread. -/
def turn
    (j : Journal) :
    Journal :=
  if j.woken && !j.draining then
    { j with woken := false, draining := true }.poll 0
  else
    match j.ready with
    | id :: rest => { j with ready := rest, draining := true }.poll id
    | [] =>
        if j.woken then { j with draining := false }
        else
          match nextDue? j.timers with
          | none => j
          | some due =>
              { j with time := max j.time due, draining := false }.fire

/- Take turns until strand 0 has finished. -/
def takeTurns :
    Nat → Journal → Journal
  | 0, j => j
  | fuel + 1, j =>
      if (j.strand 0).waiting = .finished then j
      else takeTurns fuel j.turn

/- Take turns until no strand is ready. -/
def drain :
    Nat → Journal → Journal
  | 0, j => j
  | fuel + 1, j =>
      match j.ready with
      | [] => j
      | id :: rest => drain fuel ({ j with ready := rest }.poll id)

mutual

/- The number of steps, those of branches included. -/
def countStep : Step → Nat
  | .call .. => 1
  | .milestone .. => 1
  | .fan _ _ _ branches _ => countBranches branches + 1

def countBranches : List (Nat × List Step) → Nat
  | [] => 0
  | (_, steps) :: rest => countSteps steps + countBranches rest + 1

def countSteps : List Step → Nat
  | [] => 0
  | step :: rest => countStep step + countSteps rest

end

/- More turns than the steps of all strands can take. -/
def enoughTurns
    (j : Journal) :
    Nat :=
  let steps := j.strands.foldl (fun n s => n + countSteps s.steps + 1) 0
  8 * steps + 8

/- Take the steps of an activity, and note the calls. -/
def follow
    (j : Journal)
    (steps : List Step) :
    Journal :=
  let s := j.strand 0
  let j := j.setStrand 0 { s with steps := steps, waiting := .turn }
  let fuel := j.enoughTurns
  takeTurns fuel ({ j with draining := true, woken := false }.poll 0)

/- Let time pass; strands that are ready go on before timers are due. -/
def advance
    (j : Journal)
    (ms : Nat) :
    Journal :=
  let j := { j with time := j.time + ms }
  { drain j.enoughTurns j with woken := false }.fire

/- Forget the calls that were noted. -/
def cleared
    (j : Journal) :
    Journal :=
  { j with calls := [], peak := j.inFlight }

end Journal

end Automation
