import Automation.Proofs.Branches
import Automation.Proofs.Frames

/-
  Actions that only read what a run starts with.

  A name of the fixed scope wins over every variable.  So a path that
  begins with such a name means the same in all contexts of a run, and
  when all paths of an action do, the action takes the same steps and has
  the same result in all of them, whatever the actions before it have
  written.  The action that a branch selects is then the same as well.

  Key definitions include:
    * `Context.fixedNames` and `Context.isFixedPath`
    * `Context.SharesFixed`, contexts of one run
    * `Action.ReadsFixed`, actions whose paths all begin with fixed names
    * `Activity.Concurs`, activities that only leave other variables

  Key theorems include:
    * `Context.SharesFixed.resolve_eq`, what a path names
    * `Context.SharesFixed.evaluate_eq`, the verdict of a condition
    * `Engine.dispatch_concurs`, what an action comes to
-/

namespace Automation

------------------------------------------------------------
-- Paths
------------------------------------------------------------

namespace Context

/- The names of the fixed scope of a run. -/
def fixedNames : List String :=
  ["input", "trigger", "rule", "user", "timestamp"]

/- Whether a path begins with a name of the fixed scope. -/
def isFixedPath
    (path : String) :
    Bool :=
  match Text.splitOn '.' (Text.trim path) with
  | [] => false
  | head :: _ => fixedNames.contains head

/-
  Contexts with one fixed scope, which has a value under each of its names.
  Their variables may differ.
-/
structure SharesFixed
    (first second : Context) : Prop where
  fixed_eq : second.fixed = first.fixed
  named :
    ∀ name ∈ fixedNames,
      (Table.find? first.fixed name).isSome = true

/- The contexts of a run share the fixed scope that it starts with. -/
theorem SharesFixed.of_forRun
    {rule : Rule}
    {input : Document}
    {trigger : TriggerKind}
    {startedAt : Timestamp}
    {context : Context}
    (hFixed :
      context.fixed =
        (forRun rule input trigger startedAt).fixed) :
    (forRun rule input trigger startedAt).SharesFixed
      context where
  fixed_eq := hFixed
  named := by
    intro name hName
    simp only [fixedNames, List.mem_cons, List.not_mem_nil,
      or_false] at hName
    simp only [forRun, ofFixed, Table.ofList, List.foldl,
      Table.find?_insert]
    rcases hName with rfl | rfl | rfl | rfl | rfl <;> simp

end Context

------------------------------------------------------------
-- Texts, Documents And Conditions
------------------------------------------------------------

namespace Template

def Segment.isFixed : Segment → Bool
  | .char _ => true
  | .placeholder inner =>
      Context.isFixedPath (String.ofList inner)

/- Whether the paths of all placeholders begin with fixed names. -/
def isFixed
    (s : String) :
    Bool :=
  (segments s).all (·.isFixed)

end Template

namespace Document

mutual

/- Whether the same holds of all strings of a document. -/
def isFixed : Document → Bool
  | .string s => Template.isFixed s
  | .array items => itemsFixed items
  | .object entries => entriesFixed entries
  | _ => true

def itemsFixed : List Document → Bool
  | [] => true
  | x :: xs => isFixed x && itemsFixed xs

def entriesFixed : List (String × Document) → Bool
  | [] => true
  | (_, x) :: xs => isFixed x && entriesFixed xs

end

end Document

namespace Condition

mutual

/- Whether the fields of all tests begin with fixed names. -/
def isFixed : Condition → Bool
  | .group _ members => membersFixed members
  | .test field _ _ => Context.isFixedPath field

def membersFixed : List Condition → Bool
  | [] => true
  | x :: xs => isFixed x && membersFixed xs

end

end Condition

/- Whether the sources of all outputs begin with fixed names. -/
def TransformTask.isFixed
    (task : TransformTask) :
    Bool :=
  task.outputs.all fun (_, transform) =>
    Context.isFixedPath transform.source

/- Whether the paths that a task names begin with fixed names. -/
def Task.isFixed : Task → Bool
  | .transform task => task.isFixed
  | .branch task => task.condition.isFixed
  | _ => true

------------------------------------------------------------
-- Actions
------------------------------------------------------------

namespace Action

/-
  Whether the templates that are filled before the action is read only have
  fixed paths.  Those of the sides of a branch are filled later.
-/
def isFixed
    (action : Action) :
    Bool :=
  match action.kind, action.config with
  | .branch, .object entries =>
      entries.all fun (key, value) =>
        Engine.branchKeys.contains key || value.isFixed
  | _, config => config.isFixed

/-
  An action that only reads the fixed scope of a context: by its templates,
  by the fields of its condition or the sources of its outputs, and, if it
  is a branch, by the actions of both sides.  The fields and the sources
  are those of the configuration that the action is read from, which are
  the ones that are stated when they hold no placeholders.
-/
inductive ReadsFixed
    (context : Context) :
    Action → Prop
  | intro
      {action : Action}
      (hTemplates : action.isFixed = true)
      (hPaths :
        ∀ task,
          Task.ofConfig action.kind
              (Engine.filledConfig action context) =
                .ok task →
            task.isFixed = true)
      (hSides :
        ∀ task inner,
          Task.ofConfig action.kind
              (Engine.filledConfig action context) =
                .ok (.branch task) →
            task.thenAction? = some inner ∨
                task.elseAction? = some inner →
              ReadsFixed context inner) :
      ReadsFixed context action

/- An action that is no branch. -/
theorem ReadsFixed.of_task
    {context : Context}
    {action : Action}
    {task : Task}
    (hTask :
      Task.ofConfig action.kind
        (Engine.filledConfig action context) = .ok task)
    (hTemplates : action.isFixed = true)
    (hPaths : task.isFixed = true)
    (hKind : action.kind ≠ .branch) :
    ReadsFixed context action := by
  constructor
  · exact hTemplates
  · intro other hOther
    rw [hTask] at hOther
    cases hOther
    exact hPaths
  · intro branch inner hBranch _
    exact absurd (BranchTask.read_of_config hBranch).1 hKind

theorem ReadsFixed.templates
    {context : Context}
    {action : Action}
    (hReads : ReadsFixed context action) :
    action.isFixed = true := by
  cases hReads with
  | intro hTemplates _ _ => exact hTemplates

theorem ReadsFixed.paths
    {context : Context}
    {action : Action}
    {task : Task}
    (hReads : ReadsFixed context action)
    (hTask :
      Task.ofConfig action.kind
        (Engine.filledConfig action context) = .ok task) :
    task.isFixed = true := by
  cases hReads with
  | intro _ hPaths _ => exact hPaths task hTask

/- The action that a branch selects. -/
theorem ReadsFixed.of_selected
    {patterns : PatternLibrary}
    {context : Context}
    {action chosen : Action}
    {task : BranchTask}
    (hReads : ReadsFixed context action)
    (hTask :
      Task.ofConfig action.kind
        (Engine.filledConfig action context) =
          .ok (.branch task))
    (hSelected : task.selected? patterns context = some chosen) :
    ReadsFixed context chosen := by
  cases hReads with
  | intro _ _ hSides =>
      apply hSides task chosen hTask
      unfold BranchTask.selected? at hSelected
      split at hSelected
      · exact Or.inl hSelected
      · exact Or.inr hSelected

end Action

------------------------------------------------------------
-- What Is Read
------------------------------------------------------------

namespace Context.SharesFixed

variable {first second : Context}

theorem input_eq
    (hShares : first.SharesFixed second) :
    second.input = first.input := by
  unfold Context.input
  rw [hShares.fixed_eq]

/- Below a fixed name, variables are not looked at. -/
theorem lookup_eq
    {head : String}
    (hShares : first.SharesFixed second)
    (hHead : head ∈ fixedNames)
    (rest : List String) :
    second.lookup (head :: rest) =
      first.lookup (head :: rest) := by
  have hNamed := hShares.named head hHead
  cases hFind : Table.find? first.fixed head with
  | none =>
      rw [hFind] at hNamed
      cases hNamed
  | some root => simp only [lookup, hShares.fixed_eq, hFind]

theorem resolve_eq
    {path : String}
    (hShares : first.SharesFixed second)
    (hPath : isFixedPath path = true) :
    second.resolve path = first.resolve path := by
  unfold isFixedPath at hPath
  unfold resolve
  dsimp only
  split
  · rfl
  · cases hSplit : Text.splitOn '.' (Text.trim path) with
    | nil => rfl
    | cons head rest =>
        rw [hSplit] at hPath
        apply hShares.lookup_eq
        exact List.contains_iff_mem.mp hPath

theorem fill_eq
    {s : String}
    (hShares : first.SharesFixed second)
    (hFixed : Template.isFixed s = true) :
    Template.fill second s = Template.fill first s := by
  have hSegments :
      ∀ segment ∈ Template.segments s,
        segment.fill second = segment.fill first := by
    intro segment hSegment
    have hSegmentFixed :=
      List.all_eq_true.mp hFixed segment hSegment
    cases segment with
    | char c => rfl
    | placeholder inner =>
        have hPath :
            isFixedPath (String.ofList inner) = true :=
          hSegmentFixed
        simp only [Template.Segment.fill,
          hShares.resolve_eq hPath]
  have hReplace :
      Template.replace second s = Template.replace first s := by
    unfold Template.replace
    refine congrArg String.ofList ?_
    rw [List.flatMap_def, List.flatMap_def,
      List.map_congr_left hSegments]
  unfold Template.fill
  rw [hReplace]

mutual

theorem fillDocument_eq
    (hShares : first.SharesFixed second) :
    (d : Document) →
      d.isFixed = true → d.fill second = d.fill first
  | .null, _ => rfl
  | .bool _, _ => rfl
  | .number _, _ => rfl
  | .string s, hFixed => by
      simp only [Document.fill]
      rw [hShares.fill_eq hFixed]
  | .array items, hFixed => by
      simp only [Document.fill]
      rw [fillItems_eq hShares items hFixed]
  | .object entries, hFixed => by
      simp only [Document.fill]
      rw [fillEntries_eq hShares entries hFixed]

theorem fillItems_eq
    (hShares : first.SharesFixed second) :
    (items : List Document) →
      Document.itemsFixed items = true →
        Document.fillItems second items =
          Document.fillItems first items
  | [], _ => rfl
  | x :: xs, hFixed => by
      simp only [Document.itemsFixed, Bool.and_eq_true] at hFixed
      simp only [Document.fillItems]
      rw [fillDocument_eq hShares x hFixed.1,
        fillItems_eq hShares xs hFixed.2]

theorem fillEntries_eq
    (hShares : first.SharesFixed second) :
    (entries : List (String × Document)) →
      Document.entriesFixed entries = true →
        Document.fillEntries second entries =
          Document.fillEntries first entries
  | [], _ => rfl
  | (_, x) :: xs, hFixed => by
      simp only [Document.entriesFixed, Bool.and_eq_true]
        at hFixed
      simp only [Document.fillEntries]
      rw [fillDocument_eq hShares x hFixed.1,
        fillEntries_eq hShares xs hFixed.2]

end

/- What an action is read from is the same. -/
theorem filledConfig_eq
    {action : Action}
    (hShares : first.SharesFixed second)
    (hFixed : action.isFixed = true) :
    Engine.filledConfig action second =
      Engine.filledConfig action first := by
  unfold Action.isFixed at hFixed
  unfold Engine.filledConfig
  split at hFixed
  · rename_i entries hKind hConfig
    rw [hKind, hConfig]
    simp only [Engine.fillBranchConfig]
    congr 1
    apply List.map_congr_left
    intro entry hEntry
    have hValue := List.all_eq_true.mp hFixed entry hEntry
    by_cases hKey : Engine.branchKeys.contains entry.1 = true
    · simp only [hKey, if_true]
    · simp only [hKey, Bool.false_or] at hValue
      simp only [hKey]
      rw [hShares.fillDocument_eq _ hValue]
  · rename_i hOther
    have hFill := hShares.fillDocument_eq _ hFixed
    cases hKind : action.kind with
    | branch =>
        cases hConfig : action.config with
        | object entries => exact absurd hConfig (hOther _ hKind)
        | _ =>
            rw [hConfig] at hFill
            exact hFill
    | _ => exact hFill

mutual

theorem evaluate_eq
    {patterns : PatternLibrary}
    (hShares : first.SharesFixed second) :
    (condition : Condition) →
      condition.isFixed = true →
        condition.evaluate patterns second =
          condition.evaluate patterns first
  | .group _ [] => by
      intro _
      simp only [Condition.evaluate]
  | .group .and (x :: xs) => by
      intro hFixed
      simp only [Condition.evaluate]
      exact evaluateAll_eq hShares (x :: xs) hFixed
  | .group .or (x :: xs) => by
      intro hFixed
      simp only [Condition.evaluate]
      exact evaluateAny_eq hShares (x :: xs) hFixed
  | .test field _ _ => by
      intro hFixed
      rw [Condition.isFixed] at hFixed
      simp only [Condition.evaluate, Condition.test?]
      rw [hShares.resolve_eq hFixed]

theorem evaluateAll_eq
    {patterns : PatternLibrary}
    (hShares : first.SharesFixed second) :
    (members : List Condition) →
      Condition.membersFixed members = true →
        Condition.evaluateAll patterns second members =
          Condition.evaluateAll patterns first members
  | [], _ => rfl
  | x :: xs, hFixed => by
      simp only [Condition.membersFixed, Bool.and_eq_true]
        at hFixed
      simp only [Condition.evaluateAll]
      rw [evaluate_eq hShares x hFixed.1,
        evaluateAll_eq hShares xs hFixed.2]

theorem evaluateAny_eq
    {patterns : PatternLibrary}
    (hShares : first.SharesFixed second) :
    (members : List Condition) →
      Condition.membersFixed members = true →
        Condition.evaluateAny patterns second members =
          Condition.evaluateAny patterns first members
  | [], _ => rfl
  | x :: xs, hFixed => by
      simp only [Condition.membersFixed, Bool.and_eq_true]
        at hFixed
      simp only [Condition.evaluateAny]
      rw [evaluate_eq hShares x hFixed.1,
        evaluateAny_eq hShares xs hFixed.2]

end

theorem output_eq
    {task : TransformTask}
    (hShares : first.SharesFixed second)
    (hFixed : task.isFixed = true) :
    task.output second = task.output first := by
  rw [TransformTask.isFixed, List.all_eq_true] at hFixed
  have hSources :
      ∀ entry ∈ task.outputs,
        second.resolve entry.2.source =
          first.resolve entry.2.source := by
    intro entry hEntry
    exact hShares.resolve_eq (hFixed entry hEntry)
  unfold TransformTask.output
  refine congrArg Document.object (List.map_congr_left ?_)
  intro entry hEntry
  simp only [hSources entry hEntry]

/- A branch selects the same action. -/
theorem verdict_eq
    (patterns : PatternLibrary)
    {task : BranchTask}
    (hShares : first.SharesFixed second)
    (hFixed : task.condition.isFixed = true) :
    task.verdict patterns second =
      task.verdict patterns first := by
  unfold BranchTask.verdict
  rw [hShares.evaluate_eq _ hFixed]

theorem selected?_eq
    (patterns : PatternLibrary)
    {task : BranchTask}
    (hShares : first.SharesFixed second)
    (hFixed : task.condition.isFixed = true) :
    task.selected? patterns second =
      task.selected? patterns first := by
  unfold BranchTask.selected?
  rw [hShares.verdict_eq patterns hFixed]

end Context.SharesFixed

------------------------------------------------------------
-- Activities That Concur
------------------------------------------------------------

namespace Activity

variable {α β : Type}

/- The same steps and the same result, whatever variables are left. -/
def Concurs
    (first second : Activity (α × Context)) : Prop :=
  ∀ start,
    (second start).steps = (first start).steps ∧
      (second start).ending.result = (first start).ending.result

namespace Concurs

variable {first second : Activity (α × Context)}

/- What is worked out from the results alone is the same. -/
theorem andThen_done
    {f g : α × Context → β × Context}
    (hConcurs : Concurs first second)
    (hValue :
      ∀ a left other, (g (a, other)).1 = (f (a, left)).1) :
    Concurs (first.andThen fun finished => done (f finished))
      (second.andThen fun finished => done (g finished)) := by
  intro start
  rcases hConcurs start with ⟨hSteps, hResult⟩
  constructor
  · rw [andThen_steps_of_still (fun _ _ => rfl),
      andThen_steps_of_still (fun _ _ => rfl), hSteps]
  · rw [andThen_done_result, andThen_done_result]
    cases hFirst : (first start).ending with
    | crashed crash =>
        cases hSecond : (second start).ending with
        | crashed other =>
            rw [hFirst, hSecond] at hResult
            cases hResult
            simp [andThen, hFirst, hSecond]
        | returned finished =>
            rw [hFirst, hSecond] at hResult
            cases hResult
    | returned finished =>
        cases hSecond : (second start).ending with
        | crashed crash =>
            rw [hFirst, hSecond] at hResult
            cases hResult
        | returned other =>
            rcases finished with ⟨a, left⟩
            rcases other with ⟨b, after⟩
            rw [hFirst, hSecond] at hResult
            cases hResult
            simp [andThen, hFirst, hSecond, hValue a left after]

end Concurs

end Activity

namespace Engine

variable {engine : Engine}
variable {runChild : RunChild}
variable {scope : Scope}
variable {first second : Context}

theorem keeping_concurs
    (first second : Context)
    (activity : Activity TaskResult) :
    (keeping first activity).Concurs
      (keeping second activity) := by
  intro start
  constructor
  · rw [keeping_steps, keeping_steps]
  · unfold keeping
    simp only [Activity.bind_eq_andThen, Activity.pure_eq_done]
    rw [Activity.andThen_done_result,
      Activity.andThen_done_result]

theorem runModel_eq
    (hShares : first.SharesFixed second)
    (task : ModelTask) :
    engine.runModel scope task second =
      engine.runModel scope task first := by
  unfold runModel
  rw [hShares.input_eq]

theorem runStore_concurs
    (first second : Context)
    (task : StoreTask) :
    (Activity.done (runStore task first)).Concurs
      (Activity.done (runStore task second)) := by
  intro start
  constructor
  · rfl
  · unfold runStore
    split <;> rfl

theorem runBranch_concurs
    {patterns : PatternLibrary}
    {execute :
      Action → Context → Activity (ActionResult × Context)}
    {task : BranchTask}
    (hShares : first.SharesFixed second)
    (hFixed : task.condition.isFixed = true)
    (hExecute :
      ∀ chosen,
        task.selected? patterns first = some chosen →
          (execute chosen first).Concurs
            (execute chosen second)) :
    (runBranch patterns execute task first).Concurs
      (runBranch patterns execute task second) := by
  have hVerdict := hShares.verdict_eq patterns hFixed
  have hSame := hShares.selected?_eq patterns hFixed
  cases hSelected : task.selected? patterns first with
  | none =>
      rw [runBranch_of_none hSelected,
        runBranch_of_none (hSame.trans hSelected), hVerdict]
      intro start
      exact ⟨rfl, rfl⟩
  | some chosen =>
      rw [runBranch_of_selected hSelected,
        runBranch_of_selected (hSame.trans hSelected), hVerdict]
      apply (hExecute chosen hSelected).andThen_done
      intro result left other
      rfl

theorem runTask_concurs
    {execute :
      Action → Context → Activity (ActionResult × Context)}
    {task : Task}
    (hShares : first.SharesFixed second)
    (hFixed : task.isFixed = true)
    (hExecute :
      ∀ branch chosen,
        task = .branch branch →
          branch.selected? engine.patterns first = some chosen →
            (execute chosen first).Concurs
              (execute chosen second)) :
    (engine.runTask runChild scope execute task first).Concurs
      (engine.runTask runChild scope execute task second) := by
  cases task with
  | model task =>
      simp only [runTask]
      rw [runModel_eq hShares]
      exact keeping_concurs first second _
  | notice task => exact keeping_concurs first second _
  | webhook request => exact keeping_concurs first second _
  | store task => exact runStore_concurs first second task
  | transform task =>
      simp only [runTask]
      rw [hShares.output_eq hFixed]
      intro start
      exact ⟨rfl, rfl⟩
  | branch task =>
      apply runBranch_concurs hShares hFixed
      intro chosen hSelected
      exact hExecute task chosen rfl hSelected
  | rule task =>
      simp only [runTask]
      rw [runRule_of_input_eq task hShares.input_eq]
      exact keeping_concurs first second _
  | unsupported type =>
      intro start
      exact ⟨rfl, rfl⟩

------------------------------------------------------------
-- Actions That Concur
------------------------------------------------------------

/- By induction on the branches that are still to be opened. -/
theorem executeWithin_concurs
    {action : Action}
    (hShares : first.SharesFixed second)
    (hReads : action.ReadsFixed first)
    (depth : Nat) :
    (engine.executeWithin runChild scope depth action
        first).Concurs
      (engine.executeWithin runChild scope depth action
        second) := by
  induction depth generalizing action with
  | zero =>
      intro start
      exact ⟨rfl, rfl⟩
  | succ depth ih =>
      have hSame := hShares.filledConfig_eq hReads.templates
      cases hTask :
          Task.ofConfig action.kind
            (filledConfig action first) with
      | error fault =>
          rw [executeWithin_of_fault depth hTask,
            executeWithin_of_fault depth (hSame ▸ hTask)]
          intro start
          exact ⟨rfl, rfl⟩
      | ok task =>
          rw [executeWithin_of_task depth hTask,
            executeWithin_of_task depth (hSame ▸ hTask)]
          apply Activity.Concurs.andThen_done
          · apply runTask_concurs hShares (hReads.paths hTask)
            intro branch chosen hBranch hSelected
            subst hBranch
            exact ih (hReads.of_selected hTask hSelected)
          · intro outcome left other
            rfl

/- An action comes to the same, and is cut short at the same time. -/
theorem dispatch_concurs
    {action : Action}
    (hShares : first.SharesFixed second)
    (hReads : action.ReadsFixed first) :
    (engine.dispatch runChild scope action first).Concurs
      (engine.dispatch runChild scope action second) := by
  intro start
  rcases executeWithin_concurs hShares hReads
      (action.config.depth + 1) start with
    ⟨hSteps, hResult⟩
  exact dispatch_of_execute_eq hSteps hResult

end Engine

end Automation
