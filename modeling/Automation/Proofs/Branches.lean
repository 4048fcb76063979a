import Automation.Engine.Run
import Automation.Proofs.Nesting
import Automation.Proofs.Tasks

/-
  Actions that are branches.

  A branch carries out the action that the selected side of its
  configuration states.  When the configuration is an object, the sides are
  left as they are stated; when it is an array, the templates of the sides
  are filled with those of the condition, and so are filled once before the
  action is carried out.

  Key definitions include:
    * `Document.condition?` and `Document.side?`, the parts of a branch
    * `Document.prefilled`, a side as the branch hands it over
    * `Action.Alike`, actions that are the same once filled
    * `Engine.Leads`, branches stated inside branches
    * `Engine.CarriesOutSide`, what a branch comes to

  Key theorems include:
    * `Task.kind_of_ofConfig`, what actions of a kind are read as
    * `BranchTask.read_of_config`, where the parts of a branch come from
    * `Engine.executeWithin_eq_execute`, the bound plays no part
    * `Engine.execute_of_selected`, one branch
    * `Engine.execute_of_leads`, branches inside branches
    * `Engine.carriesOutSide`, all of them together
-/

namespace Automation

------------------------------------------------------------
-- The Parts Of A Configuration
------------------------------------------------------------

namespace Document

/-
  The part of a configuration that states a field, by one of the names of
  the field or by its position.
-/
def part?
    (names : List String)
    (position : Nat) :
    Document → Option Document
  | .object entries => under? names entries
  | .array items => items[position]?
  | _ => none

def condition?
    (config : Document) :
    Option Document :=
  config.part? ["condition", "conditions"] 0

/- The side of a branch for a verdict. -/
def side?
    (verdict : Bool)
    (config : Document) :
    Option Document :=
  if verdict then config.part? ["thenAction", "then"] 1
  else config.part? ["elseAction", "else"] 2

/-
  A side of a configuration as the branch hands it over: the items of an
  array have their templates filled.
-/
def prefilled
    (context : Context)
    (config side : Document) :
    Document :=
  match config with
  | .array _ => side.fill context
  | _ => side

theorem depth_lt_of_part?
    {names : List String}
    {position : Nat}
    {config part : Document}
    (hPart : config.part? names position = some part) :
    part.depth < config.depth := by
  cases config with
  | object entries =>
      exact Nat.lt_succ_of_le (depth_le_of_under? hPart)
  | array items =>
      exact Nat.lt_succ_of_le
        (depth_le_depthItems (List.mem_of_getElem? hPart))
  | null => cases hPart
  | bool value => cases hPart
  | number value => cases hPart
  | string value => cases hPart

theorem fill_eq_null_iff
    {context : Context}
    {d : Document} :
    d.fill context = .null ↔ d = .null := by
  cases d <;> simp [fill]

/- A side that is not left as it is has its templates filled. -/
theorem prefilled_eq_fill
    {context : Context}
    {config side : Document}
    (hSide : prefilled context config side ≠ side) :
    prefilled context config side = side.fill context := by
  cases config with
  | array items => rfl
  | _ => exact absurd rfl hSide

theorem prefilled_eq_null_iff
    {context : Context}
    {config side : Document} :
    prefilled context config side = .null ↔ side = .null := by
  cases config <;> simp [prefilled, fill_eq_null_iff]

/- Filling looks at each entry by itself. -/
theorem under?_map
    (names : List String)
    (entries : List (String × Document))
    (f : String → Document → Document)
    (g : Document → Document)
    (hSame :
      ∀ key value, names.contains key = true →
        f key value = g value) :
    under? names
        (entries.map fun entry =>
          (entry.1, f entry.1 entry.2)) =
      (under? names entries).map g := by
  induction entries with
  | nil => rfl
  | cons first rest ih =>
      simp only [under?, List.map_cons, List.find?_cons]
      cases hName : names.contains first.1 with
      | true =>
          exact congrArg some (hSame first.1 first.2 hName)
      | false => exact ih

theorem fillBranchConfig_object
    (context : Context)
    (entries : List (String × Document)) :
    Engine.fillBranchConfig context (.object entries) =
      .object (entries.map fun entry =>
        (entry.1,
          if Engine.branchKeys.contains entry.1 then entry.2
          else entry.2.fill context)) := by
  simp only [Engine.fillBranchConfig]
  congr 2
  funext entry
  split <;> rfl

/- The condition of a branch has its templates filled. -/
theorem condition?_fillBranchConfig
    (context : Context)
    (config : Document) :
    (Engine.fillBranchConfig context config).condition? =
      config.condition?.map (·.fill context) := by
  cases config with
  | object entries =>
      rw [fillBranchConfig_object]
      refine under?_map _ entries
        (fun key value =>
          if Engine.branchKeys.contains key then value
          else value.fill context) _ ?_
      intro key value hKey
      have hName : key = "condition" ∨ key = "conditions" := by
        simpa using hKey
      have hOther : Engine.branchKeys.contains key = false := by
        rcases hName with rfl | rfl <;> decide
      exact if_neg (by rw [hOther]; exact Bool.false_ne_true)
  | array items => exact getElem?_fillItems context items 0
  | null => rfl
  | bool value => rfl
  | number value => rfl
  | string value => rfl

/- The sides of a branch are handed over as they are. -/
theorem part?_fillBranchConfig
    {names : List String}
    (context : Context)
    (config : Document)
    (position : Nat)
    (hNames :
      ∀ name, names.contains name = true →
        Engine.branchKeys.contains name = true) :
    (Engine.fillBranchConfig context config).part? names
        position =
      (config.part? names position).map
        (prefilled context config) := by
  cases config with
  | object entries =>
      rw [fillBranchConfig_object]
      refine under?_map _ entries
        (fun key value =>
          if Engine.branchKeys.contains key then value
          else value.fill context) _ ?_
      intro key value hKey
      exact if_pos (hNames key hKey)
  | array items =>
      exact getElem?_fillItems context items position
  | null => rfl
  | bool value => rfl
  | number value => rfl
  | string value => rfl

theorem side?_fillBranchConfig
    (context : Context)
    (config : Document)
    (verdict : Bool) :
    (Engine.fillBranchConfig context config).side? verdict =
      (config.side? verdict).map
        (prefilled context config) := by
  cases verdict with
  | true =>
      refine part?_fillBranchConfig context config 1 ?_
      intro name hName
      have hThen : name = "thenAction" ∨ name = "then" := by
        simpa using hName
      rcases hThen with rfl | rfl <;> decide
  | false =>
      refine part?_fillBranchConfig context config 2 ?_
      intro name hName
      have hElse : name = "elseAction" ∨ name = "else" := by
        simpa using hName
      rcases hElse with rfl | rfl <;> decide

theorem depth_lt_of_side?
    {verdict : Bool}
    {config side : Document}
    (hSide : config.side? verdict = some side) :
    side.depth < config.depth := by
  cases verdict with
  | true => exact depth_lt_of_part? hSide
  | false => exact depth_lt_of_part? hSide

end Document

------------------------------------------------------------
-- Reading A Branch
------------------------------------------------------------

/- A side that is read as it stands; null states nothing. -/
def SideRead
    (side? : Option Document)
    (action? : Option Action) : Prop :=
  (∃ side,
    side? = some side ∧
      Decoder.optionally Action.decoder .plain side.node =
        .ok action?) ∨
    (side? = none ∧ action? = none)

namespace SideRead

variable {side? : Option Document}

theorem of_some
    {action : Action}
    (hRead : SideRead side? (some action)) :
    ∃ side,
      side? = some side ∧
        Action.decoder .plain side.node = .ok action := by
  rcases hRead with ⟨side, hSide, hAction⟩ | ⟨_, hAction⟩
  · rcases Decoder.optionally_eq_ok hAction with
      ⟨_, _, _, _, hNone⟩ | ⟨other, hOther, hSome⟩
    · cases hNone
    · cases hSome
      exact ⟨side, hSide, hOther⟩
  · cases hAction

/- A side that states an action selects it. -/
theorem eq_some_of_decoder
    {side : Document}
    {action : Action}
    {action? : Option Action}
    (hRead : SideRead (some side) action?)
    (hAction :
      Action.decoder .plain side.node = .ok action) :
    action? = some action := by
  rcases hRead with ⟨other, hSide, hOther⟩ | ⟨hSide, _⟩
  · cases hSide
    rcases Decoder.optionally_eq_ok hOther with
      ⟨_, _, _, hNode, _⟩ | ⟨found, hFound, hSome⟩
    · cases side <;> cases hNode
      cases hAction
    · rw [hFound] at hAction
      cases hAction
      exact hSome
  · cases hSide

theorem of_none
    (hRead : SideRead side? none) :
    side? = none ∨ side? = some .null := by
  rcases hRead with ⟨side, hSide, hAction⟩ | ⟨hSide, _⟩
  · rcases Decoder.optionally_eq_ok hAction with
      ⟨_, _, _, hNode, _⟩ | ⟨other, _, hSome⟩
    · cases side <;> cases hNode
      exact Or.inr hSide
    · cases hSome
  · exact Or.inl hSide

end SideRead

theorem Task.read_eq_ok
    {α : Type}
    {kind : ActionKind}
    {decode : Decoder α}
    {config : Document}
    {a : α}
    (hRead : Task.read kind decode config = .ok a) :
    decode .plain config.node = .ok a := by
  unfold Task.read at hRead
  split at hRead
  · cases hRead
    assumption
  · cases hRead

/- The kind of action that a task is for. -/
def Task.kind : Task → ActionKind
  | .model _ => .triggerModel
  | .notice _ => .sendNotification
  | .webhook _ => .callWebhook
  | .store _ => .storeData
  | .transform _ => .transformData
  | .branch _ => .branch
  | .rule _ => .triggerRule
  | .unsupported type => .unsupported type

theorem Task.kind_of_ofConfig
    {kind : ActionKind}
    {config : Document}
    {task : Task}
    (hTask : Task.ofConfig kind config = .ok task) :
    task.kind = kind := by
  cases kind with
  | unsupported type =>
      cases hTask
      rfl
  | _ =>
      rcases map_eq_ok hTask with ⟨_, _, rfl⟩
      rfl

namespace BranchTask

theorem read_of_node
    {config : Document}
    {task : BranchTask}
    (hRead :
      BranchTask.record.decoder "struct ConditionalConfig"
        .plain config.node = .ok task) :
    (∃ condition,
      config.condition? = some condition ∧
        Condition.decoder .plain condition.node =
          .ok task.condition) ∧
      SideRead (config.side? true) task.thenAction? ∧
      SideRead (config.side? false) task.elseAction? := by
  rcases Record.decoder_node_eq_ok hRead with
    ⟨entries, rfl, hNamed⟩ | ⟨items, expected, rfl, hPlaced⟩
  · rcases Record.seq_named_eq_ok hNamed with
      ⟨_, else?, hStarted, hElse, rfl⟩
    rcases Record.seq_named_eq_ok hStarted with
      ⟨_, then?, hBegun, hThen, rfl⟩
    rcases Record.map_named_eq_ok hBegun with
      ⟨condition, hCondition, rfl⟩
    refine ⟨?_, ?_, ?_⟩
    · rcases Record.field_nodeEntries_eq_ok hCondition with
        hStated | ⟨_, hAbsent⟩
      · exact hStated
      · cases hAbsent
    · rcases Record.field_nodeEntries_eq_ok hThen with
        hStated | ⟨hNone, hAbsent⟩
      · exact Or.inl hStated
      · cases hAbsent
        exact Or.inr ⟨hNone, rfl⟩
    · rcases Record.field_nodeEntries_eq_ok hElse with
        hStated | ⟨hNone, hAbsent⟩
      · exact Or.inl hStated
      · cases hAbsent
        exact Or.inr ⟨hNone, rfl⟩
  · rcases Record.seq_placed_eq_ok hPlaced with
      ⟨_, else?, _, hStarted, hElse, rfl⟩
    rcases Record.seq_placed_eq_ok hStarted with
      ⟨_, then?, _, hBegun, hThen, rfl⟩
    rcases Record.map_placed_eq_ok hBegun with
      ⟨condition, hCondition, rfl⟩
    rcases Record.field_nodeItems_eq_ok hCondition with
      ⟨rfl, hFirst⟩
    rcases Record.field_nodeItems_eq_ok hThen with
      ⟨rfl, hSecond⟩
    rcases Record.field_nodeItems_eq_ok hElse with
      ⟨_, hThird⟩
    rw [List.head?_eq_getElem?] at hFirst
    rw [List.head?_tail] at hSecond
    rw [List.head?_tail, List.getElem?_tail] at hThird
    refine ⟨?_, ?_, ?_⟩
    · rcases hFirst with hStated | ⟨_, hShort⟩
      · exact hStated
      · cases hShort
    · rcases hSecond with hStated | ⟨hNone, hShort⟩
      · exact Or.inl hStated
      · cases hShort
        exact Or.inr ⟨hNone, rfl⟩
    · rcases hThird with hStated | ⟨hNone, hShort⟩
      · exact Or.inl hStated
      · cases hShort
        exact Or.inr ⟨hNone, rfl⟩

/- Only branches are read as branches, from what they state. -/
theorem read_of_config
    {kind : ActionKind}
    {config : Document}
    {task : BranchTask}
    (hTask : Task.ofConfig kind config = .ok (.branch task)) :
    kind = .branch ∧
      (∃ condition,
        config.condition? = some condition ∧
          Condition.decoder .plain condition.node =
            .ok task.condition) ∧
      SideRead (config.side? true) task.thenAction? ∧
      SideRead (config.side? false) task.elseAction? := by
  have hKind : kind = .branch :=
    (Task.kind_of_ofConfig hTask).symm
  subst hKind
  refine ⟨rfl, ?_⟩
  rcases map_eq_ok hTask with ⟨other, hRead, hOther⟩
  cases hOther
  have hNode := Task.read_eq_ok hRead
  cases config with
  | null =>
      -- Null is read as an object, which lacks the condition.
      rcases read_of_node hNode with ⟨⟨_, hNone, _⟩, _⟩
      cases hNone
  | object entries => exact read_of_node hNode
  | array items => exact read_of_node hNode
  | bool value => exact read_of_node hNode
  | number value => exact read_of_node hNode
  | string value => exact read_of_node hNode

variable {kind : ActionKind}
variable {config : Document}
variable {task : BranchTask}
variable {patterns : PatternLibrary}

theorem sideRead_selected?
    (hTask : Task.ofConfig kind config = .ok (.branch task))
    (patterns : PatternLibrary)
    (context : Context) :
    SideRead (config.side? (task.verdict patterns context))
      (task.selected? patterns context) := by
  rcases read_of_config hTask with ⟨_, _, hThen, hElse⟩
  unfold selected?
  cases task.verdict patterns context with
  | true => exact hThen
  | false => exact hElse

/- An action that a branch selects is nested less deeply. -/
theorem depth_of_selected?
    {context : Context}
    {chosen : Action}
    (hTask : Task.ofConfig kind config = .ok (.branch task))
    (hSelected : task.selected? patterns context = some chosen) :
    chosen.config.depth + 1 < config.depth := by
  have hRead := sideRead_selected? hTask patterns context
  rw [hSelected] at hRead
  rcases hRead.of_some with ⟨side, hSide, hAction⟩
  have hInner := Action.depth_config_lt hAction
  have hOuter := Document.depth_lt_of_side? hSide
  omega

end BranchTask

------------------------------------------------------------
-- Actions That Are Alike
------------------------------------------------------------

/- Actions that are the same once their templates are filled. -/
structure Action.Alike
    (context : Context)
    (first second : Action) : Prop where
  id_eq : first.id = second.id
  type_eq : first.type = second.type
  target_eq : first.target? = second.target?
  filled_eq :
    Engine.filledConfig first context =
      Engine.filledConfig second context

------------------------------------------------------------
-- The Bound On The Nesting
------------------------------------------------------------

namespace Engine

variable {engine : Engine}
variable {runChild : RunChild}
variable {scope : Scope}

theorem depth_filledConfig
    (action : Action)
    (context : Context) :
    (filledConfig action context).depth =
      action.config.depth := by
  unfold filledConfig
  split
  · exact Document.depth_fillBranchConfig context _
  · exact Document.depth_fill context _

/- Any two bounds above the depth of an action will do. -/
theorem executeWithin_eq
    {bound other : Nat}
    {action : Action}
    (context : Context)
    (hBound : action.config.depth < bound)
    (hOther : action.config.depth < other) :
    engine.executeWithin runChild scope bound action context =
      engine.executeWithin runChild scope other action
        context := by
  induction bound generalizing other action context with
  | zero => exact absurd hBound (Nat.not_lt_zero _)
  | succ bound ih =>
      cases other with
      | zero => exact absurd hOther (Nat.not_lt_zero _)
      | succ other =>
          cases hTask :
              Task.ofConfig action.kind
                (filledConfig action context) with
          | error fault =>
              rw [executeWithin_of_fault bound hTask,
                executeWithin_of_fault other hTask]
          | ok task =>
              rw [executeWithin_of_task bound hTask,
                executeWithin_of_task other hTask]
              congr 1
              cases task with
              | branch task =>
                  cases hSelected :
                      task.selected? engine.patterns context with
                  | none =>
                      simp only [runTask,
                        runBranch_of_none hSelected]
                  | some chosen =>
                      have hDepth :=
                        BranchTask.depth_of_selected? hTask
                          hSelected
                      rw [depth_filledConfig] at hDepth
                      simp only [runTask,
                        runBranch_of_selected hSelected]
                      rw [@ih other chosen context (by omega)
                        (by omega)]
              | _ => rfl

theorem executeWithin_eq_execute
    {bound : Nat}
    {action : Action}
    (context : Context)
    (hBound : action.config.depth < bound) :
    engine.executeWithin runChild scope bound action context =
      engine.execute runChild scope action context :=
  executeWithin_eq context hBound (Nat.lt_succ_self _)

------------------------------------------------------------
-- What A Branch Comes To
------------------------------------------------------------

variable {action : Action}
variable {context : Context}

theorem resultOf_of_alike
    {other : Action}
    (hAlike : action.Alike context other)
    (result : TaskResult) :
    resultOf action result = resultOf other result := by
  cases result with
  | ok achievement =>
      rw [resultOf, resultOf, hAlike.id_eq, hAlike.type_eq]
  | error fault =>
      rw [resultOf, resultOf, hAlike.id_eq, hAlike.type_eq]

/- Actions that are alike come to the same. -/
theorem execute_of_alike
    {other : Action}
    (hAlike : action.Alike context other) :
    engine.execute runChild scope action context =
      engine.execute runChild scope other context := by
  have hDepth : action.config.depth = other.config.depth := by
    rw [← depth_filledConfig action context,
      hAlike.filled_eq, depth_filledConfig]
  have hKind : action.kind = other.kind :=
    congrArg ActionKind.ofType hAlike.type_eq
  have hConcluded : concluded action = concluded other := by
    funext finished
    simp only [concluded, writeOutput,
      resultOf_of_alike hAlike, hAlike.target_eq]
  cases hTask :
      Task.ofConfig action.kind
        (filledConfig action context) with
  | error fault =>
      have hOther := hTask
      rw [hKind, hAlike.filled_eq] at hOther
      rw [execute, execute, executeWithin_of_fault _ hTask,
        executeWithin_of_fault _ hOther,
        resultOf_of_alike hAlike]
  | ok task =>
      have hOther := hTask
      rw [hKind, hAlike.filled_eq] at hOther
      rw [execute, execute, executeWithin_of_task _ hTask,
        executeWithin_of_task _ hOther, hDepth, hConcluded]

/- A branch comes to what the action comes to that it selects. -/
theorem execute_of_selected
    {task : BranchTask}
    {chosen : Action}
    (hTask :
      Task.ofConfig action.kind
        (filledConfig action context) = .ok (.branch task))
    (hSelected : task.selected? engine.patterns context = some chosen) :
    engine.execute runChild scope action context =
      (engine.execute runChild scope chosen context).andThen
        fun finished =>
          Activity.done
            (concluded action
              (branchFinished (task.verdict engine.patterns context)
                finished)) := by
  have hDepth :=
    BranchTask.depth_of_selected? hTask hSelected
  rw [depth_filledConfig] at hDepth
  rw [execute, executeWithin_of_task _ hTask, runTask,
    runBranch_of_selected hSelected,
    executeWithin_eq_execute context (by omega),
    Activity.andThen_done_andThen]

theorem execute_of_unselected
    {task : BranchTask}
    (hTask :
      Task.ofConfig action.kind
        (filledConfig action context) = .ok (.branch task))
    (hSelected : task.selected? engine.patterns context = none) :
    engine.execute runChild scope action context =
      Activity.done
        (concluded action
          (.ok
            (branchResult (task.verdict engine.patterns context)
              (branchName (task.verdict engine.patterns context)) none),
            context)) := by
  rw [execute, executeWithin_of_task _ hTask, runTask,
    runBranch_of_none hSelected]
  rfl

/-
  Branches stated inside branches: `outer` are those on the way from an
  action to one that is carried out for it, with their verdicts.
-/
inductive Leads
    (patterns : PatternLibrary)
    (context : Context) :
    List (Action × Bool) → Action → Action → Prop
  | here
      {action : Action} :
      Leads patterns context [] action action
  | into
      {action chosen last : Action}
      {task : BranchTask}
      {outer : List (Action × Bool)}
      (hTask :
        Task.ofConfig action.kind
          (filledConfig action context) = .ok (.branch task))
      (hSelected : task.selected? patterns context = some chosen)
      (hRest : Leads patterns context outer chosen last) :
      Leads patterns context
        ((action, task.verdict patterns context) :: outer) action
        last

/- What branches make of what the action inside them comes to. -/
def concludedAlong :
    List (Action × Bool) → ActionResult × Context →
      ActionResult × Context
  | [], finished => finished
  | (action, verdict) :: inner, finished =>
      concluded action
        (branchFinished verdict (concludedAlong inner finished))

theorem execute_of_leads
    {outer : List (Action × Bool)}
    {last : Action}
    (hLeads : Leads engine.patterns context outer action last) :
    engine.execute runChild scope action context =
      (engine.execute runChild scope last context).andThen
        fun finished =>
          Activity.done (concludedAlong outer finished) := by
  induction hLeads with
  | here => exact (Activity.andThen_done _).symm
  | into hTask hSelected hRest ih =>
      rw [execute_of_selected hTask hSelected, ih,
        Activity.andThen_done_andThen]
      rfl

/-
  A branch evaluates the condition it states, with its templates filled,
  and carries out the side that the condition selects once, on the
  variables as they are; the same goes for branches inside branches.  The
  side is the one that is stated, unless the configuration is an array:
  then it is the one that is stated only as long as nothing changes when
  its templates are filled twice.
-/
structure CarriesOutSide
    (engine : Engine)
    (runChild : RunChild)
    (scope : Scope)
    (action : Action)
    (task : BranchTask)
    (context : Context) : Prop where
  condition_eq :
    ∃ stated,
      action.config.condition? = some stated ∧
        Condition.decoder .plain (stated.fill context).node =
          .ok task.condition
  execute_of_some :
    ∀ chosen,
      task.selected? engine.patterns context = some chosen →
        (∃ stated,
          action.config.side? (task.verdict engine.patterns context) =
              some stated ∧
            Action.decoder .plain
                (Document.prefilled context action.config
                  stated).node = .ok chosen) ∧
          engine.execute runChild scope action context =
            (engine.execute runChild scope chosen
              context).andThen fun finished =>
                Activity.done
                  (concluded action
                    (branchFinished (task.verdict engine.patterns context)
                      finished))
  execute_of_none :
    task.selected? engine.patterns context = none →
      (action.config.side? (task.verdict engine.patterns context) =
          none ∨
        action.config.side? (task.verdict engine.patterns context) =
          some .null) ∧
        engine.execute runChild scope action context =
          Activity.done
            (concluded action
              (.ok
                (branchResult (task.verdict engine.patterns context)
                  (branchName
                    (task.verdict engine.patterns context))
                  none),
                context))
  execute_as_stated :
    ∀ stated authored,
      action.config.side? (task.verdict engine.patterns context) =
          some stated →
        Action.decoder .plain stated.node = .ok authored →
          ((∃ entries, action.config = .object entries) ∨
            ∃ handed,
              Action.decoder .plain
                  (stated.fill context).node = .ok handed ∧
                authored.Alike context handed) →
            engine.execute runChild scope action context =
              (engine.execute runChild scope authored
                context).andThen fun finished =>
                  Activity.done
                    (concluded action
                      (branchFinished
                        (task.verdict engine.patterns context)
                        finished))
  execute_along :
    ∀ outer last,
      Leads engine.patterns context outer action last →
        engine.execute runChild scope action context =
          (engine.execute runChild scope last
            context).andThen fun finished =>
              Activity.done (concludedAlong outer finished)

theorem carriesOutSide
    {task : BranchTask}
    (hTask :
      Task.ofConfig action.kind
        (filledConfig action context) = .ok (.branch task)) :
    engine.CarriesOutSide runChild scope action task
      context := by
  rcases BranchTask.read_of_config hTask with
    ⟨hKind, hCondition, _⟩
  have hFilled :
      filledConfig action context =
        fillBranchConfig context action.config := by
    simp only [filledConfig, hKind]
  have hSide :=
    BranchTask.sideRead_selected? hTask engine.patterns context
  rw [hFilled] at hCondition hSide
  rw [Document.condition?_fillBranchConfig] at hCondition
  rw [Document.side?_fillBranchConfig] at hSide
  refine ⟨?_, ?_, ?_, ?_, fun _ _ => execute_of_leads⟩
  · rcases hCondition with ⟨condition, hFound, hRead⟩
    rcases Option.map_eq_some_iff.mp hFound with
      ⟨stated, hStated, rfl⟩
    exact ⟨stated, hStated, hRead⟩
  · intro chosen hSelected
    refine ⟨?_, execute_of_selected hTask hSelected⟩
    rw [hSelected] at hSide
    rcases hSide.of_some with ⟨side, hFound, hRead⟩
    rcases Option.map_eq_some_iff.mp hFound with
      ⟨stated, hStated, rfl⟩
    exact ⟨stated, hStated, hRead⟩
  · intro hSelected
    refine ⟨?_, execute_of_unselected hTask hSelected⟩
    rw [hSelected] at hSide
    rcases hSide.of_none with hNone | hNull
    · exact Or.inl (Option.map_eq_none_iff.mp hNone)
    · rcases Option.map_eq_some_iff.mp hNull with
        ⟨stated, hStated, hEq⟩
      rw [Document.prefilled_eq_null_iff.mp hEq] at hStated
      exact Or.inr hStated
  · intro stated authored hStated hRead hAlike
    rw [hStated, Option.map_some] at hSide
    by_cases hSame :
        Document.prefilled context action.config stated =
          stated
    · rw [hSame] at hSide
      exact execute_of_selected hTask
        (hSide.eq_some_of_decoder hRead)
    · rcases hAlike with
        ⟨entries, hEntries⟩ | ⟨handed, hHanded, hAlike⟩
      · exact absurd (by rw [hEntries]; rfl) hSame
      · rw [Document.prefilled_eq_fill hSame] at hSide
        rw [execute_of_selected hTask
          (hSide.eq_some_of_decoder hHanded),
          execute_of_alike hAlike]

/- A note that looks like a template, and a user. -/
def noteContext : Context :=
  .ofFixed
    [("input",
      .object [("note", .text "\x7b\x7buser.id\x7d\x7d")]),
    ("user", .object [("id", .text "u1")])]

/- An action that keeps the note in a variable. -/
def keepNote : Document :=
  .object
    [("config",
      .object
        [("key", .text "note"),
        ("value", .text "\x7b\x7binput.note\x7d\x7d")]),
    ("id", .text "keep"),
    ("type", .text "store-data")]

/- A condition that always holds. -/
def noCondition : Document :=
  .object
    [("children", .array []),
    ("operator", .text "AND"),
    ("type", .text "group")]

/- A branch with its parts under their names. -/
def namedBranch : Action :=
  ⟨"named", "conditional-action",
    .object [("condition", noCondition), ("then", keepNote)],
    .stop, none⟩

/- A branch with its parts in a row. -/
def listedBranch : Action :=
  ⟨"listed", "conditional-action",
    .array [noCondition, keepNote], .stop, none⟩

/- The note that an activity leaves in its variable. -/
def noteOf
    (activity : Activity (ActionResult × Context)) :
    Option Document :=
  match (activity 0).ending with
  | .returned finished => finished.2.valueOf? "note"
  | .crashed _ => none

theorem namedBranch_carriesOutSide :
    ∃ task,
      Task.ofConfig namedBranch.kind
          (filledConfig namedBranch noteContext) =
            .ok (.branch task) ∧
        offline.CarriesOutSide offline.runBelow default
          namedBranch task noteContext :=
  ⟨_, rfl, carriesOutSide rfl⟩

/-
  In a row, the note is taken for a template: what it names is kept, while
  the action that is stated keeps the note itself.
-/
theorem listedBranch_fills_note :
    noteOf
        (offline.execute offline.runBelow default listedBranch
          noteContext) = some (.text "u1") ∧
      ∃ kept,
        Action.decoder .plain keepNote.node = .ok kept ∧
          noteOf
              (offline.execute offline.runBelow default kept
                noteContext) =
            some (.text "\x7b\x7buser.id\x7d\x7d") :=
  ⟨rfl, _, rfl, rfl⟩

end Engine

end Automation
