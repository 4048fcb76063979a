import Automation.Proofs.Outcomes
import Automation.Proofs.ReadValues
import Automation.Proofs.ReportDocuments
import Automation.Proofs.ResultTrees

/-
  Runs keep documents in order.

  Where the input of a run and the answers of the collaborators are in
  order, so is all that the run makes of them: what actions are configured
  with once it is understood, the variables, and the outputs that are
  reported.  The rules themselves may hold documents that are not, as these
  are read before they are used.

  Key definitions include:
    * `Context.Sorted`, contexts with sorted values
    * `Collaborators.AnswerSorted`, collaborators with sorted answers

  Key theorems include:
    * `Task.sorted_of_ofConfig`, what is read from a configuration
    * `Engine.concludes_sorted`, what comes of sorted contexts
    * `Engine.run_sorted`, the reports of outermost runs
-/

namespace Automation

------------------------------------------------------------
-- Values Of A Context
------------------------------------------------------------

namespace Document

variable {d value : Document}

theorem Sorted.of_step?
    {segment : String}
    (hSorted : d.Sorted)
    (hStep : d.step? segment = some value) :
    value.Sorted := by
  cases d with
  | object entries => exact hSorted.of_entry? hStep
  | array items =>
      rw [step?] at hStep
      split at hStep
      · exact
          sorted_array.mp hSorted value
            (List.mem_of_getElem? hStep)
      · cases hStep
  | null => cases hStep
  | bool b => cases hStep
  | number n => cases hStep
  | string s => cases hStep

theorem Sorted.of_descend
    {segments : List String}
    (hSorted : d.Sorted)
    (hDescend : d.descend segments = some value) :
    value.Sorted := by
  induction segments generalizing d with
  | nil =>
      cases hDescend
      exact hSorted
  | cons segment rest ih =>
      rw [descend] at hDescend
      split at hDescend
      · rename_i inner hStep
        exact ih (hSorted.of_step? hStep) hDescend
      · cases hDescend

end Document

/- The values of a context are in order. -/
structure Context.Sorted
    (context : Context) : Prop where
  fixed : ∀ entry ∈ context.fixed, entry.2.Sorted
  assigned : ∀ entry ∈ context.assigned, entry.2.Sorted

namespace Context

variable {context : Context}
variable {value : Document}

theorem Sorted.setVariable
    (hSorted : context.Sorted)
    (hValue : value.Sorted)
    (name : String) :
    (context.setVariable name value).Sorted where
  fixed := hSorted.fixed
  assigned := by
    intro entry hEntry
    rcases Table.mem_of_mem_insert hEntry with rfl | hOld
    · exact hValue
    · exact hSorted.assigned entry hOld

theorem sorted_of_find?
    {table : Entries}
    {key : String}
    (hTable : ∀ entry ∈ table, entry.2.Sorted)
    (hFind : Table.find? table key = some value) :
    value.Sorted :=
  hTable (key, value) (Table.mem_of_find? hFind)

theorem Sorted.of_lookup
    {segments : List String}
    (hSorted : context.Sorted)
    (hLookup : context.lookup segments = some value) :
    value.Sorted := by
  unfold lookup at hLookup
  split at hLookup
  · cases hLookup
  · split at hLookup
    · rename_i root hFind
      exact
        (sorted_of_find? hSorted.fixed hFind).of_descend hLookup
    · split at hLookup
      · rename_i root hFind
        exact
          (sorted_of_find? hSorted.assigned hFind).of_descend
            hLookup
      · split at hLookup
        · rename_i scope key more hScope
          have hTable : ∀ entry ∈ scope, entry.2.Sorted := by
            unfold scope? at hScope
            split at hScope
            · cases hScope
              exact hSorted.assigned
            · split at hScope
              · cases hScope
                exact hSorted.fixed
              · cases hScope
          split at hLookup
          · rename_i root hFind
            exact
              (sorted_of_find? hTable hFind).of_descend hLookup
          · cases hLookup
        · cases hLookup

/- What a path names is in order, and so is null. -/
theorem Sorted.of_resolve
    {path : String}
    (hSorted : context.Sorted)
    (hResolve : context.resolve path = some value) :
    value.Sorted := by
  unfold resolve at hResolve
  dsimp only at hResolve
  split at hResolve
  · cases hResolve
  · exact hSorted.of_lookup hResolve

theorem Sorted.input
    (hSorted : context.Sorted) :
    context.input.Sorted := by
  unfold Context.input
  cases hFind : Table.find? context.fixed "input" with
  | none => trivial
  | some value => exact sorted_of_find? hSorted.fixed hFind

theorem sorted_freshContext
    (engine : Engine)
    (rule : Rule)
    {input : Document}
    (trigger : TriggerKind)
    (hInput : input.Sorted) :
    (engine.freshContext rule input trigger).Sorted where
  fixed := by
    intro entry hEntry
    unfold Engine.freshContext forRun ofFixed at hEntry
    dsimp only at hEntry
    have hParts :
        ∀ part ∈
            [("input", input), ("trigger", .text trigger.name),
              ("rule",
                .record
                  [("id", .text rule.id),
                    ("name", .text rule.name)]),
              ("user", .record [("id", .text rule.user)]),
              ("timestamp",
                .text engine.stamp.startedAt.textWithOffset)],
          part.2.Sorted := by
      simp only [List.forall_mem_cons]
      refine
        ⟨hInput, trivial, Document.sorted_record (by simp),
          Document.sorted_record (by simp), trivial,
          List.forall_mem_nil _⟩
    exact hParts entry (Table.mem_of_mem_ofList hEntry)
  assigned := List.forall_mem_nil _

end Context

------------------------------------------------------------
-- Tasks
------------------------------------------------------------

/- The documents that a task holds are in order. -/
def Task.Sorted : Task → Prop
  | .model task => ∀ input ∈ task.input?, input.Sorted
  | .webhook request =>
      ∀ payload ∈ request.payload?, payload.Sorted
  | .store task => task.value.Sorted
  | .transform task => Table.Sorted task.outputs
  | .rule task => ∀ input ∈ task.input?, input.Sorted
  | _ => True

namespace Task

theorem holds_of_read
    {α : Type}
    {P : α → Prop}
    {decode : Decoder α}
    {kind : ActionKind}
    {config : Document}
    {a : α}
    (hDecode : decode.Gives P)
    (hRead : read kind decode config = .ok a) :
    P a := by
  unfold read at hRead
  split at hRead
  · rename_i b hB
    cases hRead
    exact hDecode .plain config.node a hB
  · cases hRead

theorem gives_modelTask :
    ModelTask.record.Gives fun task =>
      ∀ input ∈ task.input?, input.Sorted := by
  refine
    Record.gives_seq ?_
      (Record.gives_optional _ Decoder.gives_document)
  refine Record.gives_map ?_ (Record.gives_any _)
  intro model? _ input? hInput
  exact hInput

theorem gives_webhook :
    WebhookRequest.record.Gives fun request =>
      ∀ payload ∈ request.payload?, payload.Sorted := by
  refine
    Record.gives_seq ?_
      (Record.gives_optional _ Decoder.gives_document)
  apply Record.gives_ignoring
  apply Record.gives_ignoring
  refine Record.gives_map ?_ (Record.gives_any _)
  intro url _ method headers payload? hPayload
  exact hPayload

theorem gives_storeTask :
    StoreTask.record.Gives fun task => task.value.Sorted := by
  refine
    Record.gives_seq ?_
      (Record.gives_defaulted ["value"] Decoder.gives_document
        trivial)
  refine Record.gives_map ?_ (Record.gives_any _)
  intro key _ value hValue
  exact hValue

theorem gives_transformTask :
    TransformTask.record.Gives fun task =>
      Table.Sorted task.outputs := by
  refine
    Record.gives_map ?_
      (Record.gives_defaulted _ (Decoder.gives_tableOf _) .nil)
  intro outputs hOutputs
  exact hOutputs

theorem gives_ruleTask :
    RuleTask.record.Gives fun task =>
      ∀ input ∈ task.input?, input.Sorted := by
  refine
    Record.gives_seq ?_
      (Record.gives_optional _ Decoder.gives_document)
  refine Record.gives_map ?_ (Record.gives_any _)
  intro rule _ input? hInput
  exact hInput

theorem sorted_of_read
    {α : Type}
    {decode : Decoder α}
    {make : α → Task}
    {kind : ActionKind}
    {config : Document}
    {task : Task}
    (hDecode : decode.Gives fun a => (make a).Sorted)
    (hRead : (read kind decode config).map make = .ok task) :
    task.Sorted := by
  rcases map_eq_ok hRead with ⟨a, hA, rfl⟩
  have hValue := holds_of_read hDecode hA
  exact hValue

/- Whatever a configuration is, what is read from it is in order. -/
theorem sorted_of_ofConfig
    {kind : ActionKind}
    {config : Document}
    {task : Task}
    (hTask : ofConfig kind config = .ok task) :
    task.Sorted := by
  unfold ofConfig at hTask
  dsimp only at hTask
  cases kind with
  | triggerModel =>
      refine sorted_of_read ?_ hTask
      exact Record.gives_decoder _ gives_modelTask
  | callWebhook =>
      refine sorted_of_read ?_ hTask
      exact Record.gives_decoder _ gives_webhook
  | storeData =>
      refine sorted_of_read ?_ hTask
      exact Record.gives_decoder _ gives_storeTask
  | transformData =>
      refine sorted_of_read ?_ hTask
      exact Record.gives_decoder _ gives_transformTask
  | triggerRule =>
      refine sorted_of_read ?_ hTask
      exact Record.gives_decoder _ gives_ruleTask
  | unsupported type =>
      cases hTask
      trivial
  | sendNotification =>
      refine sorted_of_read ?_ hTask
      exact fun _ _ _ _ => trivial
  | branch =>
      refine sorted_of_read ?_ hTask
      exact fun _ _ _ _ => trivial

end Task

theorem Binary64.sorted_document
    (x : Binary64) :
    x.document.Sorted := by
  unfold document
  split
  · split
    · split <;> trivial
    · trivial
  · trivial

theorem Operation.sorted_apply
    (operation : Operation)
    {source : Document}
    (hSource : source.Sorted) :
    (operation.apply source).Sorted := by
  cases operation with
  | copy => exact hSource
  | uppercase => trivial
  | lowercase => trivial
  | sum => exact source.sum.sorted_document

theorem TransformTask.sorted_output
    {task : TransformTask}
    {context : Context}
    (hTask : Table.Sorted task.outputs)
    (hContext : context.Sorted) :
    (task.output context).Sorted := by
  apply Document.sorted_object.mpr
  constructor
  · exact List.pairwise_map.mpr hTask
  · intro entry hEntry
    rcases List.mem_map.mp hEntry with
      ⟨⟨key, transform⟩, _, rfl⟩
    dsimp only
    apply transform.operation.sorted_apply
    cases hResolve : context.resolve transform.source with
    | none => trivial
    | some value => exact hContext.of_resolve hResolve

------------------------------------------------------------
-- Actions
------------------------------------------------------------

/- Collaborators that answer in order what they are asked in order. -/
structure Collaborators.AnswerSorted
    (collaborators : Collaborators) : Prop where
  model :
    ∀ time request d,
      request.input.Sorted →
        (collaborators.model time request).outcome =
            .answered d →
          d.Sorted
  webhook :
    ∀ time request response,
      (∀ payload ∈ request.payload?, payload.Sorted) →
        (collaborators.webhook time request).outcome =
            .answered response →
          response.body.Sorted

/- An answer is what the reply holds. -/
theorem Activity.perform_yields
    {α : Type}
    (call : Call)
    (replyAt : Nat → Reply α) :
    (perform call replyAt).Yields fun answer =>
      ∀ a,
        answer = .ok a →
          ∃ time, (replyAt time).outcome = .answered a := by
  constructor
  intro start answer hEnding a hAnswer
  unfold perform at hEnding
  dsimp only at hEnding
  split at hEnding
  · rename_i hOutcome
    cases hEnding
    cases hAnswer
    exact ⟨start, hOutcome⟩
  · cases hEnding
    cases hAnswer
  · cases hEnding

/- What a task has come to is in order, if it has come to anything. -/
def TaskResult.Sorted : TaskResult → Prop
  | .ok achievement => achievement.output.Sorted
  | .error _ => True

namespace Engine

variable {engine : Engine}
variable {runChild : RunChild}
variable {scope : Scope}
variable {context : Context}
variable {action : Action}

theorem sorted_concluded
    {finished : TaskResult × Context}
    (hOutcome : TaskResult.Sorted finished.1)
    (hContext : finished.2.Sorted) :
    (concluded action finished).1.Sorted ∧
      (concluded action finished).2.Sorted := by
  have hResult : (resultOf action finished.1).Sorted := by
    cases hFinished : finished.1 with
    | error fault => trivial
    | ok achievement =>
        rw [hFinished] at hOutcome
        exact hOutcome
  refine ⟨hResult, ?_⟩
  unfold concluded writeOutput
  split
  · exact hContext.setVariable hResult _
  · exact hContext

/- The input of a task, or else the one of its run. -/
theorem sorted_statedInput
    {input? : Option Document}
    (hContext : context.Sorted)
    (hStated : ∀ input ∈ input?, input.Sorted) :
    (input?.getD context.input).Sorted := by
  cases input? with
  | none => exact hContext.input
  | some input => exact hStated input rfl

theorem runModel_sorted
    (hAnswers : engine.collaborators.AnswerSorted)
    (hContext : context.Sorted)
    {task : ModelTask}
    (hTask : ∀ input ∈ task.input?, input.Sorted) :
    (engine.runModel scope task context).Yields
      TaskResult.Sorted := by
  unfold runModel
  split
  · exact .done trivial
  · apply (Activity.perform_yields _ _).andThen
    intro answer hAnswer
    cases answer with
    | error fault => exact .done trivial
    | ok output =>
        rcases hAnswer output rfl with ⟨time, hOutcome⟩
        have hOutput : output.Sorted :=
          hAnswers.model time _ output
            (sorted_statedInput hContext hTask) hOutcome
        apply Activity.Yields.done
        exact Document.sorted_record (by simp [hOutput])

theorem runNotice_sorted
    (task : NoticeTask) :
    (engine.runNotice scope task).Yields
      TaskResult.Sorted := by
  unfold runNotice
  apply Activity.Yields.andThen (.any _)
  intro answer _
  have hRecipients :
      (Document.array
        (task.recipients.addresses.map .text)).Sorted :=
    Document.sorted_array_map.mpr fun _ _ => trivial
  apply Activity.Yields.done
  exact Document.sorted_record (by simp [hRecipients])

theorem runWebhook_sorted
    (hAnswers : engine.collaborators.AnswerSorted)
    {request : WebhookRequest}
    (hRequest :
      ∀ payload ∈ request.payload?, payload.Sorted) :
    (engine.runWebhook request).Yields TaskResult.Sorted := by
  unfold runWebhook
  split
  · exact .done trivial
  · apply (Activity.perform_yields _ _).andThen
    intro answer hAnswer
    cases answer with
    | error fault => exact .done trivial
    | ok response =>
        rcases hAnswer response rfl with ⟨time, hOutcome⟩
        have hBody : response.body.Sorted :=
          hAnswers.webhook time _ response hRequest hOutcome
        dsimp only
        split
        · apply Activity.Yields.done
          exact Document.sorted_record (by simp [hBody])
        · apply Activity.Yields.done
          exact Document.sorted_record (by simp [hBody])

/- A way to carry out runs that keeps documents in order. -/
def KeepsSorted
    (runChild : RunChild) : Prop :=
  ∀ rule input scope,
    input.Sorted →
      (runChild rule input scope).Yields Report.Sorted

theorem runRule_sorted
    (hChild : KeepsSorted runChild)
    (hContext : context.Sorted)
    {task : RuleTask}
    (hTask : ∀ input ∈ task.input?, input.Sorted) :
    (engine.runRule runChild scope task context).Yields
      TaskResult.Sorted := by
  have hInput : (task.input?.getD context.input).Sorted :=
    sorted_statedInput hContext hTask
  constructor
  intro start outcome hEnding
  rcases (runRule_yields_report task).of_returned start outcome
      hEnding with
    ⟨fault, rfl⟩ |
      ⟨rule, child, time, finish, report, _, hRun, rfl⟩
  · trivial
  · have hReport :=
      (hChild rule _ child hInput).of_returned time report hRun
    rw [TaskResult.Sorted, chainedResult_output]
    exact report.sorted_document_iff.mpr hReport

theorem sorted_branchResult
    (verdict : Bool)
    (branch : String)
    {result? : Option ActionResult}
    (hResult : ∀ result ∈ result?, result.Sorted) :
    TaskResult.Sorted
      (.ok (branchResult verdict branch result?)) := by
  have hOutput :
      Document.Sorted
        ((result?.map ActionResult.document).getD .null) := by
    cases result? with
    | none => trivial
    | some result =>
        exact
          result.sorted_document_iff.mpr (hResult result rfl)
  rw [TaskResult.Sorted, branchResult_output]
  exact Document.sorted_record (by simp [hOutput])

theorem concludes_sorted
    (hAnswers : engine.collaborators.AnswerSorted)
    (hChild : KeepsSorted runChild)
    (hContext : context.Sorted) :
    engine.Concludes runChild scope context
      fun _ finished =>
        finished.1.Sorted ∧ finished.2.Sorted where
  fault := fun _ _ _ => sorted_concluded trivial hContext
  idle := by
    intro action task _ _
    exact
      sorted_concluded (sorted_branchResult _ _ nofun) hContext
  chosen := by
    intro action task selected finished _ _ hInner
    refine sorted_concluded (sorted_branchResult _ _ ?_) hInner.2
    intro result hResult
    cases hResult
    exact hInner.1
  task := by
    intro action task execute hTask hBranch
    have hSorted := Task.sorted_of_ofConfig hTask
    have hKeeping :
        ∀ {activity : Activity TaskResult},
          activity.Yields TaskResult.Sorted →
            (keeping context activity).Yields fun finished =>
              (concluded action finished).1.Sorted ∧
                (concluded action finished).2.Sorted := by
      intro activity hActivity
      apply hActivity.andThen
      intro outcome hOutcome
      exact .done (sorted_concluded hOutcome hContext)
    cases task with
    | model task =>
        exact
          hKeeping (runModel_sorted hAnswers hContext hSorted)
    | notice task => exact hKeeping (runNotice_sorted task)
    | webhook request =>
        exact hKeeping (runWebhook_sorted hAnswers hSorted)
    | store task =>
        apply Activity.Yields.done
        unfold runStore
        split
        · exact sorted_concluded trivial hContext
        · have hValue : task.value.Sorted := hSorted
          refine sorted_concluded ?_ ?_
          · exact Document.sorted_record (by simp [hValue])
          · exact hContext.setVariable hValue task.key
    | transform task =>
        apply Activity.Yields.done
        exact
          sorted_concluded
            (TransformTask.sorted_output hSorted hContext)
            hContext
    | branch task => exact absurd rfl hBranch
    | rule task =>
        exact
          hKeeping (runRule_sorted hChild hContext hSorted)
    | unsupported type =>
        exact .done (sorted_concluded trivial hContext)

theorem dispatch_sorted
    (hAnswers : engine.collaborators.AnswerSorted)
    (hChild : KeepsSorted runChild) :
    Carries (engine.dispatch runChild scope) Context.Sorted
      fun _ result => result.Sorted := by
  apply carries_dispatch
  · intro action context hContext
    exact
      execute_yields_each
        (concludes_sorted hAnswers hChild hContext) action
  · exact fun _ _ => trivial

------------------------------------------------------------
-- Runs
------------------------------------------------------------

theorem runWithin_sorted
    (hAnswers : engine.collaborators.AnswerSorted)
    (hChild : KeepsSorted runChild)
    (rule : Rule)
    {input : Document}
    (trigger : TriggerKind)
    (scope : Scope)
    (hInput : input.Sorted) :
    (engine.runWithin runChild rule input trigger
      scope).Yields Report.Sorted := by
  constructor
  intro start report hEnding
  have hDispatch :
      Carries (engine.dispatch runChild scope) Context.Sorted
        fun _ result => result.Sorted :=
    dispatch_sorted hAnswers hChild
  have hYields :=
    runWithin_yields_each hDispatch rule input trigger
      (Context.sorted_freshContext engine rule trigger hInput)
  rcases hYields.of_returned start report hEnding with
    ⟨outcome, hOutcome, rfl⟩
  intro result hResult
  rcases hOutcome.results.of_mem hResult with
    ⟨action, _, hSorted⟩
  exact hSorted

theorem runChained_sorted
    (hAnswers : engine.collaborators.AnswerSorted)
    (depth : Nat) :
    KeepsSorted (engine.runChained depth) := by
  induction depth with
  | zero =>
      intro rule input scope _
      exact .done nofun
  | succ depth ih =>
      intro rule input scope hInput
      exact
        runWithin_sorted hAnswers ih rule .chained scope hInput

/- The report of a run is in order. -/
theorem run_sorted
    {rule : Rule}
    {input : Document}
    {trigger : TriggerKind}
    {activity : Activity Report}
    {report : Report}
    {start : Nat}
    (hAnswers : engine.collaborators.AnswerSorted)
    (hInput : input.Sorted)
    (hRun : engine.run rule input trigger = .ok activity)
    (hEnding : (activity start).ending = .returned report) :
    report.Sorted := by
  rcases run_of_runWithin hRun start with
    ⟨other, hWithin, hReport, _⟩
  rw [hEnding] at hReport
  cases hReport
  have hYields :=
    runWithin_sorted hAnswers
      (runChained_sorted hAnswers
        engine.settings.maxChainDepth)
      rule trigger
      (.root rule engine.settings.runTimeout start) hInput
  exact hYields.of_returned start report hWithin

end Engine

end Automation
