import Automation.Proofs.RuleDocuments
import Automation.Proofs.Spellings
import Automation.Report

/-
  The documents that reports are written as.

  A report holds documents of its own, the outputs of its actions, and one
  of these may be another report.  Where the outputs are in order, a report
  is read back from the document that it is written as, which is in order
  itself.

  Key definitions include:
    * `ActionResult.Sorted` and `Report.Sorted`

  Key theorems include:
    * `ActionResult.reads_document`, a result that is read back
    * `Report.reads_document`, a report that is read back
    * `Report.sorted_document_iff`, the order of a whole report
-/

namespace Automation

------------------------------------------------------------
-- Reports In Order
------------------------------------------------------------

def ActionResult.Sorted
    (result : ActionResult) : Prop :=
  result.output.Sorted

/- The outputs of all actions are in order. -/
def Report.Sorted
    (report : Report) : Prop :=
  ∀ result ∈ report.results, result.Sorted

------------------------------------------------------------
-- Scalars
------------------------------------------------------------

theorem Identifier.reads_text
    (id : Identifier) :
    Identifier.decoder.Reads (.text id.text) id := by
  intro dialect node hNode
  rcases hNode.text with ⟨start, place, spelling, rfl⟩
  rw [decoder, decoder.readText, ofText_text]

theorem Timestamp.reads_text
    (t : Timestamp) :
    Timestamp.decoder.Reads (.text t.text) t := by
  intro dialect node hNode
  rcases hNode.text with ⟨start, place, spelling, rfl⟩
  rw [decoder, decoder.readText, ofText_text]

theorem ActionStatus.reads_name
    (status : ActionStatus) :
    ActionStatus.decoder.Reads (.text status.name) status := by
  apply Decoder.reads_enumeration
  cases status <;> rfl

theorem RunStatus.reads_name
    (status : RunStatus) :
    RunStatus.decoder.Reads (.text status.name) status := by
  apply Decoder.reads_enumeration
  cases status <;> rfl

theorem sorted_optionalText
    (s? : Option String) :
    ∀ value ∈ s?.map Document.text, value.Sorted := by
  intro value hValue
  rcases Option.map_eq_some_iff.mp hValue with ⟨s, _, rfl⟩
  trivial

------------------------------------------------------------
-- Results
------------------------------------------------------------

namespace ActionResult

theorem reads_document
    {result : ActionResult}
    (hSorted : result.Sorted) :
    ActionResult.decoder.Reads result.document result := by
  rcases result with ⟨id, type, status, output, error?⟩
  apply Record.reads_record _ rfl
  apply Record.reads_seq _ (Record.reads_optionalText (by simp))
  apply Record.reads_seq _
    (Record.reads_field (by simp)
      (Decoder.reads_document hSorted))
  apply Record.reads_seq _
    (Record.reads_field (by simp) status.reads_name)
  apply Record.reads_seq _
    (Record.reads_field (by simp) (Decoder.reads_text type))
  apply Record.reads_map
  exact
    Record.reads_field (by simp) (Decoder.reads_text id)

/- The output of a result is under its name. -/
theorem entry?_output
    (result : ActionResult) :
    result.document.entry? "output" = some result.output := by
  simp [document, Document.record, Document.entry?]

theorem sorted_document_iff
    (result : ActionResult) :
    result.document.Sorted ↔ result.Sorted := by
  constructor
  · intro hSorted
    exact hSorted.of_entry? result.entry?_output
  · intro hOutput
    apply Document.sorted_record
    simp only [List.forall_mem_append, List.forall_mem_cons,
      Document.forall_mem_entryOf]
    refine
      ⟨⟨trivial, trivial, trivial, hOutput,
        List.forall_mem_nil _⟩, sorted_optionalText _⟩

end ActionResult

------------------------------------------------------------
-- Reports
------------------------------------------------------------

namespace Report

/- The diagnostics as they are written, if there are any. -/
def diagnostics?
    (report : Report) :
    Option Document :=
  if report.diagnostics.isEmpty then none
  else some (.array (report.diagnostics.map .text))

/- All that may be left out of a report is left out in the same way. -/
theorem document_eq
    (report : Report) :
    report.document =
      .record
        ([("executionId", .text report.executionId.text),
          ("ruleId", .text report.ruleId),
          ("triggerType", .text report.trigger.name),
          ("startedAt", .text report.startedAt.text),
          ("conditionsMet", .bool report.conditionsMet),
          ("actionResults",
            .array (report.results.map (·.document))),
          ("status", .text report.status.name),
          ("executionTimeMs",
            .integer report.elapsedMs.toNat),
          ("tokenCost", .integer report.cost.toNat)] ++
          Document.entryOf "errorMessage"
            (report.error?.map .text) ++
          Document.entryOf "diagnostics"
            report.diagnostics?) := by
  rw [document, diagnostics?]
  split <;> rfl

/- A report is read back from the document it is written as. -/
theorem reads_document
    {report : Report}
    (hSorted : report.Sorted) :
    Report.decoder.Reads report.document report := by
  rw [document_eq]
  rcases report with
    ⟨id, rule, trigger, startedAt, conditionsMet, results,
      status, elapsedMs, cost, error?, diagnostics⟩
  have hResults :
      (Decoder.listOf ActionResult.decoder).Reads
        (.array (results.map (·.document))) results := by
    apply Decoder.reads_listOf
    intro result hResult
    exact ActionResult.reads_document (hSorted result hResult)
  have hDiagnostics :
      (Decoder.listOf Decoder.text).Reads
        (.array (diagnostics.map .text)) diagnostics := by
    apply Decoder.reads_listOf
    exact fun s _ => Decoder.reads_text s
  apply Record.reads_record _ rfl
  refine Record.reads_seq ?_ ?diagnostics
  case diagnostics =>
    cases diagnostics with
    | nil =>
        refine Record.reads_absent ?_ fun _ => rfl
        simp [diagnostics?]
    | cons first rest =>
        refine Record.reads_field ?_ hDiagnostics
        simp [diagnostics?]
  apply Record.reads_seq _ (Record.reads_optionalText (by simp))
  apply Record.reads_seq _
    (Record.reads_field (by simp) (Decoder.reads_word cost))
  apply Record.reads_seq _
    (Record.reads_field (by simp)
      (Decoder.reads_word elapsedMs))
  apply Record.reads_seq _
    (Record.reads_field (by simp) status.reads_name)
  apply Record.reads_seq _
    (Record.reads_field (by simp) hResults)
  apply Record.reads_seq _
    (Record.reads_field (by simp)
      (Decoder.reads_boolean conditionsMet))
  apply Record.reads_seq _
    (Record.reads_field (by simp) startedAt.reads_text)
  apply Record.reads_seq _
    (Record.reads_field (by simp) trigger.reads_name)
  apply Record.reads_seq _
    (Record.reads_field (by simp) (Decoder.reads_text rule))
  apply Record.reads_map
  exact Record.reads_field (by simp) id.reads_text

/- The results of a report are under their name, one after the other. -/
theorem entry?_actionResults
    (report : Report) :
    report.document.entry? "actionResults" =
      some (.array (report.results.map (·.document))) := by
  simp [document_eq, Document.record, Document.entry?]

theorem sorted_document_iff
    (report : Report) :
    report.document.Sorted ↔ report.Sorted := by
  constructor
  · intro hSorted result hResult
    have hResults :=
      Document.sorted_array_map.mp
        (hSorted.of_entry? report.entry?_actionResults)
    exact
      result.sorted_document_iff.mp (hResults result hResult)
  · intro hResults
    have hArray :
        (Document.array
          (report.results.map (·.document))).Sorted := by
      apply Document.sorted_array_map.mpr
      intro result hResult
      exact result.sorted_document_iff.mpr (hResults _ hResult)
    have hDiagnostics :
        ∀ value ∈ report.diagnostics?, value.Sorted := by
      intro value hValue
      rw [diagnostics?] at hValue
      split at hValue
      · cases hValue
      · cases hValue
        exact
          Document.sorted_array_map.mpr fun _ _ => trivial
    rw [document_eq]
    apply Document.sorted_record
    simp only [List.forall_mem_append, List.forall_mem_cons,
      Document.forall_mem_entryOf]
    refine
      ⟨⟨⟨trivial, trivial, trivial, trivial, trivial, hArray,
        trivial, trivial, trivial, List.forall_mem_nil _⟩,
        sorted_optionalText _⟩, hDiagnostics⟩

end Report

end Automation
