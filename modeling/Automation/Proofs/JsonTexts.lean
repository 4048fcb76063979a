import Automation.Proofs.ReportDocuments
import Automation.Proofs.ValueReading

/-
  Rules and reports that are read back from JSON text.

  What is read from a document is read from its compact and its spread
  text as well.  A reader gives up where containers lie too deeply inside
  one another, and it may miss a number with a fraction.  So a rule is
  read back if this happens to none of the documents that it states, and a
  report if it happens to none of its outputs.

  Key definitions include:
    * `Rule.stated`, the documents that a rule states

  Key theorems include:
    * `Json.decode_printed`, a value that is read from a text
    * `Rule.decode_printed` and `Report.decode_printed`
-/

namespace Automation

------------------------------------------------------------
-- Texts
------------------------------------------------------------

namespace Json

open Document (Spacing)

theorem atEnd_of_nil
    {cursor : Cursor}
    (hEnd : cursor.rest = []) :
    atEnd (some cursor) = .ok () := by
  have hSkip : (skip cursor).rest = [] := by
    rw [skip_rest, hEnd]
    rfl
  rw [atEnd, Option.map_some]
  generalize skip cursor = last at hSkip ⊢
  rcases last with ⟨line, column, text⟩
  cases hSkip
  rfl

/-
  What is read from a document is read from each of its texts, if the
  numbers are read from their digits and the reader does not run out of
  depth.
-/
theorem decode_printed
    {α : Type}
    {decoder : Decoder α}
    {d : Document}
    {a : α}
    (spacing : Spacing)
    (hReads : decoder.Reads d a)
    (hRereads : d.Rereads)
    (hDepth : d.depth < depthLimit) :
    decode decoder (d.printed spacing) = .ok a := by
  have hText :
      (Cursor.ofText (d.printed spacing)).rest =
        [] ++ (d.write spacing 0 ++ []) := by
    rw [Cursor.ofText, Document.printed, String.toList_ofList,
      List.nil_append, List.append_nil]
  have hFuel :
      (d.write spacing 0).length ≤
        (d.printed spacing).length + 2 := by
    rw [Document.printed, String.length_ofList]
    omega
  rcases reads_value spacing d hRereads hDepth hFuel ends_nil
      (skip_write hRereads rfl hText) with
    ⟨node, after, hRead, hNode, hAfter⟩
  rw [decode, decodeWithin, read, hRead]
  dsimp only
  rw [hReads .json node hNode]
  dsimp only
  rw [atEnd_of_nil hAfter]

end Json

------------------------------------------------------------
-- Numbers Of A Document
------------------------------------------------------------

namespace Document

theorem rereadsItems_iff
    {items : List Document} :
    RereadsItems items ↔ ∀ item ∈ items, item.Rereads := by
  induction items with
  | nil => simp [RereadsItems]
  | cons first rest ih => simp [RereadsItems, ih]

theorem rereadsEntries_iff
    {entries : List (String × Document)} :
    RereadsEntries entries ↔
      ∀ entry ∈ entries, entry.2.Rereads := by
  induction entries with
  | nil => simp [RereadsEntries]
  | cons first rest ih =>
      rw [RereadsEntries, ih, List.forall_mem_cons]

theorem rereads_array_map
    {α : Type}
    {f : α → Document}
    {values : List α}
    (hValues : ∀ value ∈ values, (f value).Rereads) :
    (array (values.map f)).Rereads := by
  rw [Rereads, rereadsItems_iff, List.forall_mem_map]
  exact hValues

theorem rereads_record
    {entries : List (String × Document)}
    (hEntries : ∀ entry ∈ entries, entry.2.Rereads) :
    (record entries).Rereads := by
  rw [record, Rereads, rereadsEntries_iff]
  intro entry hEntry
  exact hEntries entry (Table.mem_of_mem_ofList hEntry)

theorem rereads_word
    (w : UInt64) :
    (integer w.toNat).Rereads := by
  apply Number.rereads_integer
  have hBound := w.toNat_lt_size
  rw [UInt64.size] at hBound
  constructor
  · omega
  · omega

@[simp] theorem rereads_text
    (s : String) :
    (text s).Rereads := trivial

@[simp] theorem rereads_bool
    (b : Bool) :
    (bool b).Rereads := trivial

theorem rereads_optionalText
    (s? : Option String) :
    ∀ value ∈ s?.map text, value.Rereads := by
  intro value hValue
  rcases Option.map_eq_some_iff.mp hValue with ⟨s, _, rfl⟩
  trivial

end Document

------------------------------------------------------------
-- Rules
------------------------------------------------------------

namespace Condition

mutual

/- The documents that the tests compare with. -/
def values : Condition → List Document
  | .group _ members => memberValues members
  | .test _ _ value => [value]

def memberValues : List Condition → List Document
  | [] => []
  | x :: xs => values x ++ memberValues xs

end

mutual

theorem rereads_document :
    (condition : Condition) →
      (∀ value ∈ condition.values, value.Rereads) →
        condition.document.Rereads
  | .group _ members, hValues => by
      apply Document.rereads_record
      simp only [List.forall_mem_cons]
      exact
        ⟨trivial, trivial, rereads_documents members hValues,
          List.forall_mem_nil _⟩
  | .test _ _ value, hValues => by
      apply Document.rereads_record
      simp only [List.forall_mem_cons]
      exact
        ⟨trivial, trivial, trivial, hValues value (.head _),
          List.forall_mem_nil _⟩

theorem rereads_documents :
    (members : List Condition) →
      (∀ value ∈ memberValues members, value.Rereads) →
        Document.RereadsItems (documents members)
  | [], _ => trivial
  | x :: xs, hValues => by
      rw [memberValues, List.forall_mem_append] at hValues
      exact
        ⟨rereads_document x hValues.1,
          rereads_documents xs hValues.2⟩

end

end Condition

theorem Action.rereads_document
    {action : Action}
    (hConfig : action.config.Rereads) :
    action.document.Rereads := by
  apply Document.rereads_record
  simp only [List.forall_mem_append, List.forall_mem_cons,
    Document.forall_mem_entryOf]
  refine
    ⟨⟨trivial, trivial, hConfig, ?_, List.forall_mem_nil _⟩,
      Document.rereads_optionalText _⟩
  exact Document.rereads_record (by simp)

theorem Logic.rereads_document
    (logic : Logic)
    (hValues :
      ∀ value ∈ logic.condition.values, value.Rereads)
    (hConfigs :
      ∀ action ∈ logic.actions, action.config.Rereads) :
    logic.document.Rereads := by
  apply Document.rereads_record
  simp only [List.forall_mem_cons]
  refine
    ⟨logic.condition.rereads_document hValues, ?_,
      List.forall_mem_nil _⟩
  apply Document.rereads_array_map
  exact fun action hAction =>
    Action.rereads_document (hConfigs action hAction)

theorem InputField.rereads_document
    (field : InputField) :
    field.document.Rereads := by
  apply Document.rereads_record
  simp only [List.forall_mem_append, List.forall_mem_cons,
    Document.forall_mem_entryOf]
  exact
    ⟨⟨trivial, trivial, List.forall_mem_nil _⟩,
      Document.rereads_optionalText _⟩

theorem Trigger.rereads_document
    (trigger : Trigger) :
    trigger.document.Rereads := by
  have hSchema :
      ∀ value ∈ trigger.schema?.map (·.document),
        value.Rereads := by
    intro value hValue
    rcases Option.map_eq_some_iff.mp hValue with
      ⟨schema, _, rfl⟩
    apply Document.rereads_record
    simp only [List.forall_mem_cons]
    refine ⟨?_, List.forall_mem_nil _⟩
    exact
      Document.rereads_array_map fun field _ =>
        field.rereads_document
  apply Document.rereads_record
  simp only [List.forall_mem_append, List.forall_mem_cons,
    Document.forall_mem_entryOf]
  exact
    ⟨⟨⟨trivial, List.forall_mem_nil _⟩,
      Document.rereads_optionalText _⟩, hSchema⟩

namespace Rule

/- The documents that a rule states by itself. -/
def stated
    (rule : Rule) :
    List Document :=
  rule.logic.condition.values ++ rule.logic.actions.map (·.config)

theorem rereads_document
    {rule : Rule}
    (hStated : ∀ d ∈ rule.stated, d.Rereads) :
    rule.document.Rereads := by
  rw [stated, List.forall_mem_append, List.forall_mem_map]
    at hStated
  have hCost :
      ∀ value ∈
          rule.baseCost?.map fun cost =>
            Document.integer cost.toNat,
        value.Rereads := by
    intro value hValue
    rcases Option.map_eq_some_iff.mp hValue with
      ⟨cost, _, rfl⟩
    exact Document.rereads_word cost
  apply Document.rereads_record
  simp only [List.forall_mem_append, List.forall_mem_cons,
    Document.forall_mem_entryOf]
  exact
    ⟨⟨⟨⟨⟨trivial, trivial, trivial,
      rule.logic.rereads_document hStated.1 hStated.2, trivial,
      rule.trigger.rereads_document, trivial,
      List.forall_mem_nil _⟩,
      Document.rereads_optionalText _⟩, hCost⟩,
      Document.rereads_optionalText _⟩,
      Document.rereads_optionalText _⟩

/- A rule is read back from its compact and from its spread text. -/
theorem decode_printed
    {rule : Rule}
    (hSorted : rule.Sorted)
    (hStated : ∀ d ∈ rule.stated, d.Rereads)
    (hDepth : rule.document.depth < Json.depthLimit) :
    Json.decode Rule.decoder rule.document.compact = .ok rule ∧
      Json.decode Rule.decoder rule.document.spread =
        .ok rule := by
  have hText :=
    fun spacing =>
      Json.decode_printed spacing (reads_document hSorted)
        (rereads_document hStated) hDepth
  exact ⟨hText .tight, hText .wide⟩

end Rule

------------------------------------------------------------
-- Reports
------------------------------------------------------------

theorem ActionResult.rereads_document
    {result : ActionResult}
    (hOutput : result.output.Rereads) :
    result.document.Rereads := by
  apply Document.rereads_record
  simp only [List.forall_mem_append, List.forall_mem_cons,
    Document.forall_mem_entryOf]
  exact
    ⟨⟨trivial, trivial, trivial, hOutput,
      List.forall_mem_nil _⟩, Document.rereads_optionalText _⟩

namespace Report

theorem rereads_document
    {report : Report}
    (hOutputs :
      ∀ result ∈ report.results, result.output.Rereads) :
    report.document.Rereads := by
  have hResults :
      (Document.array
        (report.results.map (·.document))).Rereads := by
    apply Document.rereads_array_map
    exact fun result hResult =>
      ActionResult.rereads_document (hOutputs result hResult)
  have hDiagnostics :
      ∀ value ∈ report.diagnostics?, value.Rereads := by
    intro value hValue
    rw [diagnostics?] at hValue
    split at hValue
    · cases hValue
    · cases hValue
      exact Document.rereads_array_map fun _ _ => trivial
  rw [document_eq]
  apply Document.rereads_record
  simp only [List.forall_mem_append, List.forall_mem_cons,
    Document.forall_mem_entryOf]
  exact
    ⟨⟨⟨trivial, trivial, trivial, trivial, trivial, hResults,
      trivial, Document.rereads_word _, Document.rereads_word _,
      List.forall_mem_nil _⟩,
      Document.rereads_optionalText _⟩, hDiagnostics⟩

/- A report is read back from its compact and from its spread text. -/
theorem decode_printed
    {report : Report}
    (hSorted : report.Sorted)
    (hOutputs :
      ∀ result ∈ report.results, result.output.Rereads)
    (hDepth : report.document.depth < Json.depthLimit) :
    Json.decode Report.decoder report.document.compact =
        .ok report ∧
      Json.decode Report.decoder report.document.spread =
        .ok report := by
  have hText :=
    fun spacing =>
      Json.decode_printed spacing (reads_document hSorted)
        (rereads_document hOutputs) hDepth
  exact ⟨hText .tight, hText .wide⟩

end Report

end Automation
