import Automation.Proofs.SortedRuns

/-
  Reports that are read back from inside other reports.

  A report is read back from the document that it is written as.  The
  output of an action that starts a rule is such a document, so what is
  read from it is the report of the run, however deeply the run is nested.

  Key definitions include:
    * `Report.IsReread`

  Key theorems include:
    * `Engine.Throughout.sorted`, from a report to those inside it
    * `Engine.reports_reread`, reports by themselves and inside others
-/

namespace Automation

/- The report is read from the document that it is written as. -/
def Report.IsReread
    (report : Report) : Prop :=
  ∀ dialect,
    Report.decoder dialect report.document.node = .ok report

namespace Engine

variable {engine : Engine}
variable
  {tells : Rule → Document → TriggerKind → Report → Prop}
variable {holds : Action → ActionResult → Prop}

mutual

/- Where a report is in order, all the reports inside it are. -/
theorem Throughout.sorted :
    ∀ {rule input trigger scope start report},
      Throughout engine tells holds rule input trigger scope
          start report →
        report.Sorted →
          Throughout engine (fun _ _ _ report => report.Sorted)
            holds rule input trigger scope start report
  | _, _, _, _, _, _, .intro hRun _ hDelivers hResults,
      hSorted =>
      .intro hRun hSorted hDelivers
        fun i result hResult action context time hAction =>
          ThroughoutResult.sorted
            (hResults i result hResult action context time
              hAction)
            (hSorted result (List.mem_of_getElem? hResult))

theorem ThroughoutResult.sorted :
    ∀ {action context scope start result},
      ThroughoutResult engine tells holds action context scope
          start result →
        result.Sorted →
          ThroughoutResult engine
            (fun _ _ _ report => report.Sorted) holds action
            context scope start result
  | _, _, _, _, _, .plain hHolds hBranch hRule, _ =>
      .plain hHolds hBranch hRule
  | _, _, _, _, _, .failed hHolds hStatus hOutput, _ =>
      .failed hHolds hStatus hOutput
  | _, _, _, _, _,
      .started hHolds hTask hRule hReport hOutput, hSorted =>
      .started hHolds hTask hRule
        (Throughout.sorted hReport
          ((Report.sorted_document_iff _).mp
            (hOutput ▸ hSorted)))
        hOutput
  | _, _, _, _, _, .idle hHolds hTask hSelected hOutput, _ =>
      .idle hHolds hTask hSelected hOutput
  | _, _, _, _, _,
      .chosen hHolds hTask hSelected hInner hOutput,
      hSorted =>
      .chosen hHolds hTask hSelected
        (ThroughoutResult.sorted hInner
          ((ActionResult.sorted_document_iff _).mp
            (Document.Sorted.of_entry? hSorted
              (hOutput ▸ entry?_branchResult _ _ _))))
        hOutput

end

/-
  Every report is read back from the document that it is written as, and so
  are all the reports that the actions of a run hand on: each of them is
  the report of the run that the action has started.
-/
theorem reports_reread :
    (∀ report : Report, report.Sorted → report.IsReread) ∧
      ∀ (engine : Engine) (rule : Rule) (input : Document)
        (trigger : TriggerKind) (activity : Activity Report)
        (start : Nat),
        engine.collaborators.AnswerSorted →
          input.Sorted →
            engine.run rule input trigger = .ok activity →
              ∃ report,
                (activity start).ending = .returned report ∧
                  engine.Throughout
                    (fun _ _ _ report => report.IsReread)
                    (fun _ _ => True) rule input trigger
                    (.root rule engine.settings.runTimeout start)
                    start report := by
  have hReread :
      ∀ report : Report, report.Sorted → report.IsReread :=
    fun report hSorted => (Report.reads_document hSorted).of_node
  refine ⟨hReread, ?_⟩
  intro engine rule input trigger activity start hAnswers
    hInput hRun
  rcases run_throughout hRun start with
    ⟨report, hEnding, hTree⟩
  have hSorted := run_sorted hAnswers hInput hRun hEnding
  refine ⟨report, hEnding, (hTree.sorted hSorted).imp ?_ ?_⟩
  · exact fun _ _ _ report => hReread report
  · exact fun _ _ _ => trivial

theorem fragileEngine_answerSorted :
    fragileEngine.collaborators.AnswerSorted where
  model := by
    intro _ request d hInput hAnswer
    by_cases hBad : request.model = "bad"
    · simp [fragileEngine, volatile, hBad] at hAnswer
    · simp only [fragileEngine, volatile, hBad, if_false,
        unhurried, Outcome.answered.injEq] at hAnswer
      rw [← hAnswer]
      exact hInput
  webhook := by
    intro _ request response _ hAnswer
    cases hAnswer

/- A run that crashes is read back from inside a branch. -/
theorem layered_reports_reread :
    fragileEngine.collaborators.AnswerSorted ∧
      Document.null.Sorted ∧
      ∃ (activity : Activity Report) (report fragile : Report)
          (first inner : ActionResult),
        fragileEngine.run layeredRule .null .manual =
            .ok activity ∧
          (activity 0).ending = .returned report ∧
          report.Sorted ∧
          report.IsReread ∧
          fragileEngine.Throughout
            (fun _ _ _ report => report.IsReread)
            (fun _ _ => True) layeredRule .null .manual
            (.root layeredRule 5000 0) 0 report ∧
          report.results[0]? = some first ∧
          first.output.entry? "result" = some inner.document ∧
          inner.output = fragile.document ∧
          fragile.IsReread ∧
          fragile.error? =
            some (Crash.runError ⟨some "model exploded"⟩) := by
  have hRun :
      ∃ activity report first d output,
        fragileEngine.run layeredRule .null .manual =
            .ok activity ∧
          (activity 0).ending = .returned report ∧
          report.results[0]? = some first ∧
          first.output ≠ .null ∧
          first.output.entry? "result" = some d ∧
          d.entry? "output" = some output ∧
          output ≠ .null :=
    ⟨_, _, _, _, _, rfl, rfl, rfl, nofun, rfl, rfl, nofun⟩
  rcases hRun with
    ⟨activity, report, first, d, output, hRun, hEnding, hFirst,
      hOutput, hEntry, hStated, hStates⟩
  rcases reports_reread.2 fragileEngine layeredRule .null
      .manual activity 0 fragileEngine_answerSorted
      Document.sorted_null hRun with
    ⟨other, hOther, hTree⟩
  rw [hEnding] at hOther
  cases hOther
  have hSorted : report.Sorted :=
    run_sorted fragileEngine_answerSorted
      Document.sorted_null hRun hEnding
  have hPlace :
      ∃ action context time,
        fragileEngine.Delivers layeredRule .null .manual
          (.root layeredRule 5000 0) 0 0 action context time
          first := by
    cases hTree with
    | intro hWithin => exact exists_delivers hWithin hFirst
  rcases hPlace with ⟨action, context, time, hDelivers⟩
  have hBranch := hTree.of_delivers hFirst hDelivers
  cases hDelivers with
  | inOrder hMode => cases hMode
  | sideBySide _ _ hAction hEpisode =>
      cases hAction
      have hTime : some 0 = some time :=
        congrArg (Option.map Prod.fst) hEpisode
      cases hTime
      rcases hBranch.exists_inner rfl rfl hOutput with
        ⟨inner, hInner, hStarted⟩
      rw [hInner, entry?_branchResult] at hEntry
      cases hEntry
      have hInnerOutput : inner.output ≠ .null := by
        rw [Option.map_some, Option.getD_some,
          inner.entry?_output] at hStated
        cases hStated
        exact hStates
      rcases hStarted.exists_report rfl rfl hInnerOutput with
        ⟨fragile, hDocument, hFragile⟩
      refine
        ⟨fragileEngine_answerSorted, Document.sorted_null,
          activity, report, fragile, _, inner, hRun, hEnding,
          hSorted, reports_reread.1 report hSorted, hTree,
          hFirst, ?_, hDocument, hFragile.tells_report, ?_⟩
      · rw [hInner]
        exact entry?_branchResult _ _ _
      cases hFragile with
      | intro hWithin =>
          cases hWithin
          rfl

end Engine

end Automation
