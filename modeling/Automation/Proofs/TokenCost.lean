import Automation.Proofs.ReportDocuments
import Automation.Proofs.ResultTrees

/-
  The cost of a run, recomputed from its report.

  A run costs what its rule costs at least, and a unit for each so many
  bytes of its input and of the results that it reports.  So the written
  report and the input are enough to tell the cost, on every way a run can
  end.  A report inside another one tells its own cost, and is paid for in
  the outer one as well, as a part of the results there.

  Key definitions include:
    * `Engine.baseCost`, what a run of a rule costs at least
    * `unitsOf`, the units of an input and of results
    * `Report.Accounts`, a report that tells its cost

  Key theorems include:
    * `runCost_toNat`, the cost as a number
    * `Engine.run_accounts`, reports and the reports inside them
-/

namespace Automation

/- What the rule states, or else what the engine does. -/
def Engine.baseCost
    (engine : Engine)
    (rule : Rule) :
    Nat :=
  (rule.baseCost?.getD engine.settings.defaultBaseCost).toNat

/- A unit for each 100 bytes of an input and of written results. -/
def unitsOf
    (input results : Document) :
    Nat :=
  (input.byteSize + results.byteSize) / 100

/-
  The cost that is written is the base with the units of the input and of
  the results that are written, as long as 64 bits hold that much.
-/
structure Report.Accounts
    (report : Report)
    (base : Nat)
    (input : Document) : Prop where
  recomputed :
    ∃ results,
      report.document.entry? "actionResults" = some results ∧
        (base + unitsOf input results < UInt64.size →
          report.document.entry? "tokenCost" =
            some
              (.integer ((base + unitsOf input results : Nat))))

/- A cost that 64 bits hold is the sum it is meant to be. -/
theorem runCost_toNat
    {base : UInt64}
    {input : Document}
    {results : List ActionResult}
    (hCost :
      base.toNat +
          unitsOf input
            (.array (results.map (·.document))) <
        UInt64.size) :
    (runCost base input results).toNat =
      base.toNat +
        unitsOf input (.array (results.map (·.document))) := by
  rw [runCost, bytesPerUnit, UInt64.toNat_add,
    UInt64.toNat_ofNat', Nat.add_mod_mod]
  exact Nat.mod_eq_of_lt hCost

theorem Report.entry?_tokenCost
    (report : Report) :
    report.document.entry? "tokenCost" =
      some (.integer report.cost.toNat) := by
  simp [document_eq, Document.record, Document.entry?]

namespace Engine

/- On every way a run ends, it pays for what it reports. -/
theorem reportOf_accounts
    (engine : Engine)
    (rule : Rule)
    (input : Document)
    (trigger : TriggerKind)
    (outcome : RunOutcome) :
    (engine.reportOf rule input trigger outcome).Accounts
      (engine.baseCost rule) input := by
  refine ⟨⟨_, Report.entry?_actionResults _, ?_⟩⟩
  intro hCost
  rw [Report.entry?_tokenCost]
  exact
    congrArg (fun cost : Nat => some (Document.integer cost))
      (runCost_toNat hCost)

/-
  Every run ends in a report that tells its cost, and so do all the reports
  inside it, of their own rules and inputs.  The input of a run that an
  action starts is the one that the action states, filled in the context
  that it is carried out on, or else the input of the run around it.
-/
theorem run_accounts
    {engine : Engine}
    {rule : Rule}
    {input : Document}
    {trigger : TriggerKind}
    {activity : Activity Report}
    (hRun : engine.run rule input trigger = .ok activity)
    (start : Nat) :
    ∃ report,
      (activity start).ending = .returned report ∧
        engine.Throughout
          (fun rule input _ report =>
            report.Accounts (engine.baseCost rule) input)
          (fun _ _ => True) rule input trigger
          (.root rule engine.settings.runTimeout start) start
          report := by
  rcases run_throughout hRun start with
    ⟨report, hReport, hTree⟩
  refine ⟨report, hReport, hTree.imp ?_ fun _ _ _ => trivial⟩
  intro rule input trigger report hReports
  rcases hReports.made with ⟨outcome, rfl⟩
  exact engine.reportOf_accounts rule input trigger outcome

/- A rule that hands a note on as it is kept in a variable. -/
def payingRule : Rule :=
  ruleOf "paying" .sequential
    [keeps "note" (.text "a long note"), hands "paid" "note"]

def paidRule : Rule :=
  ruleOf "paid" .sequential [keeps "n" (.integer 7)]

def payingEngine : Engine :=
  unhurried 5000 1 [("paid", paidRule)]

/-
  With the note, the result of the inner run comes to a unit.  With the
  input of the outer run, it would not.
-/
theorem paying_run_accounts :
    ∃ (activity : Activity Report) (report inner : Report)
        (second : ActionResult),
      payingEngine.run payingRule .null .manual =
          .ok activity ∧
        (activity 0).ending = .returned report ∧
        payingEngine.Throughout
          (fun rule input _ report =>
            report.Accounts (payingEngine.baseCost rule) input)
          (fun _ _ => True) payingRule .null .manual
          (.root payingRule 5000 0) 0 report ∧
        report.results[1]? = some second ∧
        second.output = inner.document ∧
        inner.Accounts 1 (.text "a long note") ∧
        inner.cost = 2 ∧
        runCost 1 .null inner.results = 1 := by
  have hRun :
      ∃ activity report second,
        payingEngine.run payingRule .null .manual =
            .ok activity ∧
          (activity 0).ending = .returned report ∧
          report.results[1]? = some second ∧
          second.output ≠ .null :=
    ⟨_, _, _, rfl, rfl, rfl, nofun⟩
  rcases hRun with
    ⟨activity, report, second, hRun, hEnding, hSecond,
      hOutput⟩
  rcases run_accounts hRun 0 with ⟨other, hOther, hTree⟩
  rw [hEnding] at hOther
  cases hOther
  have hPlace :
      ∃ action context time,
        payingEngine.Delivers payingRule .null .manual
          (.root payingRule 5000 0) 0 1 action context time
          second := by
    cases hTree with
    | intro hWithin => exact exists_delivers hWithin hSecond
  rcases hPlace with ⟨action, context, time, hDelivers⟩
  have hHanded := hTree.of_delivers hSecond hDelivers
  cases hDelivers with
  | inOrder _ _ hAction hComes =>
      cases hAction
      rcases comes_succ_iff.mp hComes with
        ⟨_, _, _, hFirst, _, hLater⟩
      rcases comes_zero_iff.mp hLater with ⟨rfl, rfl⟩
      cases hFirst
      rcases hHanded.exists_report rfl rfl hOutput with
        ⟨inner, hDocument, hPaid⟩
      have hInner :
          inner.Accounts 1 (.text "a long note") :=
        hPaid.tells_report
      refine
        ⟨activity, report, inner, second, hRun, hEnding, hTree,
          hSecond, hDocument, hInner, ?_⟩
      cases hPaid with
      | intro hWithin =>
          cases hWithin
          exact ⟨rfl, rfl⟩
  | sideBySide hMode => cases hMode

end Engine

end Automation
