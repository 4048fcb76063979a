import Automation.Text.Blank
import Mathlib.Data.List.DropRight
import Mathlib.Data.List.TakeWhile

/-
  What is left of a text without the white space at its ends.

  Key definitions include:
    * `Text.blanksBefore` and `Text.blanksAfter`, what is trimmed

  Key theorems include:
    * `Text.blanks_trimChars`, a text is what is trimmed and what is left
    * `Text.trimChars_trimChars`, there is nothing to trim twice
    * `Text.trimChars_of_edges`, texts with nothing to trim
-/

namespace Automation

namespace Text

variable {cs part : List Char}

/- The white space that a text begins with. -/
def blanksBefore
    (cs : List Char) :
    List Char :=
  cs.takeWhile isBlank

/- The white space that a text ends with, unless it is all white space. -/
def blanksAfter
    (cs : List Char) :
    List Char :=
  (cs.dropWhile isBlank).rtakeWhile isBlank

theorem blanks_trimChars
    (cs : List Char) :
    blanksBefore cs ++ (trimChars cs ++ blanksAfter cs) = cs := by
  have hEnd :
      trimChars cs ++ blanksAfter cs = cs.dropWhile isBlank :=
    List.rdropWhile_append_rtakeWhile
  rw [hEnd, blanksBefore, List.takeWhile_append_dropWhile]

theorem isBlank_of_mem_blanksBefore
    {c : Char}
    (hMem : c ∈ blanksBefore cs) :
    isBlank c = true :=
  List.mem_takeWhile_imp hMem

theorem isBlank_of_mem_blanksAfter
    {c : Char}
    (hMem : c ∈ blanksAfter cs) :
    isBlank c = true :=
  List.mem_rtakeWhile_imp hMem

/- A text begins with what its own beginning begins with. -/
theorem dropWhile_of_prefix
    (hPrefix : part <+: cs)
    (hWhole : cs.dropWhile isBlank = cs) :
    part.dropWhile isBlank = part := by
  cases part with
  | nil => rfl
  | cons c rest =>
      rcases hPrefix with ⟨after, rfl⟩
      rw [List.dropWhile_eq_self_iff] at hWhole ⊢
      intro _
      exact hWhole (by simp)

theorem trimChars_of_edges
    (hFirst : cs.dropWhile isBlank = cs)
    (hLast : cs.rdropWhile isBlank = cs) :
    trimChars cs = cs := by
  unfold trimChars
  rw [hFirst]
  exact hLast

theorem trimChars_trimChars
    (cs : List Char) :
    trimChars (trimChars cs) = trimChars cs := by
  apply trimChars_of_edges
  · exact
      dropWhile_of_prefix (List.rdropWhile_prefix isBlank _)
        (List.dropWhile_idempotent _ _)
  · exact List.rdropWhile_idempotent _ _

theorem trim_trim
    (s : String) :
    trim (trim s) = trim s := by
  simp only [trim, String.toList_ofList, trimChars_trimChars]

/- A text without white space has nothing to trim. -/
theorem trimChars_of_unblank
    (hChars : ∀ c ∈ cs, isBlank c = false) :
    trimChars cs = cs := by
  apply trimChars_of_edges
  · rw [List.dropWhile_eq_self_iff]
    intro hSome
    simp [hChars _ (List.getElem_mem hSome)]
  · rw [List.rdropWhile_eq_self_iff]
    intro hSome
    simp [hChars _ (List.getLast_mem hSome)]

end Text

end Automation
