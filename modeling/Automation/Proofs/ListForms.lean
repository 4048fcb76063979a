import Automation.Proofs.IntegerComparisons
import Automation.Proofs.NumberTexts

/-
  Lists written with commas and lists written as arrays.

  A list with commas has the documents whose text is one of its items, and
  an array of the same items has the documents that are alike to one.  The
  two differ in both directions: a number or a truth value may be spelled
  otherwise than it is written, and the text of null, of an array or of an
  object may be an item that no such document is alike to.

  Key definitions include:
    * `Document.listItems`, the items between commas
    * `Document.SpelledOtherwise` and `Document.NamedOnly`
    * `Condition.ListForms`, the verdicts on the two forms of a list

  Key theorems include:
    * `Document.listed_text_iff` and `Document.listed_items_iff`
    * `Document.alike_plain_number` and `Document.alike_plain_bool`,
      a number or truth value and its text
    * `Condition.listForms`
-/

namespace Automation

namespace Document

------------------------------------------------------------
-- Two Forms Of A List
------------------------------------------------------------

/- The items between commas, without the white space around them. -/
def listItems
    (s : String) :
    List String :=
  (Text.splitOn ',' s).map Text.trim

variable {x : Document}
variable {s t : String}
variable {items : List String}

/- A list with commas has what one of its items is the text of. -/
theorem listed_text_iff :
    x.listed (.string s) = true ↔ x.plain ∈ listItems s := by
  simp [listed, listItems]

/- An array of texts has what one of them is alike to. -/
theorem listed_items_iff :
    x.listed (.array (items.map .string)) = true ↔
      ∃ item ∈ items, x.alike (.string item) = true := by
  simp [listed]

------------------------------------------------------------
-- Likeness To A Text
------------------------------------------------------------

theorem alike_number_text_iff
    {n : Number} :
    (number n).alike (.string t) = true ↔
      ∃ y,
        (string t).number? = some y ∧ n.binary64.same y = true := by
  have hAlike :
      (number n).alike (.string t) =
        sameNumber (.number n) (.string t) := by
    simp [alike, same]
  have hNumber : (number n).number? = some n.binary64 := rfl
  rw [hAlike, sameNumber, hNumber]
  cases (string t).number? <;> simp

theorem alike_bool_text
    (b : Bool)
    (t : String) :
    (bool b).alike (.string t) = spells t b :=
  rfl

theorem alike_string_text_iff :
    (string s).alike (.string t) = true ↔ s = t := by
  simp [alike, same]

/- No other document is alike to a text. -/
theorem alike_null_text
    (t : String) :
    null.alike (.string t) = false :=
  rfl

theorem alike_array_text
    (members : List Document)
    (t : String) :
    (array members).alike (.string t) = false :=
  rfl

theorem alike_object_text
    (entries : List (String × Document))
    (t : String) :
    (object entries).alike (.string t) = false :=
  rfl

/- A number is alike to its text. -/
theorem alike_plain_number
    (n : Number) :
    (number n).alike (.string (plain (.number n))) = true := by
  rw [alike_number_text_iff]
  exact
    ⟨n.binary64, number?_plain n, n.same_binary64⟩

/- And so is a truth value. -/
theorem alike_plain_bool
    (b : Bool) :
    (bool b).alike (.string (plain (.bool b))) = true := by
  cases b <;> decide

------------------------------------------------------------
-- Where The Two Forms Differ
------------------------------------------------------------

/-
  No item is the text of a number or truth value, but one of them spells it
  all the same.
-/
def SpelledOtherwise
    (items : List String) :
    Document → Prop
  | .number n =>
      plain (.number n) ∉ items ∧
        ∃ item ∈ items,
          ∃ y,
            (string item).number? = some y ∧
              n.binary64.same y = true
  | .bool b =>
      plain (.bool b) ∉ items ∧
        ∃ item ∈ items, spells item b = true
  | _ => False

/- An item is the text of a document that is alike to no text. -/
def NamedOnly
    (items : List String) :
    Document → Prop
  | .null => "" ∈ items
  | .array members => plain (.array members) ∈ items
  | .object entries => plain (.object entries) ∈ items
  | _ => False

/- The item of an array that a list with commas does not show. -/
theorem spelledOtherwise_iff :
    SpelledOtherwise (listItems s) x ↔
      x.listed (.string s) = false ∧
        x.listed (.array ((listItems s).map .string)) = true := by
  rw [← Bool.not_eq_true, listed_text_iff, listed_items_iff]
  cases x with
  | null => simp [SpelledOtherwise, alike_null_text]
  | bool b => simp only [SpelledOtherwise, alike_bool_text]
  | number n => simp only [SpelledOtherwise, alike_number_text_iff]
  | string t =>
      simp only [SpelledOtherwise, alike_string_text_iff, plain]
      simp
  | array members => simp [SpelledOtherwise, alike_array_text]
  | object entries => simp [SpelledOtherwise, alike_object_text]

/- The item of a list with commas that an array does not show. -/
theorem namedOnly_iff :
    NamedOnly (listItems s) x ↔
      x.listed (.string s) = true ∧
        x.listed (.array ((listItems s).map .string)) = false := by
  rw [← Bool.not_eq_true, listed_text_iff, listed_items_iff]
  cases x with
  | null => simp [NamedOnly, alike_null_text, plain]
  | bool b =>
      simp only [NamedOnly, false_iff]
      rintro ⟨hMem, hNone⟩
      exact hNone ⟨_, hMem, alike_plain_bool b⟩
  | number n =>
      simp only [NamedOnly, false_iff]
      rintro ⟨hMem, hNone⟩
      exact hNone ⟨_, hMem, alike_plain_number n⟩
  | string t =>
      simp only [NamedOnly, alike_string_text_iff, plain]
      simp
  | array members => simp [NamedOnly, alike_array_text]
  | object entries => simp [NamedOnly, alike_object_text]

/- The two forms of a list have the same documents but for these. -/
theorem listed_eq_iff :
    x.listed (.string s) =
        x.listed (.array ((listItems s).map .string)) ↔
      ¬ SpelledOtherwise (listItems s) x ∧
        ¬ NamedOnly (listItems s) x := by
  rw [spelledOtherwise_iff, namedOnly_iff]
  cases x.listed (.string s) <;>
    cases x.listed (.array ((listItems s).map .string)) <;>
    simp

end Document

------------------------------------------------------------
-- Tests On Lists
------------------------------------------------------------

namespace Condition

open Document (listItems SpelledOtherwise NamedOnly)

variable {patterns : PatternLibrary}
variable {context : Context}
variable {field s : String}
variable {x : Document}

/- A test whether a field is in a list with commas, or is not. -/
def inText
    (field s : String) :
    Condition :=
  test field Comparison.inList.name (.string s)

def notInText
    (field s : String) :
    Condition :=
  test field Comparison.notInList.name (.string s)

/- The same test on an array of the items. -/
def inItems
    (field s : String) :
    Condition :=
  test field Comparison.inList.name
    (.array ((listItems s).map .string))

def notInItems
    (field s : String) :
    Condition :=
  test field Comparison.notInList.name
    (.array ((listItems s).map .string))

/- The verdicts of the tests of a field on the two forms of a list. -/
structure ListForms
    (patterns : PatternLibrary)
    (context : Context)
    (field : String)
    (x : Document) : Prop where
  same_iff :
    ∀ s,
      (inText field s).evaluate patterns context =
          (inItems field s).evaluate patterns context ↔
        ¬ SpelledOtherwise (listItems s) x ∧
          ¬ NamedOnly (listItems s) x
  not_same_iff :
    ∀ s,
      (notInText field s).evaluate patterns context =
          (notInItems field s).evaluate patterns context ↔
        ¬ SpelledOtherwise (listItems s) x ∧
          ¬ NamedOnly (listItems s) x
  /- The list with commas misses what an item spells otherwise. -/
  missed_iff :
    ∀ s,
      SpelledOtherwise (listItems s) x ↔
        (inText field s).evaluate patterns context = ⟨false, []⟩ ∧
          (inItems field s).evaluate patterns context = ⟨true, []⟩
  /- And it has what only the text of an item names. -/
  named_iff :
    ∀ s,
      NamedOnly (listItems s) x ↔
        (inText field s).evaluate patterns context = ⟨true, []⟩ ∧
          (inItems field s).evaluate patterns context = ⟨false, []⟩

theorem evaluate_inList
    (hField : context.resolve field = some x)
    (list : Document) :
    (test field Comparison.inList.name list).evaluate patterns context =
      ⟨x.listed list, []⟩ :=
  evaluate_test_of_apply hField rfl

theorem evaluate_notInList
    (hField : context.resolve field = some x)
    (list : Document) :
    (test field Comparison.notInList.name list).evaluate patterns context =
      ⟨!x.listed list, []⟩ :=
  evaluate_test_of_apply hField rfl

/-
  A field is in a list with commas just when it is in the array of the
  items, unless an item spells it otherwise or only names it.
-/
theorem listForms
    (hField : context.resolve field = some x) :
    ListForms patterns context field x := by
  constructor
  · intro s
    rw [inText, inItems, evaluate_inList hField,
      evaluate_inList hField, ← Document.listed_eq_iff]
    simp
  · intro s
    rw [notInText, notInItems, evaluate_notInList hField,
      evaluate_notInList hField, ← Document.listed_eq_iff]
    simp
  · intro s
    rw [inText, inItems, evaluate_inList hField,
      evaluate_inList hField, Document.spelledOtherwise_iff]
    simp
  · intro s
    rw [inText, inItems, evaluate_inList hField,
      evaluate_inList hField, Document.namedOnly_iff]
    simp

/- One and a half. -/
def threeHalves : Finite64 where
  negative := false
  units := Finite64.one + Finite64.one / 2
  whole := by decide +kernel
  bounded := by decide +kernel

/- The scope of a parcel without a note. -/
def parcelScope : Context :=
  .ofFixed
    [("weight", .number (.real threeHalves)), ("note", .null)]

theorem parcelScope_listForms :
    parcelScope.resolve "weight" =
        some (.number (.real threeHalves)) ∧
      ListForms .standard parcelScope "weight"
        (.number (.real threeHalves)) :=
  ⟨rfl, listForms rfl⟩

/-
  The weight is spelled with two decimals, and an empty item is the text of
  the note.
-/
theorem parcelScope_forms_differ :
    parcelScope.resolve "weight" =
        some (.number (.real threeHalves)) ∧
      (inText "weight" "1.50").evaluate .standard parcelScope =
        ⟨false, []⟩ ∧
      (inItems "weight" "1.50").evaluate .standard parcelScope =
        ⟨true, []⟩ ∧
      parcelScope.resolve "note" = some .null ∧
      (inText "note" "fragile,").evaluate .standard parcelScope =
        ⟨true, []⟩ ∧
      (inItems "note" "fragile,").evaluate .standard parcelScope =
        ⟨false, []⟩ :=
  ⟨rfl, by decide +kernel, by decide +kernel, rfl, by decide +kernel,
    by decide +kernel⟩

end Condition

end Automation
