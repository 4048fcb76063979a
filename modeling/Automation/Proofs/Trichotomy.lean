import Automation.Proofs.LikenessLaws
import Automation.Proofs.OrderLaws

/-
  Likeness and order.

  Two documents that can be ordered are alike just when neither comes
  before the other, so that exactly one of them being less, alike and
  greater is true of them.  The exception is two texts that spell one
  number: they are ordered as numbers, and neither comes before the other,
  but as texts they are not alike.

  Key definitions include:
    * `Comparison.onOrder?`, what a comparison says of an order
    * `Document.Compares`, documents that can be ordered
    * `Document.SpelledTwice`, two texts that spell one number
    * `Document.AgreesWithOrder`, likeness that fits the order
    * `Document.Trichotomy`, what is true of documents with an order

  Key theorems include:
    * `Comparison.apply_of_onOrder`, comparisons by the order alone
    * `Document.alike_iff_order_eq`, likeness and order
    * `Document.trichotomy`
-/

namespace Automation

------------------------------------------------------------
-- Comparisons By The Order
------------------------------------------------------------

namespace Comparison

/- What a comparison says of the order of two documents. -/
def onOrder? : Comparison → Option (Ordering → Bool)
  | .greaterThan => some (·.isGT)
  | .lessThan => some (·.isLT)
  | .greaterEqual => some (·.isGE)
  | .lessEqual => some (·.isLE)
  | _ => none

variable {comparison : Comparison}
variable {accepts : Ordering → Bool}
variable {left right : Document}
variable {ordering : Ordering}

/- Such a comparison looks at nothing but the order. -/
theorem apply_of_onOrder
    (hAccepts : comparison.onOrder? = some accepts)
    (patterns : PatternLibrary)
    (left right : Document) :
    comparison.apply patterns left right =
      (left.order right).map accepts := by
  cases comparison <;> cases hAccepts <;> rfl

theorem holds_iff_accepts
    (hAccepts : comparison.onOrder? = some accepts)
    (hOrder : left.order right = .ok ordering) :
    comparison.Holds left right ↔ accepts ordering = true := by
  simp [Holds, apply_of_onOrder hAccepts, hOrder, Except.map]

theorem applies_iff_order
    (hAccepts : comparison.onOrder? = some accepts) :
    comparison.Applies left right ↔
      ∃ ordering, left.order right = .ok ordering := by
  simp only [Applies, apply_of_onOrder hAccepts, forall_const]
  cases left.order right <;> simp [Except.map]

theorem equals_holds_iff :
    equals.Holds left right ↔ left.alike right = true := by
  simp only [Holds, apply, Except.ok.injEq, forall_const]

end Comparison

------------------------------------------------------------
-- Likeness Of Numbers
------------------------------------------------------------

theorem Binary64.same_iff_compare_eq
    {x y : Binary64}
    {ordering : Ordering}
    (hCompare : x.compare? y = some ordering) :
    x.same y = true ↔ ordering = .eq := by
  rcases Document.exists_ranks_of_compare? hCompare with
    ⟨i, j, hI, hJ, rfl⟩
  rw [same, hI, hJ, compare_eq_iff_eq]
  exact beq_iff_eq

theorem Binary64.compare?_of_same
    {x y : Binary64}
    (hSame : x.same y = true) :
    x.compare? y = some .eq := by
  unfold same at hSame
  unfold compare?
  split at hSame
  · rw [beq_iff_eq.mp hSame, compare_eq_iff_eq.mpr rfl]
  · cases hSame

/- Equal numbers have the same place in the order. -/
theorem Number.same_binary64_of_same
    {m n : Number}
    (hSame : m.same n = true) :
    m.binary64.same n.binary64 = true := by
  cases m with
  | integer i =>
      cases n with
      | integer j =>
          cases beq_iff_eq.mp hSame
          exact same_binary64 _
      | real y => cases hSame
  | real x =>
      cases n with
      | integer j => cases hSame
      | real y => exact hSame

namespace Document

open Comparison
  (lessThan lessEqual greaterThan greaterEqual equals onOrder?)

variable {a b : Document}
variable {x y : Binary64}
variable {ordering : Ordering}

theorem alike_numbers
    (m n : Number) :
    (number m).alike (.number n) =
      m.binary64.same n.binary64 := by
  have hAlike :
      (number m).alike (.number n) =
        (m.same n || m.binary64.same n.binary64) := rfl
  rw [hAlike]
  cases hSame : m.same n with
  | false => rfl
  | true => rw [Number.same_binary64_of_same hSame, Bool.true_or]

------------------------------------------------------------
-- Texts That Spell One Number
------------------------------------------------------------

/- Two different texts that spell the same number. -/
def SpelledTwice
    (a b : Document) : Prop :=
  ∃ s t x y,
    a = .string s ∧ b = .string t ∧ s ≠ t ∧
      a.number? = some x ∧ b.number? = some y ∧
        x.same y = true

/-
  Documents that stand for numbers are alike when the numbers are equal.
-/
theorem alike_iff_same
    (hLeft : a.number? = some x)
    (hRight : b.number? = some y)
    (hCompare : x.compare? y = some ordering)
    (hOnce : ¬ SpelledTwice a b) :
    a.alike b = true ↔ x.same y = true := by
  cases a with
  | null => cases hLeft
  | bool _ => cases hLeft
  | array _ => cases hLeft
  | object _ => cases hLeft
  | number m =>
      cases hLeft
      cases b with
      | null => cases hRight
      | bool _ => cases hRight
      | array _ => cases hRight
      | object _ => cases hRight
      | number n =>
          cases hRight
          rw [alike_numbers]
      | string t => simp [alike_number_text_iff, hRight]
  | string s =>
      cases b with
      | null => cases hRight
      | bool _ => cases hRight
      | array _ => cases hRight
      | object _ => cases hRight
      | number n =>
          cases hRight
          rw [alike_comm, Binary64.same_comm]
          simp [alike_number_text_iff, hLeft]
      | string t =>
          rw [alike_string_text_iff]
          constructor
          · rintro rfl
            cases hLeft.symm.trans hRight
            rcases exists_ranks_of_compare? hCompare with
              ⟨i, _, hRank, _, _⟩
            simp [Binary64.same, hRank]
          · intro hSame
            by_contra hNe
            exact
              hOnce
                ⟨s, t, x, y, rfl, rfl, hNe, hLeft, hRight, hSame⟩

------------------------------------------------------------
-- Likeness And Order
------------------------------------------------------------

/- Documents with an order are alike when neither comes first. -/
theorem alike_iff_order_eq
    (hOrder : a.order b = .ok ordering)
    (hOnce : ¬ SpelledTwice a b) :
    a.alike b = true ↔ ordering = .eq := by
  cases hLeft : a.number? with
  | none =>
      rcases order_of_wording (Or.inl hLeft) hOrder with
        ⟨s, t, rfl, rfl, rfl⟩
      rw [alike_string_text_iff, compare_eq_iff_eq]
  | some x =>
      cases hRight : b.number? with
      | none =>
          rcases order_of_wording (Or.inr hRight) hOrder with
            ⟨s, t, rfl, rfl, rfl⟩
          rw [alike_string_text_iff, compare_eq_iff_eq]
      | some y =>
          have hCompare :=
            order_of_numbers_eq_ok hLeft hRight hOrder
          rw [alike_iff_same hLeft hRight hCompare hOnce]
          exact Binary64.same_iff_compare_eq hCompare

/- Texts that spell one number are in no order, and are not alike. -/
theorem order_of_spelledTwice
    (hTwice : SpelledTwice a b) :
    a.order b = .ok .eq ∧ a.alike b = false := by
  rcases hTwice with
    ⟨s, t, x, y, rfl, rfl, hNe, hLeft, hRight, hSame⟩
  constructor
  · exact
      order_of_numbers hLeft hRight
        (Binary64.compare?_of_same hSame)
  · rw [← Bool.not_eq_true, alike_string_text_iff]
    exact hNe

/- Documents that every comparison by the order can compare. -/
def Compares
    (a b : Document) : Prop :=
  ∀ comparison ∈ [lessThan, lessEqual, greaterThan, greaterEqual],
    comparison.Applies a b

instance
    (a b : Document) :
    Decidable (Compares a b) :=
  inferInstanceAs (Decidable (∀ _ ∈ _, _))

theorem compares_iff :
    Compares a b ↔ ∃ ordering, a.order b = .ok ordering := by
  constructor
  · intro hCompares
    have hApplies : lessThan.Applies a b :=
      hCompares lessThan (by simp)
    exact (Comparison.applies_iff_order rfl).mp hApplies
  · intro hOrder
    simp only [Compares, List.forall_mem_cons]
    refine ⟨?_, ?_, ?_, ?_, List.forall_mem_nil _⟩ <;>
      exact (Comparison.applies_iff_order rfl).mpr hOrder

/- Likeness that fits the order of two documents. -/
structure AgreesWithOrder
    (a b : Document) : Prop where
  equals_iff :
    equals.Holds a b ↔
      greaterEqual.Holds a b ∧ lessEqual.Holds a b
  exactly_one :
    ∃! comparison,
      comparison ∈ [lessThan, equals, greaterThan] ∧
        comparison.Holds a b

/- What is true of two documents with an order. -/
structure Trichotomy
    (a b : Document) : Prop where
  agrees_iff : AgreesWithOrder a b ↔ ¬ SpelledTwice a b
  /-
    One number that is spelled twice is neither less nor equal nor more.
  -/
  spelledTwice :
    SpelledTwice a b →
      greaterEqual.Holds a b ∧
        lessEqual.Holds a b ∧
          ∀ comparison ∈ [lessThan, equals, greaterThan],
            ¬ comparison.Holds a b

------------------------------------------------------------
-- Trichotomy
------------------------------------------------------------

/- The comparisons of two documents by their order and by likeness. -/
structure Placed
    (a b : Document)
    (ordering : Ordering) : Prop where
  lessThan : lessThan.Holds a b ↔ ordering = .lt
  greaterThan : greaterThan.Holds a b ↔ ordering = .gt
  lessEqual : lessEqual.Holds a b ↔ ordering ≠ .gt
  greaterEqual : greaterEqual.Holds a b ↔ ordering ≠ .lt

theorem placed_of_order
    (hOrder : a.order b = .ok ordering) :
    Placed a b ordering := by
  constructor <;>
    rw [Comparison.holds_iff_accepts rfl hOrder] <;>
    cases ordering <;> decide

theorem places_of_mem
    {comparison : Comparison}
    (hMember : comparison ∈ [lessThan, equals, greaterThan]) :
    comparison = lessThan ∨
      comparison = equals ∨
        comparison = greaterThan := by
  simpa using hMember

theorem agreesWithOrder_of_alike
    (hOrder : a.order b = .ok ordering)
    (hAlike : a.alike b = true ↔ ordering = .eq) :
    AgreesWithOrder a b := by
  have hPlaced := placed_of_order hOrder
  constructor
  · rw [Comparison.equals_holds_iff, hAlike, hPlaced.greaterEqual,
      hPlaced.lessEqual]
    cases ordering <;> decide
  · cases ordering with
    | lt =>
        refine ⟨lessThan, ?_, ?_⟩
        · simp [hPlaced.lessThan]
        · rintro comparison ⟨hMember, hHolds⟩
          rcases places_of_mem hMember with rfl | rfl | rfl
          · rfl
          · cases hAlike.mp (Comparison.equals_holds_iff.mp hHolds)
          · cases hPlaced.greaterThan.mp hHolds
    | eq =>
        refine ⟨equals, ?_, ?_⟩
        · simp [Comparison.equals_holds_iff, hAlike]
        · rintro comparison ⟨hMember, hHolds⟩
          rcases places_of_mem hMember with rfl | rfl | rfl
          · cases hPlaced.lessThan.mp hHolds
          · rfl
          · cases hPlaced.greaterThan.mp hHolds
    | gt =>
        refine ⟨greaterThan, ?_, ?_⟩
        · simp [hPlaced.greaterThan]
        · rintro comparison ⟨hMember, hHolds⟩
          rcases places_of_mem hMember with rfl | rfl | rfl
          · cases hPlaced.lessThan.mp hHolds
          · cases hAlike.mp (Comparison.equals_holds_iff.mp hHolds)
          · rfl

theorem neither_of_spelledTwice
    (hTwice : SpelledTwice a b) :
    greaterEqual.Holds a b ∧
      lessEqual.Holds a b ∧
        ∀ comparison ∈ [lessThan, equals, greaterThan],
          ¬ comparison.Holds a b := by
  rcases order_of_spelledTwice hTwice with ⟨hOrder, hUnlike⟩
  have hPlaced := placed_of_order hOrder
  refine ⟨by simp [hPlaced.greaterEqual],
    by simp [hPlaced.lessEqual], ?_⟩
  intro comparison hMember
  rcases places_of_mem hMember with rfl | rfl | rfl
  · simp [hPlaced.lessThan]
  · simp [Comparison.equals_holds_iff, hUnlike]
  · simp [hPlaced.greaterThan]

theorem trichotomy
    (hCompares : Compares a b) :
    Trichotomy a b := by
  rcases compares_iff.mp hCompares with ⟨ordering, hOrder⟩
  refine ⟨⟨?_, ?_⟩, neither_of_spelledTwice⟩
  · intro hAgrees hTwice
    rcases neither_of_spelledTwice hTwice with
      ⟨hGreater, hLess, hNone⟩
    exact
      hNone equals (by simp)
        (hAgrees.equals_iff.mpr ⟨hGreater, hLess⟩)
  · intro hOnce
    exact
      agreesWithOrder_of_alike hOrder
        (alike_iff_order_eq hOrder hOnce)

/- A number and its text have an order, and it fits their likeness. -/
theorem trichotomy_five :
    Compares (.integer 5) (.string " 5.0 ") ∧
      Trichotomy (.integer 5) (.string " 5.0 ") ∧
      equals.Holds (.integer 5) (.string " 5.0 ") := by
  have hCompares :
      Compares (.integer 5) (.string " 5.0 ") := by
    decide +kernel
  exact ⟨hCompares, trichotomy hCompares, by decide +kernel⟩

/-
  The texts `5.0` and `5` are at once greater or equal and less or equal,
  but are not equal, and neither is the one less nor greater.
-/
theorem numeral_spelledTwice :
    Compares (.string "5.0") (.string "5") ∧
      ¬ (equals.Holds (.string "5.0") (.string "5") ↔
        greaterEqual.Holds (.string "5.0") (.string "5") ∧
          lessEqual.Holds (.string "5.0") (.string "5")) ∧
      ∀ comparison ∈ [lessThan, equals, greaterThan],
        ¬ comparison.Holds (.string "5.0") (.string "5") := by
  decide +kernel

end Document

end Automation
