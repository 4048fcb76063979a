import Automation.Proofs.IntegerComparisons
import Automation.Proofs.NumberTexts
import Mathlib.Data.String.Basic

/-
  The order of documents, and where it runs in a circle.

  Two documents are ordered as numbers when both stand for numbers, and
  otherwise as texts when both are strings.  Each of the two orders is
  transitive, so comparisons are, as long as three documents are compared
  in the same way.  Two strings that spell numbers are compared with each
  other as numbers, but with a string that spells none as texts.  When the
  two orders tell them differently, such a third string runs them in a
  circle.

  Key definitions include:
    * `Comparison.Holds` and `Comparison.Applies`
    * `Document.OrderedTwoWays`, strings with two orders
    * `Document.SpoilsOrder`, three documents that mix the two orders
    * `Document.OrderLaws`, the laws of the order

  Key theorems include:
    * `Document.ordersAlike_of_unspoiled`, one order for three documents
    * `Document.exists_spoiler`, a third string that spoils the order
    * `Document.orderLaws`
-/

namespace Automation

------------------------------------------------------------
-- Comparisons That Hold
------------------------------------------------------------

namespace Comparison

/-
  A comparison of a value with another that is carried out, and holds,
  whatever is known of patterns.
-/
def Holds
    (comparison : Comparison)
    (left right : Document) : Prop :=
  ∀ patterns, comparison.apply patterns left right = .ok true

/- A comparison that is carried out. -/
def Applies
    (comparison : Comparison)
    (left right : Document) : Prop :=
  ∀ patterns,
    ∃ holds, comparison.apply patterns left right = .ok holds

variable {comparison : Comparison}
variable {left right : Document}

/- Only a search for a pattern depends on what is known of patterns. -/
theorem apply_eq_standard
    (hPattern : comparison ≠ .pattern)
    (patterns : PatternLibrary)
    (left right : Document) :
    comparison.apply patterns left right =
      comparison.apply .standard left right := by
  cases comparison with
  | pattern => exact absurd rfl hPattern
  | _ => rfl

theorem not_applies_pattern :
    ¬ pattern.Applies left right := by
  intro hApplies
  rcases hApplies ⟨fun _ => .error ""⟩ with ⟨holds, hHolds⟩
  cases hHolds

theorem Holds.applies
    (hHolds : comparison.Holds left right) :
    comparison.Applies left right :=
  fun patterns => ⟨true, hHolds patterns⟩

theorem applies_iff_standard :
    comparison.Applies left right ↔
      comparison ≠ .pattern ∧
        ∃ holds,
          comparison.apply .standard left right = .ok holds := by
  constructor
  · intro hApplies
    refine ⟨?_, hApplies .standard⟩
    rintro rfl
    exact not_applies_pattern hApplies
  · rintro ⟨hPattern, hStandard⟩ patterns
    rw [apply_eq_standard hPattern]
    exact hStandard

theorem holds_iff_standard :
    comparison.Holds left right ↔
      comparison ≠ .pattern ∧
        comparison.apply .standard left right = .ok true := by
  constructor
  · intro hHolds
    exact
      ⟨(applies_iff_standard.mp hHolds.applies).1,
        hHolds .standard⟩
  · rintro ⟨hPattern, hStandard⟩ patterns
    rw [apply_eq_standard hPattern]
    exact hStandard

instance
    (comparison : Comparison)
    (left right : Document) :
    Decidable (comparison.Holds left right) :=
  match h : comparison.apply .standard left right with
  | .ok true =>
      decidable_of_iff (comparison ≠ .pattern)
        (by simp [holds_iff_standard, h])
  | .ok false => .isFalse (by simp [holds_iff_standard, h])
  | .error _ => .isFalse (by simp [holds_iff_standard, h])

instance
    (comparison : Comparison)
    (left right : Document) :
    Decidable (comparison.Applies left right) :=
  match h : comparison.apply .standard left right with
  | .ok holds =>
      decidable_of_iff (comparison ≠ .pattern)
        (by simp [applies_iff_standard, h])
  | .error _ => .isFalse (by simp [applies_iff_standard, h])

theorem lessThan_holds_iff :
    lessThan.Holds left right ↔ left.order right = .ok .lt := by
  rw [holds_iff_standard]
  unfold apply
  cases left.order right with
  | error fault => simp [Except.map]
  | ok ordering => cases ordering <;> simp [Except.map]

theorem lessEqual_holds_iff :
    lessEqual.Holds left right ↔
      ∃ ordering,
        left.order right = .ok ordering ∧ ordering.isLE = true := by
  rw [holds_iff_standard]
  unfold apply
  cases left.order right <;> simp [Except.map]

theorem lessThan_applies_iff :
    lessThan.Applies left right ↔
      ∃ ordering, left.order right = .ok ordering := by
  rw [applies_iff_standard]
  unfold apply
  cases left.order right <;> simp [Except.map]

theorem lessEqual_applies_iff :
    lessEqual.Applies left right ↔
      ∃ ordering, left.order right = .ok ordering := by
  rw [applies_iff_standard]
  unfold apply
  cases left.order right <;> simp [Except.map]

end Comparison

namespace Document

------------------------------------------------------------
-- Two Orders
------------------------------------------------------------

/-
  Strings that spell numbers, and are ordered otherwise as numbers than as
  texts.
-/
def OrderedTwoWays
    (left right : Document) : Prop :=
  ∃ s t x y ordering,
    left = .string s ∧ right = .string t ∧
      left.number? = some x ∧ right.number? = some y ∧
        x.compare? y = some ordering ∧ ordering ≠ compare s t

/- A string that spells no number. -/
def IsWording
    (d : Document) : Prop :=
  ∃ s, d = .string s ∧ d.number? = none

/-
  Two of three documents are ordered in two ways, and the third one is
  compared with them as a text.
-/
def SpoilsOrder
    (a b c : Document) : Prop :=
  OrderedTwoWays a b ∧ IsWording c ∨
    OrderedTwoWays b c ∧ IsWording a ∨
      OrderedTwoWays a c ∧ IsWording b

/- Three orderings that one order gives. -/
structure OrdersAlike
    (first second whole : Ordering) : Prop where
  lt : first = .lt → second = .lt → whole = .lt
  isLE :
    first.isLE = true → second.isLE = true → whole.isLE = true

variable {a b c : Document}
variable {first second whole ordering : Ordering}

theorem OrdersAlike.of_compare
    {α : Type}
    [Ord α]
    [Std.TransOrd α]
    (x y z : α) :
    OrdersAlike (compare x y) (compare y z) (compare x z) where
  lt hFirst hSecond := Std.TransCmp.lt_trans hFirst hSecond
  isLE hFirst hSecond := Std.TransCmp.isLE_trans hFirst hSecond

theorem exists_ranks_of_compare?
    {x y : Binary64}
    (hCompare : x.compare? y = some ordering) :
    ∃ i j,
      x.rank = some i ∧ y.rank = some j ∧ compare i j = ordering := by
  unfold Binary64.compare? at hCompare
  split at hCompare
  · rename_i i j hFirst hSecond
    exact ⟨i, j, hFirst, hSecond, Option.some.inj hCompare⟩
  · cases hCompare

/- Documents that stand for numbers are ordered as these are. -/
theorem order_of_numbers_eq_ok
    {x y : Binary64}
    (hLeft : a.number? = some x)
    (hRight : b.number? = some y)
    (hOrder : a.order b = .ok ordering) :
    x.compare? y = some ordering := by
  unfold order at hOrder
  rw [hLeft, hRight] at hOrder
  dsimp only at hOrder
  split at hOrder
  · rename_i other hCompare
    cases hOrder
    exact hCompare
  · cases hOrder

/- What is ordered with something that is no number is a string. -/
theorem order_of_wording
    (hNone : a.number? = none ∨ b.number? = none)
    (hOrder : a.order b = .ok ordering) :
    ∃ s t,
      a = .string s ∧ b = .string t ∧ compare s t = ordering := by
  unfold order at hOrder
  split at hOrder
  · rename_i x y hLeft hRight
    rcases hNone with hNone | hNone
    · rw [hLeft] at hNone
      cases hNone
    · rw [hRight] at hNone
      cases hNone
  · split at hOrder
    · rename_i s t _
      cases hOrder
      exact ⟨s, t, rfl, rfl, rfl⟩
    · cases hOrder

/- Strings that are not ordered in two ways are ordered as texts. -/
theorem order_texts
    {s t : String}
    (hOrder : (string s).order (string t) = .ok ordering)
    (hOneWay : ¬ OrderedTwoWays (.string s) (.string t)) :
    compare s t = ordering := by
  cases hLeft : (string s).number? with
  | none =>
      rcases order_of_wording (Or.inl hLeft) hOrder with
        ⟨_, _, hFirst, hSecond, hTexts⟩
      cases hFirst
      cases hSecond
      exact hTexts
  | some x =>
      cases hRight : (string t).number? with
      | none =>
          rcases order_of_wording (Or.inr hRight) hOrder with
            ⟨_, _, hFirst, hSecond, hTexts⟩
          cases hFirst
          cases hSecond
          exact hTexts
      | some y =>
          have hCompare := order_of_numbers_eq_ok hLeft hRight hOrder
          by_contra hOther
          exact
            hOneWay
              ⟨s, t, x, y, ordering, rfl, rfl, hLeft, hRight,
                hCompare, fun hSame => hOther hSame.symm⟩

theorem not_orderedTwoWays_of_left
    (hNone : a.number? = none) :
    ¬ OrderedTwoWays a b := by
  rintro ⟨_, _, _, _, _, _, _, hSome, _⟩
  rw [hNone] at hSome
  cases hSome

theorem not_orderedTwoWays_of_right
    (hNone : b.number? = none) :
    ¬ OrderedTwoWays a b := by
  rintro ⟨_, _, _, _, _, _, _, _, hSome, _⟩
  rw [hNone] at hSome
  cases hSome

------------------------------------------------------------
-- One Order For Three Documents
------------------------------------------------------------

theorem ordersAlike_of_numbers
    {x y z : Binary64}
    (hA : a.number? = some x)
    (hB : b.number? = some y)
    (hC : c.number? = some z)
    (hFirst : a.order b = .ok first)
    (hSecond : b.order c = .ok second)
    (hWhole : a.order c = .ok whole) :
    OrdersAlike first second whole := by
  rcases exists_ranks_of_compare?
      (order_of_numbers_eq_ok hA hB hFirst) with
    ⟨i, j, hI, hJ, rfl⟩
  rcases exists_ranks_of_compare?
      (order_of_numbers_eq_ok hB hC hSecond) with
    ⟨j', k, hJ', hK, rfl⟩
  rcases exists_ranks_of_compare?
      (order_of_numbers_eq_ok hA hC hWhole) with
    ⟨i', k', hI', hK', rfl⟩
  cases hI.symm.trans hI'
  cases hJ.symm.trans hJ'
  cases hK.symm.trans hK'
  exact .of_compare i j k

theorem ordersAlike_of_texts
    {s t u : String}
    (hFirst : (string s).order (string t) = .ok first)
    (hSecond : (string t).order (string u) = .ok second)
    (hWhole : (string s).order (string u) = .ok whole)
    (hST : ¬ OrderedTwoWays (.string s) (.string t))
    (hTU : ¬ OrderedTwoWays (.string t) (.string u))
    (hSU : ¬ OrderedTwoWays (.string s) (.string u)) :
    OrdersAlike first second whole := by
  rw [← order_texts hFirst hST, ← order_texts hSecond hTU,
    ← order_texts hWhole hSU]
  exact .of_compare s t u

/- Three documents that can be compared are so in one order, or mix two. -/
theorem ordersAlike_of_unspoiled
    (hUnspoiled : ¬ SpoilsOrder a b c)
    (hFirst : a.order b = .ok first)
    (hSecond : b.order c = .ok second)
    (hWhole : a.order c = .ok whole) :
    OrdersAlike first second whole := by
  rw [SpoilsOrder, not_or, not_or] at hUnspoiled
  rcases hUnspoiled with ⟨hAB, hBC, hAC⟩
  cases hA : a.number? with
  | none =>
      rcases order_of_wording (Or.inl hA) hFirst with
        ⟨s, t, rfl, rfl, _⟩
      rcases order_of_wording (Or.inl hA) hWhole with
        ⟨_, u, _, rfl, _⟩
      exact
        ordersAlike_of_texts hFirst hSecond hWhole
          (not_orderedTwoWays_of_left hA)
          (fun hTwo => hBC ⟨hTwo, s, rfl, hA⟩)
          (not_orderedTwoWays_of_left hA)
  | some x =>
      cases hB : b.number? with
      | none =>
          rcases order_of_wording (Or.inr hB) hFirst with
            ⟨s, t, rfl, rfl, _⟩
          rcases order_of_wording (Or.inl hB) hSecond with
            ⟨_, u, _, rfl, _⟩
          exact
            ordersAlike_of_texts hFirst hSecond hWhole
              (not_orderedTwoWays_of_right hB)
              (not_orderedTwoWays_of_left hB)
              (fun hTwo => hAC ⟨hTwo, t, rfl, hB⟩)
      | some y =>
          cases hC : c.number? with
          | none =>
              rcases order_of_wording (Or.inr hC) hSecond with
                ⟨t, u, rfl, rfl, _⟩
              rcases order_of_wording (Or.inr hC) hWhole with
                ⟨s, _, rfl, _, _⟩
              exact
                ordersAlike_of_texts hFirst hSecond hWhole
                  (fun hTwo => hAB ⟨hTwo, u, rfl, hC⟩)
                  (not_orderedTwoWays_of_right hC)
                  (not_orderedTwoWays_of_right hC)
          | some z =>
              exact
                ordersAlike_of_numbers hA hB hC hFirst hSecond
                  hWhole

end Document

------------------------------------------------------------
-- Texts That Spell No Number
------------------------------------------------------------

/- The least of all characters, which no numeral has. -/
def Text.nul : Char := '\x00'

namespace Numeral

open Text (nul)

variable {cs : List Char}

theorem nul_mem_sign
    (hMem : nul ∈ cs) :
    nul ∈ (sign cs).2 := by
  unfold sign
  split
  · exact List.mem_of_ne_of_mem (by decide) hMem
  · exact List.mem_of_ne_of_mem (by decide) hMem
  · exact hMem

theorem nul_mem_dropWhile
    (hMem : nul ∈ cs) :
    nul ∈ cs.dropWhile isDigit := by
  rw [← List.takeWhile_append_dropWhile (p := isDigit) (l := cs),
    List.mem_append] at hMem
  rcases hMem with hDigit | hRest
  · exact absurd (List.mem_takeWhile_imp hDigit) (by decide)
  · exact hRest

theorem digits?_of_nul
    (hMem : nul ∈ cs) :
    digits? cs = none := by
  cases cs with
  | nil => rfl
  | cons c rest =>
      have hNot : ¬ (c :: rest).all isDigit = true := by
        intro hAll
        exact
          absurd (List.all_eq_true.mp hAll nul hMem) (by decide)
      exact if_neg hNot

theorem power?_of_nul
    (hMem : nul ∈ cs) :
    power? cs = none := by
  cases cs with
  | nil => cases hMem
  | cons mark rest =>
      rw [power?]
      split
      · rename_i hMark
        have hRest : nul ∈ rest := by
          refine List.mem_of_ne_of_mem ?_ hMem
          rintro rfl
          exact absurd hMark (by decide)
        dsimp only
        rw [digits?_of_nul (nul_mem_sign hRest)]
        rfl
      · rfl

theorem unsigned?_of_nul
    (hMem : nul ∈ cs)
    (negative : Bool) :
    unsigned? negative cs = none := by
  have hRest := nul_mem_dropWhile hMem
  unfold unsigned?
  dsimp only
  split
  · rename_i more hPoint
    rw [hPoint] at hRest
    have hMore : nul ∈ more :=
      List.mem_of_ne_of_mem (by decide) hRest
    rw [power?_of_nul (nul_mem_dropWhile hMore)]
    simp
  · rw [power?_of_nul hRest]
    simp

theorem binary64?_of_nul
    (hMem : nul ∈ cs) :
    binary64? cs = none := by
  have hRest := nul_mem_sign hMem
  have hLower : nul ∈ (sign cs).2.map Char.toLower :=
    List.mem_map.mpr ⟨nul, hRest, by decide⟩
  rw [binary64?_of_unnamed]
  · exact unsigned?_of_nul hRest _
  · intro name hName hSame
    have hNone :
        ∀ name ∈ ["inf", "infinity", "nan"], nul ∉ name.toList := by
      decide
    rw [← String.toList_ofList
      (l := (sign cs).2.map Char.toLower), hSame] at hLower
    exact hNone name hName hLower

end Numeral

namespace Text

variable {cs ds : List Char}

theorem nul_mem_trimChars
    (hMem : nul ∈ cs) :
    nul ∈ trimChars cs := by
  rw [← blanks_trimChars cs, List.mem_append, List.mem_append]
    at hMem
  rcases hMem with hBlank | hRest | hBlank
  · exact absurd (isBlank_of_mem_blanksBefore hBlank) (by decide)
  · exact hRest
  · exact absurd (isBlank_of_mem_blanksAfter hBlank) (by decide)

theorem nul_lt
    {c : Char}
    (hNe : c ≠ nul) :
    nul < c := by
  have hCode : c.val.toNat ≠ 0 := by
    intro hZero
    exact hNe (Char.ext (UInt32.toNat_inj.mp hZero))
  exact UInt32.lt_iff_toNat_lt.mpr (Nat.pos_of_ne_zero hCode)

theorem lt_concat
    (cs : List Char)
    (c : Char) :
    cs < cs ++ [c] := by
  induction cs with
  | nil => exact List.nil_lt_cons c []
  | cons d cs ih =>
      rw [List.cons_append, List.cons_lt_cons_iff]
      exact Or.inr ⟨rfl, ih⟩

/- No text lies between another and that one with the least character. -/
theorem concat_nul_le
    (hLess : cs < ds) :
    cs ++ [nul] < ds ∨ cs ++ [nul] = ds := by
  induction cs generalizing ds with
  | nil =>
      cases ds with
      | nil => exact absurd hLess (List.lt_irrefl [])
      | cons d ds =>
          by_cases hNul : d = nul
          · subst hNul
            cases ds with
            | nil => exact Or.inr rfl
            | cons e es =>
                refine Or.inl (List.cons_lt_cons_iff.mpr ?_)
                exact Or.inr ⟨rfl, List.nil_lt_cons e es⟩
          · exact
              Or.inl (List.cons_lt_cons_iff.mpr (Or.inl (nul_lt hNul)))
  | cons c cs ih =>
      cases ds with
      | nil => exact absurd hLess (List.not_lt_nil _)
      | cons d ds =>
          rw [List.cons_lt_cons_iff] at hLess
          rw [List.cons_append, List.cons_lt_cons_iff]
          rcases hLess with hHead | ⟨rfl, hTail⟩
          · exact Or.inl (Or.inl hHead)
          · rcases ih hTail with hLater | rfl
            · exact Or.inl (Or.inr ⟨rfl, hLater⟩)
            · exact Or.inr rfl

end Text

------------------------------------------------------------
-- Strings That Spoil The Order
------------------------------------------------------------

namespace Document

open Text (nul)

variable {a b c : Document}
variable {s t : String}
variable {ordering : Ordering}

/- The first of all texts that come after a text. -/
def nextText
    (s : String) :
    String :=
  String.ofList (s.toList ++ [nul])

theorem number?_nextText
    (s : String) :
    (string (nextText s)).number? = none := by
  have hMem : nul ∈ (nextText s).toList := by
    rw [nextText, String.toList_ofList]
    exact List.mem_append_right _ List.mem_cons_self
  rw [number?]
  exact Numeral.binary64?_of_nul (Text.nul_mem_trimChars hMem)

theorem lt_nextText
    (s : String) :
    s < nextText s := by
  rw [String.lt_iff, nextText, String.toList_ofList]
  exact Text.lt_concat s.toList nul

theorem nextText_lt
    {y : Binary64}
    (hLess : s < t)
    (hNumber : (string t).number? = some y) :
    nextText s < t := by
  rw [String.lt_iff] at hLess
  rcases Text.concat_nul_le hLess with hLater | hSame
  · rw [String.lt_iff, nextText, String.toList_ofList]
    exact hLater
  · have hNext : nextText s = t := by
      rw [nextText, hSame, String.ofList_toList]
    rw [← hNext, number?_nextText] at hNumber
    cases hNumber

theorem order_wording
    (hNone :
      (string s).number? = none ∨ (string t).number? = none) :
    (string s).order (string t) = .ok (compare s t) := by
  unfold order
  split
  · rename_i x y hLeft hRight
    rcases hNone with hNone | hNone
    · rw [hLeft] at hNone
      cases hNone
    · rw [hRight] at hNone
      cases hNone
  · rfl

/- The order from the other side. -/
theorem order_swap
    (hOrder : a.order b = .ok ordering) :
    b.order a = .ok ordering.swap := by
  by_cases hNumbers :
      ∃ x y, a.number? = some x ∧ b.number? = some y
  · rcases hNumbers with ⟨x, y, hA, hB⟩
    rcases exists_ranks_of_compare?
        (order_of_numbers_eq_ok hA hB hOrder) with
      ⟨i, j, hI, hJ, rfl⟩
    apply order_of_numbers hB hA
    unfold Binary64.compare?
    rw [hI, hJ]
    exact congrArg some Std.OrientedCmp.eq_swap
  · have hNone : a.number? = none ∨ b.number? = none := by
      cases hA : a.number? with
      | none => exact Or.inl rfl
      | some x =>
          cases hB : b.number? with
          | none => exact Or.inr rfl
          | some y => exact absurd ⟨x, y, hA, hB⟩ hNumbers
    rcases order_of_wording hNone hOrder with
      ⟨s, t, rfl, rfl, rfl⟩
    rw [order_wording hNone.symm]
    exact congrArg Except.ok Std.OrientedCmp.eq_swap

/- Three documents on which the order is not transitive. -/
def BreaksOrder
    (a b c : Document) : Prop :=
  Comparison.lessThan.Holds a b ∧
    Comparison.lessThan.Holds b c ∧
      Comparison.lessThan.Applies a c ∧
        ¬ Comparison.lessThan.Holds a c

/-
  The text that comes next after the lesser one lies between the two texts,
  and does not lie between the two numbers.
-/
theorem breaksOrder_nextText
    {y : Binary64}
    (hLess : s < t)
    (hNumber : (string t).number? = some y)
    (hOrder : (string s).order (string t) = .ok ordering)
    (hNe : ordering ≠ .lt) :
    BreaksOrder (.string s) (.string (nextText s))
      (.string t) := by
  have hNone := number?_nextText s
  refine ⟨?_, ?_, ?_, ?_⟩
  · rw [Comparison.lessThan_holds_iff, order_wording (Or.inr hNone),
      compare_lt_iff_lt.mpr (lt_nextText s)]
  · rw [Comparison.lessThan_holds_iff, order_wording (Or.inl hNone),
      compare_lt_iff_lt.mpr (nextText_lt hLess hNumber)]
  · exact Comparison.lessThan_applies_iff.mpr ⟨ordering, hOrder⟩
  · rw [Comparison.lessThan_holds_iff, hOrder]
    intro hSame
    cases hSame
    exact hNe rfl

/- For strings that are ordered in two ways there is one that spoils it. -/
theorem exists_spoiler
    (hTwoWays : OrderedTwoWays a b) :
    ∃ c, IsWording c ∧ (BreaksOrder a c b ∨ BreaksOrder b c a) := by
  rcases hTwoWays with
    ⟨s, t, x, y, ordering, rfl, rfl, hX, hY, hCompare, hNe⟩
  have hOrder := order_of_numbers hX hY hCompare
  rcases lt_trichotomy s t with hLess | rfl | hMore
  · rw [compare_lt_iff_lt.mpr hLess] at hNe
    exact
      ⟨_, ⟨nextText s, rfl, number?_nextText s⟩,
        Or.inl (breaksOrder_nextText hLess hY hOrder hNe)⟩
  · rcases exists_ranks_of_compare? hCompare with
      ⟨i, j, hI, hJ, rfl⟩
    cases hX.symm.trans hY
    cases hI.symm.trans hJ
    rw [compare_eq_iff_eq.mpr rfl, compare_eq_iff_eq.mpr rfl] at hNe
    exact absurd rfl hNe
  · rw [compare_gt_iff_gt.mpr hMore] at hNe
    have hSwapped : ordering.swap ≠ .lt := by
      cases ordering <;> simp_all
    exact
      ⟨_, ⟨nextText t, rfl, number?_nextText t⟩,
        Or.inr
          (breaksOrder_nextText hMore hX (order_swap hOrder)
            hSwapped)⟩

------------------------------------------------------------
-- The Laws Of The Order
------------------------------------------------------------

open Comparison (lessThan lessEqual)

structure OrderLaws : Prop where
  lessThan_trans :
    ∀ a b c,
      ¬ SpoilsOrder a b c →
        lessThan.Holds a b →
          lessThan.Holds b c →
            lessThan.Applies a c → lessThan.Holds a c
  lessEqual_trans :
    ∀ a b c,
      ¬ SpoilsOrder a b c →
        lessEqual.Holds a b →
          lessEqual.Holds b c →
            lessEqual.Applies a c → lessEqual.Holds a c
  acyclic :
    ∀ a b c,
      ¬ SpoilsOrder a b c →
        ¬ (lessThan.Holds a b ∧
          lessThan.Holds b c ∧ lessThan.Holds c a)
  /- No two strings with two orders are spared. -/
  spoiled :
    ∀ a b,
      OrderedTwoWays a b →
        ∃ c, IsWording c ∧ (BreaksOrder a c b ∨ BreaksOrder b c a)

theorem orderLaws : OrderLaws where
  lessThan_trans a b c hUnspoiled hFirst hSecond hWhole := by
    rw [Comparison.lessThan_holds_iff] at hFirst hSecond ⊢
    rcases Comparison.lessThan_applies_iff.mp hWhole with
      ⟨whole, hOrder⟩
    have hAlike :=
      ordersAlike_of_unspoiled hUnspoiled hFirst hSecond hOrder
    rw [hOrder, hAlike.lt rfl rfl]
  lessEqual_trans a b c hUnspoiled hFirst hSecond hWhole := by
    rw [Comparison.lessEqual_holds_iff] at hFirst hSecond ⊢
    rcases hFirst with ⟨first, hFirst, hFirstLE⟩
    rcases hSecond with ⟨second, hSecond, hSecondLE⟩
    rcases Comparison.lessEqual_applies_iff.mp hWhole with
      ⟨whole, hOrder⟩
    have hAlike :=
      ordersAlike_of_unspoiled hUnspoiled hFirst hSecond hOrder
    exact ⟨whole, hOrder, hAlike.isLE hFirstLE hSecondLE⟩
  acyclic a b c hUnspoiled := by
    rintro ⟨hFirst, hSecond, hBack⟩
    rw [Comparison.lessThan_holds_iff] at hFirst hSecond hBack
    have hOrder := order_swap hBack
    have hAlike :=
      ordersAlike_of_unspoiled hUnspoiled hFirst hSecond hOrder
    cases hAlike.lt rfl rfl
  spoiled a b hTwoWays := exists_spoiler hTwoWays

/- Nine comes before ten, ten before `1a`, and that before nine. -/
theorem numerals_in_circle :
    lessThan.Holds (.string "9") (.string "10") ∧
      lessThan.Holds (.string "10") (.string "1a") ∧
        lessThan.Holds (.string "1a") (.string "9") ∧
          lessThan.Applies (.string "9") (.string "1a") ∧
            ¬ lessThan.Holds (.string "9") (.string "1a") :=
  ⟨by decide +kernel, by decide +kernel, by decide +kernel,
    by decide +kernel, by decide +kernel⟩

end Document

end Automation
