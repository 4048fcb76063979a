import Automation.Proofs.NumberTexts
import Automation.Transformation
import Mathlib.Algebra.Order.BigOperators.Group.List
import Mathlib.Data.List.Induction
import Mathlib.Data.List.Infix

/-
  Sums of integers.

  The items of a list are added from left to right as binary64 numbers.  So
  each integer is rounded to 53 significant bits before it is added, and
  each sum after that.  The result is the sum of the integers just when
  all this rounding comes to nothing, which it does as long as the
  integers and the sums on the way have no more than 53 bits.  Beyond
  that, the order of the items makes a difference.

  Key definitions include:
    * `Document.integer?` and `Document.integers`, the integers of a list
    * `Binary64.coarseSum`, the sum of integers that is taken
    * `Document.ofWhole`, how a sum that is an integer is written
    * `Document.SumsIntegers`, what the sum of a list comes to

  Key theorems include:
    * `Binary64.represents_add`, the sum of two integers as numbers
    * `Document.number?_of_integer?`, texts that spell integers
    * `Document.represents_sum`, the sum of a list
    * `Document.sumsIntegers`, how the sum of a list is written
-/

namespace Automation

------------------------------------------------------------
-- Numbers From Their Units
------------------------------------------------------------

namespace Finite64

/- The number of a sign and a magnitude, if there is one. -/
def ofUnits?
    (negative : Bool)
    (units : Nat) :
    Option Finite64 :=
  if hNumber : spacing units ∣ units ∧ units < Binary64.overflow then
    some ⟨negative, units, hNumber.1, hNumber.2⟩
  else none

theorem ofUnits?_self
    (x : Finite64) :
    ofUnits? x.negative x.units = some x :=
  dif_pos ⟨x.whole, x.bounded⟩

end Finite64

------------------------------------------------------------
-- Numbers That Are Integers
------------------------------------------------------------

namespace Binary64

variable {x y : Binary64}
variable {a b : Int}

/- A number that is a certain integer; both zeros are the integer zero. -/
def Represents
    (x : Binary64)
    (i : Int) : Prop :=
  ∃ value, x = .finite value ∧ value.rank = i * Finite64.one

theorem natAbs_coarse
    (a : Int) :
    (coarse a).natAbs = coarsen a.natAbs := by
  unfold coarse
  split_ifs <;> simp

theorem coarse_signed
    (negative : Bool)
    (n : Nat) :
    coarse (if negative then -(n : Int) else n) =
      if negative then -(coarsen n : Int) else coarsen n := by
  cases negative with
  | false => simp [coarse]
  | true =>
      rcases Nat.eq_zero_or_pos n with rfl | hPos
      · decide
      · have hSign : -(n : Int) < 0 := by omega
        simp only [if_true, coarse, if_pos hSign, Int.natAbs_neg,
          Int.natAbs_natCast]

/- Stated for every factor, as the number one is too large to unfold. -/
theorem rank_of_units
    {value : Finite64}
    {n factor : Nat}
    (hUnits : value.units = n * factor) :
    value.rank =
      (if value.negative then -(n : Int) else n) * factor := by
  rw [Finite64.rank, hUnits]
  cases value.negative <;> simp

theorem rank_zero
    (negative : Bool) :
    (Finite64.zero negative).rank = 0 := by
  cases negative <;> rfl

/- A rounded integer is the coarse one. -/
theorem represents_round
    {size n : Nat}
    (hBound : coarsen n ≤ 2 ^ size)
    (hSize : size < 1024)
    (negative : Bool) :
    (round negative (n * Finite64.one) 1).Represents
      (coarse (if negative then -(n : Int) else n)) := by
  rcases exists_round_whole hBound hSize negative with
    ⟨value, hRound, rfl, hUnits⟩
  refine ⟨value, hRound, ?_⟩
  rw [coarse_signed]
  exact rank_of_units hUnits

theorem eq_signed
    (a : Int) :
    (if decide (a < 0) then -(a.natAbs : Int) else a.natAbs) =
      a := by
  split_ifs with hSign
  · have hNegative := of_decide_eq_true hSign
    omega
  · have hPositive : ¬ a < 0 := by simpa using hSign
    omega

theorem mul_lt_zero_iff
    {factor : Int}
    (hFactor : 0 < factor)
    (a : Int) :
    a * factor < 0 ↔ a < 0 := by
  have hLess := Int.mul_lt_mul_right (b := a) (c := 0) hFactor
  rwa [Int.zero_mul] at hLess

/- The sum of two integers is rounded once. -/
theorem represents_add
    {size : Nat}
    (hFirst : x.Represents a)
    (hSecond : y.Represents b)
    (hBound : coarsen (a + b).natAbs ≤ 2 ^ size)
    (hSize : size < 1024) :
    (add x y).Represents (coarse (a + b)) := by
  rcases hFirst with ⟨first, rfl, hRank⟩
  rcases hSecond with ⟨second, rfl, hOther⟩
  have hOne : (0 : Int) < Finite64.one :=
    Int.natCast_pos.mpr one_pos
  have hTotal :
      first.rank + second.rank = (a + b) * Finite64.one := by
    rw [hRank, hOther, Int.add_mul]
  unfold add
  dsimp only
  rw [hTotal]
  by_cases hZero : a + b = 0
  · have hCoarse : coarse 0 = 0 := by decide
    rw [hZero, Int.zero_mul, if_pos rfl, hCoarse]
    exact ⟨_, rfl, by rw [rank_zero, Int.zero_mul]⟩
  · have hNe : (a + b) * (Finite64.one : Int) ≠ 0 :=
      Int.mul_ne_zero hZero (Int.ne_of_gt hOne)
    have hSign :
        decide ((a + b) * (Finite64.one : Int) < 0) =
          decide (a + b < 0) :=
      decide_eq_decide.mpr (mul_lt_zero_iff hOne (a + b))
    have hRound :=
      represents_round hBound hSize (decide (a + b < 0))
    rw [if_neg hNe, hSign, Int.natAbs_mul, Int.natAbs_natCast]
    rwa [eq_signed] at hRound

------------------------------------------------------------
-- The Integer Of A Number
------------------------------------------------------------

section Rank

variable {value : Finite64}
variable {i : Int}

theorem units_of_rank
    (hRank : value.rank = i * Finite64.one) :
    value.units = i.natAbs * Finite64.one := by
  have hUnits : value.units = value.rank.natAbs := by
    unfold Finite64.rank
    split_ifs <;> simp
  rw [hUnits, hRank, Int.natAbs_mul, Int.natAbs_natCast]

theorem negative_eq_of_rank
    (hNonzero : value.rank ≠ 0) :
    value.negative = decide (value.rank < 0) := by
  rcases value with ⟨negative, units, _, _⟩
  cases negative with
  | false => simp [Finite64.rank]
  | true =>
      have hUnits : units ≠ 0 := by
        rintro rfl
        exact hNonzero rfl
      have hLess : -(units : Int) < 0 := by omega
      simp only [Finite64.rank, if_true, decide_eq_true hLess]

/- Only zero has either sign. -/
theorem negative_of_rank
    (hRank : value.rank = i * Finite64.one)
    (hNonzero : i ≠ 0) :
    value.negative = decide (i < 0) := by
  have hOne : (0 : Int) < Finite64.one :=
    Int.natCast_pos.mpr one_pos
  have hZero : value.rank ≠ 0 := by
    rw [hRank]
    exact Int.mul_ne_zero hNonzero (Int.ne_of_gt hOne)
  rw [negative_eq_of_rank hZero, decide_eq_decide, hRank]
  exact mul_lt_zero_iff hOne i

theorem integer?_of_rank
    (hRank : value.rank = i * Finite64.one) :
    (finite value).integer? = some i := by
  rw [integer?, units_of_rank hRank, Nat.mul_mod_left,
    if_pos rfl, Nat.mul_div_cancel _ one_pos]
  by_cases hZero : i = 0
  · subst hZero
    simp
  · rw [negative_of_rank hRank hZero]
    exact congrArg some (eq_signed i)

end Rank

------------------------------------------------------------
-- Sums From Left To Right
------------------------------------------------------------

/- The next sum: an integer is rounded, and so is the sum with it. -/
def addCoarsely
    (total i : Int) :
    Int :=
  coarse (total + coarse i)

/- The sum of integers with 53 significant bits. -/
def coarseSum
    (xs : List Int) :
    Int :=
  xs.foldl addCoarsely 0

variable {total i : Int}
variable {xs : List Int}

/-
  Sums stay below a bound beyond which a word is too small to count,
  however many are added.
-/
theorem coarsen_next_le
    (hTotal : total.natAbs ≤ 2 ^ 118)
    (hSmall : i.natAbs ≤ 2 ^ 64) :
    coarsen (total + coarse i).natAbs ≤ 2 ^ 118 := by
  have hWord : coarsen i.natAbs ≤ 2 ^ 64 :=
    coarsen_le_word hSmall
  have hNext : (total + coarse i).natAbs ≤ 2 ^ 118 + 2 ^ 64 := by
    rw [← natAbs_coarse] at hWord
    omega
  have hBound : coarsen (2 ^ 118 + 2 ^ 64) = 2 ^ 118 := by decide
  rw [← hBound]
  exact coarsen_le_coarsen hNext

theorem represents_ofInt
    (hSmall : i.natAbs ≤ 2 ^ 64) :
    (ofInt i).Represents (coarse i) := by
  have hRound :=
    represents_round (coarsen_le_word hSmall) (by decide)
      (decide (i < 0))
  rwa [eq_signed] at hRound

/- Numbers that are the roundings of integers. -/
abbrev AreCoarse
    (numbers : List Binary64)
    (xs : List Int) : Prop :=
  List.Forall₂ (fun x i => x.Represents (coarse i)) numbers xs

theorem represents_foldl
    {numbers : List Binary64}
    (hNumbers : AreCoarse numbers xs)
    (hSmall : ∀ i ∈ xs, i.natAbs ≤ 2 ^ 64)
    (hTotal : total.natAbs ≤ 2 ^ 118)
    (hStart : x.Represents total) :
    (numbers.foldl add x).Represents
      (xs.foldl addCoarsely total) := by
  induction hNumbers generalizing x total with
  | nil => exact hStart
  | @cons y i numbers xs hFirst _ ih =>
      have hBound : coarsen (total + coarse i).natAbs ≤ 2 ^ 118 :=
        coarsen_next_le hTotal (hSmall i List.mem_cons_self)
      have hNext : (addCoarsely total i).natAbs ≤ 2 ^ 118 := by
        rw [addCoarsely, natAbs_coarse]
        exact hBound
      rw [List.foldl_cons, List.foldl_cons]
      refine ih ?_ hNext ?_
      · intro j hMem
        exact hSmall j (List.mem_cons_of_mem i hMem)
      · exact represents_add hStart hFirst hBound (by decide)

theorem represents_sum
    {numbers : List Binary64}
    (hNumbers : AreCoarse numbers xs)
    (hSmall : ∀ i ∈ xs, i.natAbs ≤ 2 ^ 64) :
    (sum numbers).Represents (coarseSum xs) := by
  refine represents_foldl hNumbers hSmall (Nat.zero_le _) ?_
  exact ⟨_, rfl, by rw [rank_zero, Int.zero_mul]⟩

------------------------------------------------------------
-- Sums That Are Exact
------------------------------------------------------------

/- The sums on the way to the sum of a list, and the sum itself. -/
def partialSums
    (xs : List Int) :
    List Int :=
  xs.inits.map List.sum

theorem mem_partialSums_concat
    (xs : List Int)
    (i part : Int) :
    part ∈ partialSums (xs ++ [i]) ↔
      part ∈ partialSums xs ∨ part = xs.sum + i := by
  simp [partialSums, List.inits_append]

theorem sum_mem_partialSums
    (xs : List Int) :
    xs.sum ∈ partialSums xs :=
  List.mem_map_of_mem
    ((List.mem_inits xs xs).mpr List.prefix_rfl)

/- Where nothing is rounded, the sum is the sum of the integers. -/
theorem coarseSum_eq_sum
    (hKept : ∀ i ∈ xs, coarse i = i)
    (hParts : ∀ part ∈ partialSums xs, coarse part = part) :
    coarseSum xs = xs.sum := by
  induction xs using List.reverseRecOn with
  | nil => rfl
  | append_singleton xs i ih =>
      simp only [mem_partialSums_concat] at hParts
      have hRest : coarseSum xs = xs.sum := by
        refine ih ?_ ?_
        · intro j hMem
          exact hKept j (List.mem_append_left _ hMem)
        · intro part hMem
          exact hParts part (Or.inl hMem)
      have hLast : coarse i = i := hKept i (by simp)
      have hTotal : coarse (xs.sum + i) = xs.sum + i :=
        hParts _ (Or.inr rfl)
      calc
        coarseSum (xs ++ [i])
            = addCoarsely (coarseSum xs) i := by
              simp [coarseSum]
        _ = coarse (xs.sum + i) := by
              rw [addCoarsely, hRest, hLast]
        _ = (xs ++ [i]).sum := by
              rw [hTotal, List.sum_append, List.sum_singleton]

/- The integers that fit into a word of 64 bits with a sign. -/
def IsSigned
    (i : Int) : Prop :=
  -2 ^ 63 ≤ i ∧ i < 2 ^ 63

instance
    (i : Int) :
    Decidable (IsSigned i) :=
  inferInstanceAs (Decidable (_ ∧ _))

/- An integer is the difference of the sums before and behind it. -/
theorem natAbs_le_of_partialSums
    (hParts : ∀ part ∈ partialSums xs, IsSigned part)
    (hMem : i ∈ xs) :
    i.natAbs ≤ 2 ^ 64 := by
  induction xs using List.reverseRecOn with
  | nil => cases hMem
  | append_singleton xs last ih =>
      simp only [mem_partialSums_concat] at hParts
      rcases List.mem_append.mp hMem with hRest | hLast
      · refine ih ?_ hRest
        intro part hPart
        exact hParts part (Or.inl hPart)
      · rw [List.mem_singleton] at hLast
        subst hLast
        have hBefore : IsSigned xs.sum :=
          hParts _ (Or.inl (sum_mem_partialSums xs))
        have hBehind : IsSigned (xs.sum + i) :=
          hParts _ (Or.inr rfl)
        rcases hBefore with ⟨hLow, hHigh⟩
        rcases hBehind with ⟨hLeast, hMost⟩
        omega

/- The sum of the magnitudes of some integers. -/
def weight
    (xs : List Int) :
    Nat :=
  (xs.map Int.natAbs).sum

theorem natAbs_partialSum_le
    {part : Int}
    (hPart : part ∈ partialSums xs) :
    part.natAbs ≤ weight xs := by
  induction xs using List.reverseRecOn generalizing part with
  | nil => simp_all [partialSums]
  | append_singleton xs last ih =>
      have hWeight : weight (xs ++ [last]) =
          weight xs + last.natAbs := by
        simp [weight]
      rw [hWeight]
      rcases (mem_partialSums_concat xs last part).mp hPart with
        hRest | rfl
      · have hLe := ih hRest
        omega
      · have hLe := ih (sum_mem_partialSums xs)
        omega

theorem natAbs_le_weight
    (hMem : i ∈ xs) :
    i.natAbs ≤ weight xs :=
  List.le_sum_of_mem (List.mem_map_of_mem hMem)

/- Integers that are small all together are added exactly. -/
theorem coarseSum_of_weight
    (hSmall : weight xs ≤ 2 ^ 53) :
    coarseSum xs = xs.sum := by
  apply coarseSum_eq_sum
  · intro i hMem
    exact coarse_eq_self
      (Nat.le_trans (natAbs_le_weight hMem) hSmall)
  · intro part hPart
    exact coarse_eq_self
      (Nat.le_trans (natAbs_partialSum_le hPart) hSmall)

end Binary64

------------------------------------------------------------
-- Texts That Spell Integers
------------------------------------------------------------

namespace Numeral

variable {cs : List Char}

/- The integer that digits spell, with or without a sign. -/
def integer?
    (cs : List Char) :
    Option Int :=
  (digits? (sign cs).2).map fun (n : Nat) =>
    if (sign cs).1 then -(n : Int) else n

theorem digits?_eq_some
    {n : Nat}
    (hRead : digits? cs = some n) :
    cs ≠ [] ∧ (∀ c ∈ cs, isDigit c = true) ∧ value cs = n := by
  cases cs with
  | nil => cases hRead
  | cons c rest =>
      unfold digits? at hRead
      rcases Option.ite_none_right_eq_some.mp hRead with
        ⟨hAll, hValue⟩
      exact
        ⟨List.cons_ne_nil c rest, List.all_eq_true.mp hAll,
          Option.some.inj hValue⟩

/- Digits are read as the number nearest to the integer they spell. -/
theorem binary64?_of_integer?
    {i : Int}
    (hRead : integer? cs = some i) :
    ∃ (negative : Bool) (n : Nat),
      i = (if negative then -(n : Int) else n) ∧
        binary64? cs =
          some (.round negative (n * Finite64.one) 1) := by
  rcases Option.map_eq_some_iff.mp hRead with ⟨n, hDigits, hSigned⟩
  rcases digits?_eq_some hDigits with ⟨hSome, hAll, hValue⟩
  refine ⟨(sign cs).1, n, hSigned.symm, ?_⟩
  have hMagnitude : IsMagnitude ((sign cs).2 ++ []) :=
    isMagnitude_append hAll hSome (by simp)
  have hWhole :
      unsigned? (sign cs).1 ((sign cs).2 ++ []) =
        some (.ofDecimal (sign cs).1 n 0) := by
    rw [unsigned?_whole hAll hSome (by simp) (by simp), hValue]
    rfl
  rw [List.append_nil] at hMagnitude hWhole
  have hSplit : sign cs = ((sign cs).1, (sign cs).2) := rfl
  calc
    binary64? cs
        = unsigned? (sign cs).1 (sign cs).2 :=
          binary64?_of_sign hSplit hMagnitude
    _ = some (.ofDecimal (sign cs).1 n 0) := hWhole
    _ = some (.round (sign cs).1 (n * Finite64.one) 1) := by
          rw [Binary64.ofDecimal_whole]

end Numeral

------------------------------------------------------------
-- Lists Of Integers
------------------------------------------------------------

namespace Document

open Binary64

variable {items : List Document}

/- The integer an item is, or spells with white space around it. -/
def integer? : Document → Option Int
  | .number (.integer i) => some i
  | .string s => Numeral.integer? (Text.trimChars s.toList)
  | _ => none

/- The integers of a list. -/
def integers
    (items : List Document) :
    List Int :=
  items.filterMap (·.integer?)

/- Every item that stands for a number stands for an integer. -/
def ListsIntegers
    (items : List Document) : Prop :=
  ∀ item ∈ items, item.integer? = none → item.number? = none

instance
    (items : List Document) :
    Decidable (ListsIntegers items) :=
  inferInstanceAs (Decidable (∀ item ∈ items, _ → _))

theorem number?_of_integer?
    {item : Document}
    {i : Int}
    (hItem : item.integer? = some i)
    (hSmall : i.natAbs ≤ 2 ^ 64) :
    ∃ x, item.number? = some x ∧ x.Represents (coarse i) := by
  unfold integer? at hItem
  split at hItem
  · cases hItem
    exact ⟨_, rfl, represents_ofInt hSmall⟩
  · rcases Numeral.binary64?_of_integer? hItem with
      ⟨negative, n, rfl, hRead⟩
    refine ⟨_, hRead, ?_⟩
    refine represents_round (coarsen_le_word ?_) (by decide) negative
    cases negative <;> simpa using hSmall
  · cases hItem

/- The numbers of a list of integers. -/
theorem areCoarse_numbers
    (hItems : ListsIntegers items)
    (hSmall : ∀ i ∈ integers items, i.natAbs ≤ 2 ^ 64) :
    AreCoarse (items.filterMap (·.number?)) (integers items) := by
  induction items with
  | nil => exact .nil
  | cons item items ih =>
      have hRest : ListsIntegers items := fun other hMem =>
        hItems other (List.mem_cons_of_mem item hMem)
      unfold integers at hSmall ih ⊢
      cases hItem : item.integer? with
      | none =>
          have hNone := hItems item List.mem_cons_self hItem
          rw [List.filterMap_cons_none hItem] at hSmall ⊢
          rw [List.filterMap_cons_none hNone]
          exact ih hRest hSmall
      | some i =>
          rw [List.filterMap_cons_some hItem] at hSmall ⊢
          rcases List.forall_mem_cons.mp hSmall with
            ⟨hFirst, hLater⟩
          rcases number?_of_integer? hItem hFirst with
            ⟨x, hNumber, hRepresents⟩
          rw [List.filterMap_cons_some hNumber]
          exact .cons hRepresents (ih hRest hLater)

theorem represents_sum
    (hItems : ListsIntegers items)
    (hSmall : ∀ i ∈ integers items, i.natAbs ≤ 2 ^ 64) :
    (sum (.array items)).Represents (coarseSum (integers items)) :=
  Binary64.represents_sum (areCoarse_numbers hItems hSmall) hSmall

------------------------------------------------------------
-- How A Sum Is Written
------------------------------------------------------------

/- The document of a number that is an integer. -/
def ofWhole
    (i : Int) :
    Document :=
  if i.natAbs < 2 ^ 63 then .integer i
  else
    match
      Finite64.ofUnits? (decide (i < 0))
        (i.natAbs * Finite64.one) with
    | some x => .number (.real x)
    | none => .null

theorem document_of_represents
    {x : Binary64}
    {i : Int}
    (hNumber : x.Represents i) :
    x.document = ofWhole i := by
  rcases hNumber with ⟨value, rfl, hRank⟩
  have hHalf : UInt64.size / 2 = 2 ^ 63 := rfl
  unfold Binary64.document ofWhole
  simp only [Binary64.integer?_of_rank hRank, hHalf]
  by_cases hSmall : i.natAbs < 2 ^ 63
  · rw [if_pos hSmall, if_pos hSmall, Document.integer]
  · have hNonzero : i ≠ 0 := by
      rintro rfl
      exact hSmall (by decide)
    rw [if_neg hSmall, if_neg hSmall,
      ← Binary64.negative_of_rank hRank hNonzero,
      ← Binary64.units_of_rank hRank, Finite64.ofUnits?_self]

theorem ofWhole_eq_integer_iff
    {i j : Int} :
    ofWhole i = .integer j ↔ i = j ∧ j.natAbs < 2 ^ 63 := by
  unfold ofWhole
  constructor
  · intro hWhole
    split_ifs at hWhole with hSmall
    · cases hWhole
      exact ⟨rfl, hSmall⟩
    · split at hWhole <;> cases hWhole
  · rintro ⟨rfl, hSmall⟩
    rw [if_pos hSmall]

/- What the sum of a list of integers comes to. -/
structure SumsIntegers
    (items : List Document) : Prop where
  /- Each integer is rounded, and each sum on the way. -/
  coarsely :
    Operation.sum.apply (.array items) =
      ofWhole (coarseSum (integers items))
  /- So it is exact when that makes no difference in the end. -/
  exact_iff :
    Operation.sum.apply (.array items) =
        .integer (integers items).sum ↔
      coarseSum (integers items) = (integers items).sum ∧
        (integers items).sum ≠ -2 ^ 63
  /- It makes none when there is nothing to round. -/
  exact_of_kept :
    (∀ i ∈ integers items, coarse i = i) →
      (∀ part ∈ partialSums (integers items),
        coarse part = part) →
        (integers items).sum ≠ -2 ^ 63 →
          Operation.sum.apply (.array items) =
            .integer (integers items).sum
  /- Small integers are added exactly in every order. -/
  exact_of_small :
    weight (integers items) ≤ 2 ^ 53 →
      ∀ others : List Document,
        others.Perm items →
          Operation.sum.apply (.array others) =
            .integer (integers items).sum
  /- A task puts the sum of a source under the name it states. -/
  output :
    ∀ (task : TransformTask) (context : Context)
      (name source : String),
      Table.find? task.outputs name = some ⟨source, .sum⟩ →
        context.resolve source = some (.array items) →
          Document.entry? (task.output context) name =
            some (Operation.sum.apply (.array items))

theorem apply_sum
    (hItems : ListsIntegers items)
    (hSmall : ∀ i ∈ integers items, i.natAbs ≤ 2 ^ 64) :
    Operation.sum.apply (.array items) =
      ofWhole (coarseSum (integers items)) :=
  document_of_represents (represents_sum hItems hSmall)

/- A list of small integers has an exact sum. -/
theorem apply_sum_of_weight
    (hItems : ListsIntegers items)
    (hSmall : weight (integers items) ≤ 2 ^ 53) :
    Operation.sum.apply (.array items) =
      .integer (integers items).sum := by
  have hEach :
      ∀ i ∈ integers items, i.natAbs ≤ 2 ^ 64 := by
    intro i hMem
    have hLe := natAbs_le_weight hMem
    omega
  have hTotal := natAbs_partialSum_le
    (sum_mem_partialSums (integers items))
  rw [apply_sum hItems hEach, coarseSum_of_weight hSmall,
    ofWhole_eq_integer_iff]
  exact ⟨rfl, by omega⟩

theorem entry?_output
    {task : TransformTask}
    {context : Context}
    {name : String}
    {transform : Transform}
    (hName : Table.find? task.outputs name = some transform) :
    Document.entry? (task.output context) name =
      some
        (transform.operation.apply
          ((context.resolve transform.source).getD .null)) := by
  let value := fun transform : Transform =>
    transform.operation.apply
      ((context.resolve transform.source).getD .null)
  have hOutput :
      task.output context =
        .object
          (task.outputs.map fun entry =>
            (entry.1, value entry.2)) :=
    rfl
  rw [hOutput, entry?, Table.find?_map value, hName]
  rfl

/-
  A list of integers whose sums on the way fit into a word is summed up
  with 53 significant bits.
-/
theorem sumsIntegers
    (hItems : ListsIntegers items)
    (hParts :
      ∀ part ∈ partialSums (integers items), IsSigned part) :
    SumsIntegers items := by
  have hSum :=
    apply_sum hItems fun _ => natAbs_le_of_partialSums hParts
  have hTotal : IsSigned (integers items).sum :=
    hParts _ (sum_mem_partialSums _)
  have hExact :
      Operation.sum.apply (.array items) =
          .integer (integers items).sum ↔
        coarseSum (integers items) = (integers items).sum ∧
          (integers items).sum ≠ -2 ^ 63 := by
    rw [hSum, ofWhole_eq_integer_iff]
    rcases hTotal with ⟨hLow, hHigh⟩
    exact and_congr_right fun _ => by omega
  constructor
  case coarsely => exact hSum
  case exact_iff => exact hExact
  case exact_of_kept =>
    intro hKept hRounded hLeast
    exact hExact.mpr ⟨coarseSum_eq_sum hKept hRounded, hLeast⟩
  case exact_of_small =>
    intro hSmall others hPerm
    have hIntegers : (integers others).Perm (integers items) :=
      hPerm.filterMap _
    have hOthers : ListsIntegers others := fun item hMem =>
      hItems item (hPerm.mem_iff.mp hMem)
    have hWeight :
        weight (integers others) = weight (integers items) :=
      (hIntegers.map Int.natAbs).sum_eq
    rw [← hIntegers.sum_eq]
    exact apply_sum_of_weight hOthers (hWeight ▸ hSmall)
  case output =>
    intro task context name source hName hSource
    rw [entry?_output hName, hSource, Option.getD_some]

/- Numbers of parcels, one of them spelled out, and other items. -/
def parcels : List Document :=
  [.integer 4, .text " +5 ", .bool true, .text "none", .integer (-2)]

theorem parcels_sumsIntegers :
    ListsIntegers parcels ∧
      (∀ part ∈ partialSums (integers parcels), IsSigned part) ∧
      weight (integers parcels) ≤ 2 ^ 53 ∧
      Operation.sum.apply (.array parcels) = .integer 7 ∧
      Operation.sum.apply (.array parcels.reverse) =
        .integer 7 := by
  have hItems : ListsIntegers parcels := by decide +kernel
  have hParts :
      ∀ part ∈ partialSums (integers parcels), IsSigned part := by
    decide +kernel
  have hSmall : weight (integers parcels) ≤ 2 ^ 53 := by
    decide +kernel
  have hTotal : (integers parcels).sum = 7 := by decide +kernel
  have hSums := (sumsIntegers hItems hParts).exact_of_small hSmall
  rw [hTotal] at hSums
  exact
    ⟨hItems, hParts, hSmall, hSums _ (.refl _),
      hSums _ parcels.reverse_perm⟩

/- A large integer before two small ones. -/
def shipments : List Document :=
  [.integer (2 ^ 53), .integer 1, .text "1"]

/- The least integer that a word with a sign holds. -/
def overdraft : List Document :=
  [.integer (-2 ^ 63)]

/-
  Behind the large integer the small ones are lost, one after the other,
  and before it they are not; and the least integer is not written as one.
-/
theorem shipments_sum_inexact :
    ListsIntegers shipments ∧
      (∀ part ∈ partialSums (integers shipments),
        IsSigned part) ∧
      (integers shipments).sum = 2 ^ 53 + 2 ∧
      Operation.sum.apply (.array shipments) =
        .integer (2 ^ 53) ∧
      Operation.sum.apply (.array shipments.reverse) =
        .integer (2 ^ 53 + 2) ∧
      ListsIntegers overdraft ∧
      (∀ part ∈ partialSums (integers overdraft),
        IsSigned part) ∧
      Operation.sum.apply (.array overdraft) ≠
        .integer (integers overdraft).sum := by
  have hItems : ListsIntegers shipments := by decide +kernel
  have hReverse : ListsIntegers shipments.reverse := by
    decide +kernel
  have hLeast : ListsIntegers overdraft := by decide +kernel
  refine
    ⟨hItems, by decide +kernel, by decide +kernel, ?_, ?_,
      hLeast, by decide +kernel, ?_⟩
  · rw [apply_sum hItems (by decide +kernel),
      ofWhole_eq_integer_iff]
    decide +kernel
  · rw [apply_sum hReverse (by decide +kernel),
      ofWhole_eq_integer_iff]
    decide +kernel
  · rw [apply_sum hLeast (by decide +kernel), ne_eq,
      ofWhole_eq_integer_iff]
    decide +kernel

end Document

end Automation
