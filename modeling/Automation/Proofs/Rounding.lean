import Automation.Binary64
import Mathlib.Algebra.Order.Ring.Nat
import Mathlib.Order.Compare
import Mathlib.Tactic.Ring

/-
  Integers as binary64 numbers.

  An integer stands for the nearest number that has 53 significant bits, a
  tie going to the even one.  This number is an integer again, coarser
  than the first one beyond `2 ^ 53`, and rounding keeps the order of
  integers, though it may make neighbours equal.

  Key definitions include:
    * `Binary64.coarse`, an integer with 53 significant bits

  Key theorems include:
    * `Binary64.coarse_le_coarse`, rounding keeps the order
    * `Binary64.coarse_eq_self`, integers that are kept
    * `Binary64.compare?_ofInt` and `Binary64.same_ofInt`, the numbers
      nearest to two integers
-/

namespace Automation

namespace Binary64

------------------------------------------------------------
-- The Nearest Quotient
------------------------------------------------------------

variable {num other den : Nat}

/- A whole quotient is its own nearest one. -/
theorem nearest_mul_self
    (hDen : 0 < den)
    (n : Nat) :
    nearest (n * den) den = n := by
  unfold nearest
  simp [Nat.mul_mod_left, Nat.mul_div_left n hDen, hDen]

/- Quotients are rounded alike when both parts are multiplied. -/
theorem nearest_mul_mul
    {factor : Nat}
    (hFactor : 0 < factor)
    (num den : Nat) :
    nearest (factor * num) (factor * den) = nearest num den := by
  have hLess :
      2 * (factor * (num % den)) < factor * den ↔
        2 * (num % den) < den := by
    rw [Nat.mul_left_comm]
    exact Nat.mul_lt_mul_left hFactor
  have hMore :
      factor * den < 2 * (factor * (num % den)) ↔
        den < 2 * (num % den) := by
    rw [Nat.mul_left_comm]
    exact Nat.mul_lt_mul_left hFactor
  unfold nearest
  simp only [Nat.mul_div_mul_left _ _ hFactor,
    Nat.mul_mod_mul_left, hLess, hMore]

/- A larger numerator has no smaller nearest quotient. -/
theorem nearest_le_nearest
    (hLe : num ≤ other)
    (den : Nat) :
    nearest num den ≤ nearest other den := by
  rcases Nat.lt_or_eq_of_le (Nat.div_le_div_right hLe) with
    hLess | hSame
  · calc
      nearest num den
          ≤ num / den + 1 := nearest_le num den
      _ ≤ other / den := hLess
      _ ≤ nearest other den := le_nearest other den
  · have hRest : num % den ≤ other % den := by
      have hNum := Nat.div_add_mod num den
      have hOther := Nat.div_add_mod other den
      rw [hSame] at hNum
      omega
    unfold nearest
    simp only [hSame]
    split_ifs <;> omega

------------------------------------------------------------
-- Natural Numbers
------------------------------------------------------------

/- The nearest number with 53 significant bits. -/
def coarsen
    (n : Nat) :
    Nat :=
  nearest n (Finite64.spacing n) * Finite64.spacing n

variable {m n : Nat}

theorem coarsen_of_lt
    (hSmall : n < 2 ^ 53) :
    coarsen n = n := by
  have hOne : nearest (n * 1) 1 = n :=
    nearest_mul_self Nat.one_pos n
  rw [Nat.mul_one] at hOne
  rw [coarsen, Finite64.spacing_of_lt hSmall, hOne, Nat.mul_one]

/- A number and its coarse one lie between the same powers of two. -/
theorem pow_log2_le_coarsen
    (hLarge : 2 ^ 53 ≤ n) :
    2 ^ n.log2 ≤ coarsen n := by
  have hLog := Finite64.le_log2 hLarge
  have hGap : 0 < 2 ^ (n.log2 - 52) := Nat.two_pow_pos _
  have hPower : 2 ^ n.log2 = 2 ^ 52 * 2 ^ (n.log2 - 52) := by
    rw [← Nat.pow_add]
    congr 1
    omega
  have hBelow : 2 ^ n.log2 ≤ n := Nat.log2_self_le (by omega)
  have hNearest := nearest_le_nearest hBelow (2 ^ (n.log2 - 52))
  rw [coarsen, Finite64.spacing_of_le hLarge, Nat.pow_eq]
  rw [hPower, nearest_mul_self hGap] at hNearest
  rw [hPower]
  exact Nat.mul_le_mul_right _ hNearest

theorem coarsen_le_pow_log2
    (hLarge : 2 ^ 53 ≤ n) :
    coarsen n ≤ 2 ^ (n.log2 + 1) := by
  have hLog := Finite64.le_log2 hLarge
  have hGap : 0 < 2 ^ (n.log2 - 52) := Nat.two_pow_pos _
  have hPower :
      2 ^ (n.log2 + 1) = 2 ^ 53 * 2 ^ (n.log2 - 52) := by
    rw [← Nat.pow_add]
    congr 1
    omega
  have hAbove : n ≤ 2 ^ (n.log2 + 1) :=
    Nat.le_of_lt Nat.lt_log2_self
  have hNearest := nearest_le_nearest hAbove (2 ^ (n.log2 - 52))
  rw [coarsen, Finite64.spacing_of_le hLarge, Nat.pow_eq]
  rw [hPower, nearest_mul_self hGap] at hNearest
  rw [hPower]
  exact Nat.mul_le_mul_right _ hNearest

theorem coarsen_le_coarsen
    (hLe : m ≤ n) :
    coarsen m ≤ coarsen n := by
  rcases Nat.lt_or_ge n (2 ^ 53) with hSmall | hLarge
  · rw [coarsen_of_lt hSmall, coarsen_of_lt (by omega)]
    exact hLe
  · rcases Nat.lt_or_ge m (2 ^ 53) with hFirst | hFirst
    · have hPower : 2 ^ 53 ≤ 2 ^ n.log2 :=
        Nat.pow_le_pow_right Nat.two_pos (Finite64.le_log2 hLarge)
      have hBelow := pow_log2_le_coarsen hLarge
      rw [coarsen_of_lt hFirst]
      omega
    · have hLog : m.log2 ≤ n.log2 := by
        rw [Nat.le_log2 (by omega)]
        exact Nat.le_trans (Nat.log2_self_le (by omega)) hLe
      rcases Nat.lt_or_eq_of_le hLog with hLess | hSame
      · calc
          coarsen m
              ≤ 2 ^ (m.log2 + 1) := coarsen_le_pow_log2 hFirst
          _ ≤ 2 ^ n.log2 :=
            Nat.pow_le_pow_right Nat.two_pos hLess
          _ ≤ coarsen n := pow_log2_le_coarsen hLarge
      · rw [coarsen, coarsen, Finite64.spacing_of_le hFirst,
          Finite64.spacing_of_le hLarge, hSame]
        exact Nat.mul_le_mul_right _ (nearest_le_nearest hLe _)

------------------------------------------------------------
-- Rounding To Units
------------------------------------------------------------

theorem log2_mul_two_pow
    (hPos : 0 < n)
    (k : Nat) :
    (n * 2 ^ k).log2 = n.log2 + k := by
  have hProduct : n * 2 ^ k ≠ 0 :=
    Nat.ne_of_gt (Nat.mul_pos hPos (Nat.two_pow_pos k))
  rw [Nat.log2_eq_iff hProduct]
  have hBelow : 2 ^ n.log2 ≤ n := Nat.log2_self_le (by omega)
  have hAbove : n < 2 ^ (n.log2 + 1) := Nat.lt_log2_self
  constructor
  · rw [Nat.pow_add]
    exact Nat.mul_le_mul_right _ hBelow
  · rw [Nat.add_right_comm, Nat.pow_add]
    exact Nat.mul_lt_mul_of_pos_right hAbove (Nat.two_pow_pos k)

/- To round a number in units is to round it to 53 significant bits. -/
theorem nearest_units
    {k : Nat}
    (hUnits : 53 ≤ k)
    (n : Nat) :
    nearest (n * 2 ^ k) (Finite64.spacing (n * 2 ^ k)) *
        Finite64.spacing (n * 2 ^ k) =
      coarsen n * 2 ^ k := by
  rcases Nat.eq_zero_or_pos n with rfl | hPos
  · simp [nearest, coarsen]
  · have hLarge : 2 ^ 53 ≤ n * 2 ^ k := by
      calc
        2 ^ 53
            ≤ 2 ^ k := Nat.pow_le_pow_right Nat.two_pos hUnits
        _ ≤ n * 2 ^ k := Nat.le_mul_of_pos_left _ hPos
    rw [Finite64.spacing_of_le hLarge, log2_mul_two_pow hPos,
      Nat.pow_eq]
    rcases Nat.lt_or_ge n (2 ^ 53) with hSmall | hMore
    · have hLog : n.log2 < 53 := (Nat.log2_lt (by omega)).mpr hSmall
      have hWhole :
          n * 2 ^ k =
            n * 2 ^ (52 - n.log2) * 2 ^ (n.log2 + k - 52) := by
        rw [Nat.mul_assoc, ← Nat.pow_add]
        congr 2
        omega
      rw [coarsen_of_lt hSmall, hWhole,
        nearest_mul_self (Nat.two_pow_pos _)]
    · have hLog := Finite64.le_log2 hMore
      have hGap :
          2 ^ (n.log2 + k - 52) = 2 ^ k * 2 ^ (n.log2 - 52) := by
        rw [← Nat.pow_add]
        congr 1
        omega
      rw [coarsen, Finite64.spacing_of_le hMore, Nat.pow_eq, hGap,
        Nat.mul_comm n, nearest_mul_mul (Nat.two_pow_pos k)]
      ring

------------------------------------------------------------
-- Integers
------------------------------------------------------------

/- The nearest integer with 53 significant bits. -/
def coarse
    (i : Int) :
    Int :=
  if i < 0 then -(coarsen i.natAbs : Int) else coarsen i.natAbs

variable {a b : Int}

/- Rounding keeps the order of integers. -/
theorem coarse_le_coarse
    (hLe : a ≤ b) :
    coarse a ≤ coarse b := by
  unfold coarse
  split_ifs with hFirst hSecond
  · have hNat : b.natAbs ≤ a.natAbs := by omega
    have hCoarse := coarsen_le_coarsen hNat
    omega
  · omega
  · omega
  · have hNat : a.natAbs ≤ b.natAbs := by omega
    have hCoarse := coarsen_le_coarsen hNat
    omega

/- Integers with no more than 53 bits are kept. -/
theorem coarse_eq_self
    (hSmall : a.natAbs ≤ 2 ^ 53) :
    coarse a = a := by
  have hCoarsen : coarsen a.natAbs = a.natAbs := by
    rcases Nat.lt_or_eq_of_le hSmall with hLess | hLast
    · exact coarsen_of_lt hLess
    · rw [hLast]
      decide
  unfold coarse
  rw [hCoarsen]
  split_ifs <;> omega

/- No other integer is rounded to one below `2 ^ 53`. -/
theorem eq_of_coarse_eq
    (hSmall : a.natAbs < 2 ^ 53)
    (hSame : coarse a = coarse b) :
    a = b := by
  have hFirst : coarse a = a := coarse_eq_self (Nat.le_of_lt hSmall)
  have hHigh : coarse (2 ^ 53) = 2 ^ 53 := by decide
  have hLow : coarse (-(2 ^ 53)) = -(2 ^ 53) := by decide
  rcases Nat.le_total b.natAbs (2 ^ 53) with hSecond | hLarge
  · rw [← hFirst, hSame, coarse_eq_self hSecond]
  · rcases Int.le_total 0 b with hSign | hSign
    · have hOrder : coarse (2 ^ 53) ≤ coarse b :=
        coarse_le_coarse (by omega)
      omega
    · have hOrder : coarse b ≤ coarse (-(2 ^ 53)) :=
        coarse_le_coarse (by omega)
      omega

/- The integers that fit into a word of 64 bits, with or without a sign. -/
def IsWord
    (i : Int) : Prop :=
  -2 ^ 63 ≤ i ∧ i < 2 ^ 64

instance
    (i : Int) :
    Decidable (IsWord i) :=
  inferInstanceAs (Decidable (_ ∧ _))

theorem coarsen_le_word
    (hLe : n ≤ 2 ^ 64) :
    coarsen n ≤ 2 ^ 64 := by
  have hLast : coarsen (2 ^ 64) = 2 ^ 64 := by decide
  rw [← hLast]
  exact coarsen_le_coarsen hLe

theorem coarsen_le_of_isWord
    (hWord : IsWord a) :
    coarsen a.natAbs ≤ 2 ^ 64 := by
  apply coarsen_le_word
  rcases hWord with ⟨hLow, hHigh⟩
  omega

theorem one_eq : Finite64.one = 2 ^ 1074 := by decide +kernel

theorem one_pos : 0 < Finite64.one := by decide +kernel

theorem overflow_eq : overflow = 2 ^ 2098 := by decide +kernel

/- A bound on a number is a bound on its units. -/
theorem units_lt
    {size k bound : Nat}
    (hBound : n ≤ 2 ^ size)
    (hPower : size + k < bound) :
    n * 2 ^ k < 2 ^ bound := by
  calc
    n * 2 ^ k
        ≤ 2 ^ size * 2 ^ k := Nat.mul_le_mul_right _ hBound
    _ = 2 ^ (size + k) := (Nat.pow_add 2 size k).symm
    _ < 2 ^ bound := Nat.pow_lt_pow_right Nat.one_lt_two hPower

/- A whole number within the range is rounded to 53 bits. -/
theorem exists_round_whole
    {size : Nat}
    (hBound : coarsen n ≤ 2 ^ size)
    (hSize : size < 1024)
    (negative : Bool) :
    ∃ x : Finite64,
      round negative (n * Finite64.one) 1 = .finite x ∧
        x.negative = negative ∧
          x.units = coarsen n * Finite64.one := by
  have hFinite : coarsen n * Finite64.one < overflow := by
    rw [one_eq, overflow_eq]
    exact units_lt hBound (by omega)
  have hUnits :
      nearest (n * Finite64.one)
            (Finite64.spacing (n * Finite64.one)) *
          Finite64.spacing (n * Finite64.one) =
        coarsen n * Finite64.one := by
    rw [one_eq]
    exact nearest_units (by decide) n
  unfold round
  simp only [Nat.div_one, Nat.one_mul, hUnits]
  rw [dif_pos hFinite]
  exact ⟨_, rfl, rfl, rfl⟩

theorem exists_ofInt
    (hWord : IsWord a) :
    ∃ x : Finite64,
      ofInt a = .finite x ∧
        x.negative = decide (a < 0) ∧
          x.units = coarsen a.natAbs * Finite64.one :=
  exists_round_whole (coarsen_le_of_isWord hWord) (by decide) _

/- Integers are as far apart as numbers as their coarse ones are. -/
theorem exists_rank_ofInt :
    ∃ factor : Int,
      0 < factor ∧
        ∀ a : Int,
          IsWord a → (ofInt a).rank = some (coarse a * factor) := by
  refine ⟨Finite64.one, Int.natCast_pos.mpr one_pos, ?_⟩
  intro a hWord
  rcases exists_ofInt hWord with
    ⟨x, hNumber, hNegative, hUnits⟩
  rw [hNumber, rank, Finite64.rank, hNegative, hUnits, coarse]
  -- the number of units is too large to be looked at
  generalize Finite64.one = one
  by_cases hSign : a < 0
  · simp only [hSign, decide_true, if_true, Int.natCast_mul,
      Int.neg_mul]
  · simp only [hSign, decide_false, Bool.false_eq_true, if_false,
      Int.natCast_mul]

theorem compare_mul
    {factor : Int}
    (hFactor : 0 < factor)
    (a b : Int) :
    compare (a * factor) (b * factor) = compare a b := by
  rcases lt_trichotomy a b with hLess | rfl | hMore
  · rw [compare_lt_iff_lt.mpr hLess, compare_lt_iff_lt]
    exact Int.mul_lt_mul_of_pos_right hLess hFactor
  · rw [compare_eq_iff_eq.mpr rfl, compare_eq_iff_eq.mpr rfl]
  · rw [compare_gt_iff_gt.mpr hMore, compare_gt_iff_gt]
    exact Int.mul_lt_mul_of_pos_right hMore hFactor

theorem compare?_ofInt
    (hFirst : IsWord a)
    (hSecond : IsWord b) :
    (ofInt a).compare? (ofInt b) =
      some (compare (coarse a) (coarse b)) := by
  rcases exists_rank_ofInt with ⟨factor, hFactor, hRank⟩
  rw [compare?, hRank a hFirst, hRank b hSecond]
  dsimp only
  rw [compare_mul hFactor]

theorem same_ofInt
    (hFirst : IsWord a)
    (hSecond : IsWord b) :
    (ofInt a).same (ofInt b) = decide (coarse a = coarse b) := by
  rcases exists_rank_ofInt with ⟨factor, hFactor, hRank⟩
  have hUnits := Int.ne_of_gt hFactor
  rw [same, hRank a hFirst, hRank b hSecond, Bool.eq_iff_iff]
  simp [hUnits]

end Binary64

end Automation
