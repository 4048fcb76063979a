/-
  How far apart finite binary64 numbers are.

  Magnitudes are counted in units of `2 ^ -1074`.  Between two powers of
  two they are the multiples of one spacing, of which there are `2 ^ 52`.
  A magnitude that is rounded to a multiple of the spacing around it has
  that multiple as a magnitude again, also when it is the next power of
  two.

  Key definitions include:
    * `Finite64.spacing`, the distance between neighbouring magnitudes
    * `Binary64.nearest`, the nearest whole number to a quotient

  Key theorems include:
    * `Finite64.spacing_dvd_nearest`, rounding gives a magnitude
-/

namespace Automation

------------------------------------------------------------
-- The Nearest Whole Number
------------------------------------------------------------

namespace Binary64

/- The nearest whole number to a quotient, a tie going to the even one. -/
def nearest
    (num den : Nat) :
    Nat :=
  let quotient := num / den
  let rest := num % den
  if 2 * rest < den then quotient
  else if den < 2 * rest then quotient + 1
  else if quotient % 2 = 0 then quotient
  else quotient + 1

theorem nearest_cases
    (num den : Nat) :
    nearest num den = num / den ∨
      nearest num den = num / den + 1 := by
  unfold nearest
  dsimp only
  split
  · exact Or.inl rfl
  · split
    · exact Or.inr rfl
    · split
      · exact Or.inl rfl
      · exact Or.inr rfl

theorem le_nearest
    (num den : Nat) :
    num / den ≤ nearest num den := by
  rcases nearest_cases num den with hSame | hNext <;> omega

theorem nearest_le
    (num den : Nat) :
    nearest num den ≤ num / den + 1 := by
  rcases nearest_cases num den with hSame | hNext <;> omega

end Binary64

------------------------------------------------------------
-- Spacing
------------------------------------------------------------

namespace Finite64

/- The distance between neighbouring numbers at a magnitude. -/
def spacing
    (units : Nat) :
    Nat :=
  if units < Nat.pow 2 53 then 1 else Nat.pow 2 (units.log2 - 52)

variable {n k : Nat}

theorem spacing_of_lt
    (hSmall : n < Nat.pow 2 53) :
    spacing n = 1 :=
  if_pos hSmall

theorem spacing_of_le
    (hLarge : Nat.pow 2 53 ≤ n) :
    spacing n = Nat.pow 2 (n.log2 - 52) :=
  if_neg (Nat.not_lt.mpr hLarge)

theorem le_log2
    (hLarge : Nat.pow 2 53 ≤ n) :
    53 ≤ n.log2 := by
  rw [Nat.pow_eq] at hLarge
  exact (Nat.le_log2 (by omega)).mpr hLarge

/- Up to `2 ^ 53` the exponent is cut off at zero. -/
theorem spacing_eq
    (n : Nat) :
    spacing n = Nat.pow 2 (n.log2 - 52) := by
  rcases Nat.lt_or_ge n (Nat.pow 2 53) with hSmall | hLarge
  · rcases Nat.eq_zero_or_pos n with rfl | hPos
    · rfl
    · have hLog : n.log2 < 53 :=
        (Nat.log2_lt (Nat.ne_of_gt hPos)).mpr hSmall
      have hZero : n.log2 - 52 = 0 := by omega
      rw [spacing_of_lt hSmall, hZero]
  · exact spacing_of_le hLarge

theorem spacing_pos
    (n : Nat) :
    0 < spacing n := by
  rw [spacing_eq]
  exact Nat.two_pow_pos _

theorem spacing_of_bounds
    (hLow : Nat.pow 2 k ≤ n)
    (hHigh : n < Nat.pow 2 (k + 1)) :
    spacing n = Nat.pow 2 (k - 52) := by
  have hPos : 0 < Nat.pow 2 k := Nat.two_pow_pos k
  have hLog : n.log2 = k :=
    (Nat.log2_eq_iff (by omega)).mpr ⟨hLow, hHigh⟩
  rw [spacing_eq, hLog]

theorem spacing_dvd_pow
    {j : Nat}
    (hLe : n.log2 ≤ j) :
    spacing n ∣ Nat.pow 2 j := by
  rw [spacing_eq]
  exact Nat.pow_dvd_pow 2 (by omega)

------------------------------------------------------------
-- Magnitudes
------------------------------------------------------------

/- A number of at most 53 bits times a power of two. -/
theorem spacing_dvd_mul
    {m : Nat}
    (hLow : Nat.pow 2 52 ≤ m)
    (hHigh : m ≤ Nat.pow 2 53) :
    spacing (m * Nat.pow 2 k) ∣ m * Nat.pow 2 k := by
  simp only [Nat.pow_eq] at hLow hHigh ⊢
  rcases Nat.lt_or_eq_of_le hHigh with hLess | rfl
  · have hSpacing :
        spacing (m * Nat.pow 2 k) = Nat.pow 2 (52 + k - 52) := by
      apply spacing_of_bounds
      · simp only [Nat.pow_eq, Nat.pow_add]
        exact Nat.mul_le_mul_right _ hLow
      · simp only [Nat.pow_eq, Nat.add_right_comm 52 k 1]
        rw [Nat.pow_add]
        exact Nat.mul_lt_mul_of_pos_right hLess (Nat.two_pow_pos k)
    rw [Nat.pow_eq] at hSpacing
    rw [hSpacing, Nat.pow_eq, Nat.add_sub_cancel_left]
    exact Nat.dvd_mul_left _ _
  · rw [← Nat.pow_add]
    exact spacing_dvd_pow (Nat.le_of_eq Nat.log2_two_pow)

/- A quotient of a magnitude by its spacing has 53 bits. -/
theorem pow_le_div_spacing
    (hLarge : Nat.pow 2 53 ≤ n) :
    Nat.pow 2 52 ≤ n / spacing n := by
  have hLog := le_log2 hLarge
  simp only [spacing_eq, Nat.pow_eq] at hLarge ⊢
  rw [Nat.le_div_iff_mul_le (Nat.two_pow_pos _), ← Nat.pow_add,
    Nat.add_sub_cancel' (by omega)]
  exact Nat.log2_self_le (by omega)

theorem div_spacing_lt
    (hLarge : Nat.pow 2 53 ≤ n) :
    n / spacing n < Nat.pow 2 53 := by
  have hLog := le_log2 hLarge
  have hPower : 53 + (n.log2 - 52) = n.log2 + 1 := by omega
  simp only [spacing_eq, Nat.pow_eq]
  rw [Nat.div_lt_iff_lt_mul (Nat.two_pow_pos _), ← Nat.pow_add,
    hPower]
  exact Nat.lt_log2_self

/- The multiples of a spacing on both sides of a quotient. -/
theorem spacing_dvd_of_le
    {quotient m : Nat}
    (hFirst : quotient / spacing quotient ≤ m)
    (hLast : m ≤ quotient / spacing quotient + 1) :
    spacing (m * spacing quotient) ∣ m * spacing quotient := by
  rcases Nat.lt_or_ge quotient (Nat.pow 2 53) with hSmall | hLarge
  · rw [spacing_of_lt hSmall, Nat.div_one] at hLast
    rw [spacing_of_lt hSmall, Nat.mul_one]
    rcases Nat.lt_or_ge m (Nat.pow 2 53) with hLess | hMore
    · rw [spacing_of_lt hLess]
      exact Nat.one_dvd m
    · have hPower : m = Nat.pow 2 53 * Nat.pow 2 0 := by
        change m = Nat.pow 2 53
        omega
      rw [hPower]
      exact spacing_dvd_mul (by decide) (by decide)
  · have hLow := pow_le_div_spacing hLarge
    have hHigh := div_spacing_lt hLarge
    rw [spacing_eq quotient] at hFirst hLast hLow hHigh ⊢
    exact spacing_dvd_mul (by omega) (by omega)

/- Rounding goes to a multiple of the spacing with at most 53 bits. -/
theorem spacing_dvd_nearest
    (num den : Nat) :
    let gap := spacing (num / den)
    spacing (Binary64.nearest num (den * gap) * gap) ∣
      Binary64.nearest num (den * gap) * gap := by
  dsimp only
  have hFirst := Binary64.le_nearest num (den * spacing (num / den))
  have hLast := Binary64.nearest_le num (den * spacing (num / den))
  rw [← Nat.div_div_eq_div_mul] at hFirst hLast
  exact spacing_dvd_of_le hFirst hLast

end Finite64

end Automation
