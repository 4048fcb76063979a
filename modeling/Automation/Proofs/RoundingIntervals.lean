import Automation.Binary64.Shortest
import Automation.Proofs.Rounding

/-
  The quotients that are rounded to a number.

  Around every finite number lies an interval, and a quotient in it
  is rounded to the number.  The interval ends half way to the next number
  on either side; below a power of two the numbers lie twice as close, so
  that the end below is half as far.

  Key definitions include:
    * `Finite64.lowerGap`, twice the distance to the number below
    * `Finite64.Near`, quotients inside the interval

  Key theorems include:
    * `Binary64.nearest_eq`, the integer that a quotient is rounded to
    * `Finite64.spacing_cases`, how far apart numbers are at a quotient
    * `Finite64.round_of_near`, quotients that are rounded to a number
-/

namespace Automation

------------------------------------------------------------
-- The Nearest Integer
------------------------------------------------------------

/-
  The nearest integer to a quotient is the one that lies no more than half
  away, and is even if it lies just half away.
-/
theorem Binary64.nearest_eq
    {num den n : Nat}
    (hDen : 0 < den)
    (hLow : 2 * (n * den) ≤ 2 * num + den)
    (hHigh : 2 * num ≤ 2 * (n * den) + den)
    (hTie :
      n % 2 = 0 ∨
        2 * (n * den) < 2 * num + den ∧
          2 * num < 2 * (n * den) + den) :
    nearest num den = n := by
  have hSplit := Nat.div_add_mod' num den
  have hRest := Nat.mod_lt num hDen
  rcases Nat.lt_or_ge num (n * den) with hBelow | hAbove
  · cases n with
    | zero => simp at hBelow
    | succ k =>
        have hSucc : (k + 1) * den = k * den + den :=
          Nat.succ_mul k den
        have hQuotient : num / den = k := by
          refine Nat.div_eq_of_lt_le ?_ hBelow
          omega
        rw [hQuotient] at hSplit
        unfold nearest
        simp only [hQuotient]
        split_ifs <;> omega
  · have hSucc : (n + 1) * den = n * den + den :=
      Nat.succ_mul n den
    have hQuotient : num / den = n := by
      refine Nat.div_eq_of_lt_le hAbove ?_
      omega
    rw [hQuotient] at hSplit
    unfold nearest
    simp only [hQuotient]
    split_ifs <;> omega

namespace Finite64

------------------------------------------------------------
-- Spacing
------------------------------------------------------------

variable {n k : Nat}

theorem add_le_of_dvd
    {gap m : Nat}
    (hFirst : gap ∣ n)
    (hSecond : gap ∣ m)
    (hLess : n < m) :
    n + gap ≤ m := by
  have hGap : gap ≤ m - n :=
    Nat.le_of_dvd (Nat.sub_pos_of_lt hLess)
      (Nat.dvd_sub hSecond hFirst)
  omega

/- A magnitude and the next one above are not divided by a power of two. -/
theorem add_spacing_le
    (hWhole : spacing n ∣ n) :
    n + spacing n ≤ 2 ^ (n.log2 + 1) :=
  add_le_of_dvd hWhole (spacing_dvd_pow (Nat.le_succ _))
    Nat.lt_log2_self

------------------------------------------------------------
-- Intervals
------------------------------------------------------------

/- Twice the distance to the number below. -/
def lowerGap
    (n : Nat) :
    Nat :=
  if Nat.pow 2 53 ≤ n ∧ n = Nat.pow 2 n.log2 then spacing n
  else 2 * spacing n

/-
  A quotient that lies in the interval of a magnitude, multiplied by four
  times its denominator.
-/
structure Near
    (n num den : Nat) : Prop where
  low : 4 * (n * den) ≤ 4 * num + lowerGap n * den
  high : 4 * num ≤ 4 * (n * den) + 2 * (spacing n * den)
  tie :
    n / spacing n % 2 = 0 ∨
      4 * (n * den) < 4 * num + lowerGap n * den ∧
        4 * num < 4 * (n * den) + 2 * (spacing n * den)

theorem lowerGap_le
    (n : Nat) :
    lowerGap n ≤ 2 * spacing n := by
  unfold lowerGap
  split_ifs <;> omega

theorem holds_iff_near
    {num den : Nat}
    (hPos : 0 < n)
    (hWhole : spacing n ∣ n) :
    (interval n).holds num den = true ↔ Near n num den := by
  have hGap : lowerGap n ≤ 4 * n := by
    have hSpacing := Nat.le_of_dvd hPos hWhole
    have hLower := lowerGap_le n
    omega
  have hLowEnd :
      (interval n).low * den + lowerGap n * den =
        4 * (n * den) := by
    have hEnd : (interval n).low = 4 * n - lowerGap n := rfl
    rw [hEnd, ← Nat.add_mul, Nat.sub_add_cancel hGap,
      Nat.mul_assoc]
  have hHighEnd :
      (interval n).high * den =
        4 * (n * den) + 2 * (spacing n * den) := by
    have hEnd : (interval n).high = 4 * n + 2 * spacing n := rfl
    rw [hEnd, Nat.add_mul, Nat.mul_assoc, Nat.mul_assoc]
  have hClosed :
      (interval n).closed = decide (n / spacing n % 2 = 0) := rfl
  unfold Interval.holds
  rw [hClosed, hHighEnd]
  constructor
  · intro hHolds
    split_ifs at hHolds with hEven
    · have hEnds := of_decide_eq_true hHolds
      exact ⟨by omega, by omega, Or.inl (by simpa using hEven)⟩
    · have hEnds := of_decide_eq_true hHolds
      exact ⟨by omega, by omega, Or.inr ⟨by omega, by omega⟩⟩
  · rintro ⟨hLow, hHigh, hTie⟩
    split_ifs with hEven
    · exact decide_eq_true ⟨by omega, by omega⟩
    · have hOdd : ¬ n / spacing n % 2 = 0 := by simpa using hEven
      rcases hTie with hTie | ⟨hLess, hMore⟩
      · exact absurd hTie hOdd
      · exact decide_eq_true ⟨by omega, by omega⟩

/- Linear comparisons with a quotient, however the quotient is written. -/
theorem linear_le_iff
    {num den other scale : Nat}
    (hDen : 0 < den)
    (hScale : 0 < scale)
    (hSame : num * scale = other * den)
    (a b c d : Nat) :
    a * num + b * den ≤ c * num + d * den ↔
      a * other + b * scale ≤ c * other + d * scale := by
  have hSide :
      ∀ p q : Nat,
        (p * num + q * den) * scale =
          (p * other + q * scale) * den := by
    intro p q
    calc
      (p * num + q * den) * scale
          = p * (num * scale) + q * den * scale := by ring
      _ = (p * other + q * scale) * den := by rw [hSame]; ring
  rw [← Nat.mul_le_mul_right_iff hScale, hSide a b, hSide c d,
    Nat.mul_le_mul_right_iff hDen]

theorem Near.congr
    {num den other scale : Nat}
    (hDen : 0 < den)
    (hScale : 0 < scale)
    (hSame : num * scale = other * den)
    (hNear : Near n num den) :
    Near n other scale := by
  have hLow :=
    linear_le_iff hDen hScale hSame 0 (4 * n) 4 (lowerGap n)
  have hLess :=
    linear_le_iff hDen hScale hSame 4 (lowerGap n) 0 (4 * n)
  have hHigh :=
    linear_le_iff hDen hScale hSame 4 0 0 (4 * n + 2 * spacing n)
  have hMore :=
    linear_le_iff hDen hScale hSame 0 (4 * n + 2 * spacing n) 4 0
  simp only [Nat.add_mul, Nat.mul_assoc, Nat.zero_mul, Nat.add_zero,
    Nat.zero_add] at hLow hLess hHigh hMore
  rcases hNear with ⟨hFirst, hSecond, hTie⟩
  refine ⟨hLow.mp hFirst, hHigh.mp hSecond, ?_⟩
  rw [← Nat.not_le, ← Nat.not_le] at hTie ⊢
  rw [← hLess, ← hMore]
  exact hTie

------------------------------------------------------------
-- The Spacing Of A Quotient
------------------------------------------------------------

variable {num den : Nat}

/- In the interval of a number below `2 ^ 53` there are no larger ones. -/
theorem spacing_of_small
    (hSmall : n < 2 ^ 53)
    (hDen : 0 < den)
    (hNear : Near n num den) :
    spacing (num / den) = spacing n := by
  have hSpacing := spacing_of_lt hSmall
  have hHigh := hNear.high
  rw [hSpacing, Nat.one_mul] at hHigh
  have hQuotient : num / den < 2 ^ 53 := by
    have hSucc : (n + 1) * den = n * den + den :=
      Nat.succ_mul n den
    have hBelow : num / den < n + 1 :=
      (Nat.div_lt_iff_lt_mul hDen).mpr (by omega)
    omega
  rw [hSpacing, spacing_of_lt hQuotient]

/- From `2 ^ 53` on, a quotient lies below the next power of two. -/
theorem div_lt_of_near
    (hWhole : spacing n ∣ n)
    (hDen : 0 < den)
    (hNear : Near n num den) :
    num / den < 2 ^ (n.log2 + 1) := by
  have hHigh := hNear.high
  have hCells : 0 < spacing n * den :=
    Nat.mul_pos (spacing_pos n) hDen
  have hNext : (n + spacing n) * den ≤ 2 ^ (n.log2 + 1) * den :=
    Nat.mul_le_mul_right den (add_spacing_le hWhole)
  rw [Nat.add_mul] at hNext
  rw [Nat.div_lt_iff_lt_mul hDen]
  omega

/- A quotient below the power of two at a number's end is close to it. -/
theorem eq_pow_of_near
    (hPos : 0 < n)
    (hWhole : spacing n ∣ n)
    (hDen : 0 < den)
    (hNear : Near n num den)
    (hBelow : num / den < 2 ^ n.log2) :
    n = 2 ^ n.log2 := by
  have hLow := hNear.low
  have hLeast : 2 ^ n.log2 ≤ n :=
    Nat.log2_self_le (Nat.ne_of_gt hPos)
  rcases Nat.lt_or_eq_of_le hLeast with hLess | hSame
  · have hCells : 0 < spacing n * den :=
      Nat.mul_pos (spacing_pos n) hDen
    have hGap : lowerGap n * den ≤ 2 * (spacing n * den) := by
      rw [← Nat.mul_assoc]
      exact Nat.mul_le_mul_right den (lowerGap_le n)
    have hNext : (2 ^ n.log2 + spacing n) * den ≤ n * den :=
      Nat.mul_le_mul_right den
        (add_le_of_dvd (spacing_dvd_pow (Nat.le_refl _)) hWhole
          hLess)
    rw [Nat.add_mul] at hNext
    rw [Nat.div_lt_iff_lt_mul hDen] at hBelow
    omega
  · exact hSame.symm

/-
  Numbers are as far apart at a quotient as at the number next to it,
  except just below a power of two, where they are twice as close.
-/
theorem spacing_cases
    (hPos : 0 < n)
    (hWhole : spacing n ∣ n)
    (hDen : 0 < den)
    (hNear : Near n num den) :
    spacing (num / den) = spacing n ∨
      2 * spacing (num / den) = spacing n ∧
        lowerGap n = spacing n ∧
          num < n * den := by
  rcases Nat.lt_or_ge n (2 ^ 53) with hSmall | hLarge
  · exact Or.inl (spacing_of_small hSmall hDen hNear)
  · have hLog := le_log2 hLarge
    have hSpacing := spacing_eq n
    rcases Nat.lt_or_ge (num / den) (2 ^ n.log2) with
      hBelow | hAbove
    · have hPower := eq_pow_of_near hPos hWhole hDen hNear hBelow
      have hGap : lowerGap n = spacing n :=
        if_pos ⟨hLarge, hPower⟩
      have hHalf : 2 ^ n.log2 = 2 ^ (n.log2 - 1) * 2 := by
        rw [← Nat.pow_succ]
        congr 1
        omega
      have hQuotient : 2 ^ (n.log2 - 1) ≤ num / den := by
        have hLow := hNear.low
        have hCells : spacing n * den ≤ n * den :=
          Nat.mul_le_mul_right den (Nat.le_of_dvd hPos hWhole)
        have hWay : n * den = 2 ^ (n.log2 - 1) * den * 2 := by
          calc
            n * den
                = 2 ^ n.log2 * den := congrArg (· * den) hPower
            _ = 2 ^ (n.log2 - 1) * den * 2 := by
                rw [hHalf, Nat.mul_right_comm]
        rw [hGap] at hLow
        rw [Nat.le_div_iff_mul_le hDen]
        omega
      have hFiner :
          spacing (num / den) = 2 ^ (n.log2 - 1 - 52) := by
        refine spacing_of_bounds hQuotient ?_
        rw [Nat.sub_add_cancel (by omega)]
        exact hBelow
      refine Or.inr ⟨?_, hGap, ?_⟩
      · rw [hFiner, hSpacing, Nat.mul_comm, ← Nat.pow_succ]
        congr 1
        omega
      · rw [Nat.div_lt_iff_lt_mul hDen, ← hPower] at hBelow
        exact hBelow
    · left
      rw [hSpacing]
      exact spacing_of_bounds hAbove
        (div_lt_of_near hWhole hDen hNear)

------------------------------------------------------------
-- Rounding
------------------------------------------------------------

/- Rounding to a multiple of a spacing, near that multiple. -/
theorem nearest_mul_of_near
    {gap : Nat}
    (hGap : 0 < gap)
    (hDen : 0 < den)
    (hWhole : gap ∣ n)
    (hLow : 4 * (n * den) ≤ 4 * num + 2 * (gap * den))
    (hHigh : 4 * num ≤ 4 * (n * den) + 2 * (gap * den))
    (hTie :
      n / gap % 2 = 0 ∨
        4 * (n * den) < 4 * num + 2 * (gap * den) ∧
          4 * num < 4 * (n * den) + 2 * (gap * den)) :
    Binary64.nearest num (den * gap) * gap = n := by
  rcases hWhole with ⟨m, rfl⟩
  have hCells : m * (den * gap) = gap * m * den := by ring
  rw [Nat.mul_div_cancel_left m hGap] at hTie
  have hNearest : Binary64.nearest num (den * gap) = m := by
    refine Binary64.nearest_eq (Nat.mul_pos hDen hGap) ?_ ?_ ?_
    · rw [hCells, Nat.mul_comm den gap]
      omega
    · rw [hCells, Nat.mul_comm den gap]
      omega
    · rw [hCells, Nat.mul_comm den gap]
      omega
  rw [hNearest, Nat.mul_comm]

/-
  Just below a power of two the spacing is the finer one, and half of the
  gap below is half of that spacing.
-/
theorem nearest_mul_spacing
    (hPos : 0 < n)
    (hWhole : spacing n ∣ n)
    (hDen : 0 < den)
    (hNear : Near n num den) :
    Binary64.nearest num (den * spacing (num / den)) *
        spacing (num / den) =
      n := by
  rcases hNear with ⟨hLow, hHigh, hTie⟩
  rcases spacing_cases hPos hWhole hDen ⟨hLow, hHigh, hTie⟩ with
    hSame | ⟨hHalf, hGap, hLess⟩
  · have hLower : lowerGap n * den ≤ 2 * (spacing n * den) := by
      rw [← Nat.mul_assoc]
      exact Nat.mul_le_mul_right den (lowerGap_le n)
    rw [hSame]
    exact nearest_mul_of_near (spacing_pos _) hDen hWhole
      (by omega) hHigh (by omega)
  · have hFiner := spacing_pos (num / den)
    rw [hGap, ← hHalf, Nat.mul_assoc] at hLow
    rw [← hHalf] at hWhole
    rcases hWhole with ⟨m, hUnits⟩
    have hProduct : n = spacing (num / den) * (2 * m) := by
      rw [hUnits]
      ring
    have hEven : n / spacing (num / den) % 2 = 0 := by
      rw [hProduct, Nat.mul_div_cancel_left _ hFiner]
      exact Nat.mul_mod_right 2 m
    exact nearest_mul_of_near hFiner hDen ⟨2 * m, hProduct⟩ hLow
      (by omega) (Or.inl hEven)

/- A quotient in the interval of a number is rounded to the number. -/
theorem round_of_near
    {x : Finite64}
    (hPos : 0 < x.units)
    (hDen : 0 < den)
    (hNear : Near x.units num den) :
    Binary64.round x.negative num den = .finite x := by
  have hUnits := nearest_mul_spacing hPos x.whole hDen hNear
  unfold Binary64.round
  simp only [hUnits, dif_pos x.bounded]

end Finite64

end Automation
