import Automation.Proofs.RoundingIntervals

/-
  The shortest decimal of a number reads back as the number.

  A decimal reads back when its value lies in the interval of the number.
  The decimals with seventeen digits lie so close that one of them always
  does, and leaving out zeros at the end does not change the value.

  Key definitions include:
    * `Decimal.ReadsAs`, decimals in the interval of a number

  Key theorems include:
    * `Decimal.readsAs_shift`, zeros moved between digits and exponent
    * `Finite64.leadingPower_spec`, the first digit is not too far left
    * `Finite64.onGrid_isSome`, a grid on which some decimal reads back
    * `Decimal.ofDecimal_of_readsAs`
    * `Finite64.ofDecimal_shortest`
-/

namespace Automation

namespace Decimal

------------------------------------------------------------
-- Values
------------------------------------------------------------

/- The units of a power of ten, as a quotient of `cell` and `scale`. -/
def cell
    (exponent : Int) :
    Nat :=
  Finite64.one * 10 ^ exponent.toNat

def scale
    (exponent : Int) :
    Nat :=
  10 ^ (-exponent).toNat

/- A decimal whose value lies in the interval of a magnitude. -/
def ReadsAs
    (d : Decimal)
    (units : Nat) : Prop :=
  Finite64.Near units (d.digits * cell d.exponent) (scale d.exponent)

variable {d : Decimal}
variable {exponent : Int}
variable {digits units count : Nat}

theorem cell_pos
    (exponent : Int) :
    0 < cell exponent :=
  Nat.mul_pos Binary64.one_pos (Nat.pow_pos (by decide))

theorem scale_pos
    (exponent : Int) :
    0 < scale exponent :=
  Nat.pow_pos (by decide)

/- A power of ten times `10 ^ count`, without division. -/
theorem cell_shift
    (exponent : Int)
    (count : Nat) :
    cell (exponent + count) * scale exponent =
      10 ^ count * cell exponent * scale (exponent + count) := by
  have hPowers :
      (exponent + count).toNat + (-exponent).toNat =
        count + exponent.toNat + (-(exponent + count)).toNat := by
    omega
  unfold cell scale
  calc
    Finite64.one * 10 ^ (exponent + count).toNat *
          10 ^ (-exponent).toNat
        = Finite64.one *
            10 ^ ((exponent + count).toNat + (-exponent).toNat) := by
          rw [Nat.pow_add, Nat.mul_assoc]
    _ = 10 ^ count * (Finite64.one * 10 ^ exponent.toNat) *
          10 ^ (-(exponent + count)).toNat := by
        rw [hPowers, Nat.pow_add, Nat.pow_add]
        ring

/- Zeros at the end of the digits are as good as a larger exponent. -/
theorem readsAs_shift :
    ReadsAs ⟨digits * 10 ^ count, exponent⟩ units ↔
      ReadsAs ⟨digits, exponent + count⟩ units := by
  have hSame :
      digits * 10 ^ count * cell exponent *
          scale (exponent + count) =
        digits * cell (exponent + count) * scale exponent := by
    rw [Nat.mul_assoc digits (cell _), cell_shift]
    ring
  constructor
  · exact
      Finite64.Near.congr (scale_pos _) (scale_pos _) hSame
  · exact
      Finite64.Near.congr (scale_pos _) (scale_pos _) hSame.symm

/- Leaving out zeros at the end does not change the value. -/
theorem readsAs_trimZeros
    (fuel : Nat)
    (hReads : d.ReadsAs units) :
    (trimZeros fuel d).ReadsAs units := by
  induction fuel generalizing d with
  | zero => exact hReads
  | succ fuel ih =>
      rcases d with ⟨digits, exponent⟩
      unfold trimZeros
      split_ifs with hZero
      · refine ih (readsAs_shift.mp ?_)
        dsimp only at hZero ⊢
        rw [Nat.pow_one, Nat.div_mul_cancel
          (Nat.dvd_of_mod_eq_zero hZero.2)]
        exact hReads
      · exact hReads

end Decimal

namespace Finite64

open Decimal (cell scale cell_pos scale_pos ReadsAs)

variable {units digits : Nat}
variable {exponent : Int}

------------------------------------------------------------
-- The Leading Digit
------------------------------------------------------------

/- Powers compared by powers of theirs. -/
theorem pow_le_pow_of_bases
    {x y p q a b : Nat}
    (hPos : 0 < x)
    (hRoot : q ≠ 0)
    (hBases : x ^ p ≤ y ^ q)
    (hExponents : q * a ≤ p * b) :
    x ^ a ≤ y ^ b := by
  have hPowers : (x ^ a) ^ q ≤ (y ^ b) ^ q :=
    calc
      (x ^ a) ^ q
          = x ^ (q * a) := by rw [← Nat.pow_mul, Nat.mul_comm]
      _ ≤ x ^ (p * b) := Nat.pow_le_pow_right hPos hExponents
      _ = (x ^ p) ^ b := Nat.pow_mul x p b
      _ ≤ (y ^ q) ^ b := Nat.pow_le_pow_left hBases b
      _ = (y ^ b) ^ q := by
          rw [← Nat.pow_mul, ← Nat.pow_mul, Nat.mul_comm]
  exact (Nat.pow_le_pow_iff_left hRoot).mp hPowers

/- `1233 / 4096` is a little less than the logarithm of two. -/
theorem ten_pow_le_two_pow
    {a b : Nat}
    (hLe : 4096 * a ≤ 1233 * b) :
    10 ^ a ≤ 2 ^ b :=
  pow_le_pow_of_bases (by decide) (by decide) (by decide +kernel) hLe

theorem two_pow_le_ten_pow
    {a b : Nat}
    (hLe : 1234 * a ≤ 4096 * b) :
    2 ^ a ≤ 10 ^ b :=
  pow_le_pow_of_bases (by decide) (by decide) (by decide +kernel) hLe

/- A power of ten that is not above a magnitude. -/
def reaches
    (units : Nat)
    (power : Int) :
    Bool :=
  if 0 ≤ power then Nat.pow 10 power.toNat * one ≤ units
  else one ≤ units * Nat.pow 10 (-power).toNat

theorem reaches_iff
    {power : Int} :
    reaches units power = true ↔
      cell power ≤ units * scale power := by
  unfold reaches cell scale
  simp only [Nat.pow_eq]
  split_ifs with hSign
  · have hZero : (-power).toNat = 0 := by omega
    rw [hZero, Nat.pow_zero, Nat.mul_one, Nat.mul_comm one]
    exact decide_eq_true_iff
  · have hZero : power.toNat = 0 := by omega
    rw [hZero, Nat.pow_zero, Nat.mul_one]
    exact decide_eq_true_iff

/- The estimate of the leading power, before it is corrected. -/
def estimate
    (units : Nat) :
    Int :=
  ((units.log2 : Int) - 1074) * 1233 / 4096

theorem leadingPower_eq
    (units : Nat) :
    leadingPower units =
      ([estimate units + 2, estimate units + 1,
          estimate units].find? (reaches units)).getD
        (estimate units - 1) :=
  rfl

/- Units from one on: the estimate itself is not too large. -/
theorem reaches_estimate
    (hPos : 0 < units)
    (hLarge : 1074 ≤ units.log2) :
    reaches units (estimate units) = true := by
  have hEstimate : 0 ≤ estimate units := by
    unfold estimate
    omega
  have hZero : (-estimate units).toNat = 0 := by omega
  have hPower :
      10 ^ (estimate units).toNat ≤ 2 ^ (units.log2 - 1074) := by
    refine ten_pow_le_two_pow ?_
    unfold estimate
    omega
  rw [reaches_iff, cell, scale, hZero, Nat.pow_zero, Nat.mul_one]
  calc
    one * 10 ^ (estimate units).toNat
        ≤ one * 2 ^ (units.log2 - 1074) :=
          Nat.mul_le_mul_left one hPower
    _ = 2 ^ units.log2 := by
        rw [Binary64.one_eq, ← Nat.pow_add, Nat.add_sub_cancel' hLarge]
    _ ≤ units := Nat.log2_self_le (Nat.ne_of_gt hPos)

/- Below one the estimate is too large by no more than one. -/
theorem reaches_below_estimate
    (hPos : 0 < units)
    (hSmall : units.log2 < 1074) :
    reaches units (estimate units - 1) = true := by
  have hEstimate : estimate units - 1 < 0 := by
    unfold estimate
    omega
  have hZero : (estimate units - 1).toNat = 0 := by omega
  have hPower :
      2 ^ (1074 - units.log2) ≤
        10 ^ (-(estimate units - 1)).toNat := by
    refine two_pow_le_ten_pow ?_
    unfold estimate
    omega
  rw [reaches_iff, cell, scale, hZero, Nat.pow_zero, Nat.mul_one]
  calc
    one
        = 2 ^ units.log2 * 2 ^ (1074 - units.log2) := by
          rw [Binary64.one_eq, ← Nat.pow_add,
            Nat.add_sub_cancel' (Nat.le_of_lt hSmall)]
    _ ≤ units * 10 ^ (-(estimate units - 1)).toNat :=
        Nat.mul_le_mul
          (Nat.log2_self_le (Nat.ne_of_gt hPos)) hPower

/- The power of ten of the leading digit is not above the number. -/
theorem leadingPower_spec
    (hPos : 0 < units) :
    cell (leadingPower units) ≤
      units * scale (leadingPower units) := by
  rw [← reaches_iff, leadingPower_eq]
  cases hFind :
      [estimate units + 2, estimate units + 1,
          estimate units].find? (reaches units) with
  | some power => exact List.find?_some hFind
  | none =>
      rcases Nat.lt_or_ge units.log2 1074 with hSmall | hLarge
      · exact reaches_below_estimate hPos hSmall
      · have hMiss :=
          List.find?_eq_none.mp hFind (estimate units) (by simp)
        exact absurd (reaches_estimate hPos hLarge) hMiss

------------------------------------------------------------
-- Grids
------------------------------------------------------------

/- The last decimal of a grid that is not above a magnitude. -/
def lastBelow
    (units : Nat)
    (exponent : Int) :
    Nat :=
  units * scale exponent / cell exponent

/- A decimal of a grid that lies in the interval of a magnitude. -/
def meets
    (units : Nat)
    (exponent : Int)
    (digits : Nat) :
    Bool :=
  (interval units).holds (digits * cell exponent) (scale exponent)

theorem meets_iff
    (hPos : 0 < units)
    (hWhole : spacing units ∣ units) :
    meets units exponent digits = true ↔
      ReadsAs ⟨digits, exponent⟩ units :=
  holds_iff_near hPos hWhole

/- A grid shows its two decimals next to the magnitude. -/
theorem onGrid_eq
    (units : Nat)
    (exponent : Int) :
    onGrid units exponent =
      match meets units exponent (lastBelow units exponent),
        meets units exponent (lastBelow units exponent + 1) with
      | true, true =>
          some
            (Binary64.nearest (units * scale exponent)
              (cell exponent))
      | true, false => some (lastBelow units exponent)
      | false, true => some (lastBelow units exponent + 1)
      | false, false => none := by
  have hCell :
      (if 0 ≤ exponent then one * Nat.pow 10 exponent.toNat
        else one) = cell exponent := by
    split_ifs with hSign
    · rfl
    · have hZero : exponent.toNat = 0 := by omega
      rw [cell, hZero, Nat.pow_zero, Nat.mul_one]
  have hScale :
      (if 0 ≤ exponent then 1
        else Nat.pow 10 (-exponent).toNat) = scale exponent := by
    split_ifs with hSign
    · have hZero : (-exponent).toNat = 0 := by omega
      rw [scale, hZero, Nat.pow_zero]
    · rfl
  unfold onGrid
  simp only [hCell, hScale]
  rfl

/- What is found on a grid reads back. -/
theorem readsAs_of_onGrid
    (hPos : 0 < units)
    (hWhole : spacing units ∣ units)
    (hGrid : onGrid units exponent = some digits) :
    ReadsAs ⟨digits, exponent⟩ units := by
  rw [onGrid_eq] at hGrid
  rw [← meets_iff hPos hWhole]
  cases hLower : meets units exponent (lastBelow units exponent) <;>
    cases hUpper :
      meets units exponent (lastBelow units exponent + 1) <;>
    simp only [hLower, hUpper, Option.some.injEq,
      reduceCtorEq] at hGrid
  · rw [← hGrid]
    exact hUpper
  · rw [← hGrid]
    exact hLower
  · have hFirst : lastBelow units exponent ≤ digits := by
      rw [← hGrid]
      exact Binary64.le_nearest _ _
    have hLast : digits ≤ lastBelow units exponent + 1 := by
      rw [← hGrid]
      exact Binary64.nearest_le _ _
    rcases Nat.lt_or_eq_of_le hFirst with hMore | hSame
    · rw [Nat.le_antisymm hLast hMore]
      exact hUpper
    · rw [← hSame]
      exact hLower

/- The interval is wider than the cells of a grid with seventeen digits. -/
theorem lt_lowerGap_mul
    (hPos : 0 < units) :
    2 * units < lowerGap units * 10 ^ 16 := by
  have hAbove : units < 2 ^ (units.log2 + 1) := Nat.lt_log2_self
  unfold lowerGap
  rcases Nat.lt_or_ge units (2 ^ 53) with hSmall | hLarge
  · rw [if_neg (fun h => Nat.not_le.mpr hSmall h.1),
      Finite64.spacing_of_lt hSmall]
    omega
  · have hLog := Finite64.le_log2 hLarge
    have hGap :
        2 ^ units.log2 = 2 ^ 52 * spacing units := by
      rw [spacing_eq, Nat.pow_eq, ← Nat.pow_add]
      congr 1
      omega
    have hTwice : 2 ^ (units.log2 + 1) = 2 * 2 ^ units.log2 :=
      Nat.pow_succ'
    have hSpacing := spacing_pos units
    split_ifs with hPower
    · have hUnits : units = 2 ^ 52 * spacing units :=
        hPower.2.trans hGap
      omega
    · omega

/- Of two neighbours on a fine grid, one lies in the interval. -/
theorem readsAs_lastBelow
    (hPos : 0 < units)
    (hFine :
      cell exponent * 10 ^ 16 ≤ units * scale exponent) :
    ReadsAs ⟨lastBelow units exponent, exponent⟩ units ∨
      ReadsAs ⟨lastBelow units exponent + 1, exponent⟩ units := by
  have hSplit :
      lastBelow units exponent * cell exponent +
          units * scale exponent % cell exponent =
        units * scale exponent :=
    Nat.div_add_mod' _ _
  have hRest :=
    Nat.mod_lt (units * scale exponent) (cell_pos exponent)
  have hScale := scale_pos exponent
  have hSpacing : 0 < spacing units * scale exponent :=
    Nat.mul_pos (spacing_pos units) hScale
  have hLower :
      lowerGap units * scale exponent ≤
        2 * (spacing units * scale exponent) := by
    rw [← Nat.mul_assoc]
    exact Nat.mul_le_mul_right _ (lowerGap_le units)
  have hWide :
      2 * (units * scale exponent) <
        lowerGap units * scale exponent * 10 ^ 16 := by
    have hGap :=
      Nat.mul_lt_mul_of_pos_right (lt_lowerGap_mul hPos) hScale
    rw [Nat.mul_assoc, Nat.mul_right_comm] at hGap
    exact hGap
  -- if both neighbours miss, then the cell is as wide as the interval
  by_contra hMiss
  rw [not_or] at hMiss
  rcases hMiss with ⟨hFirst, hSecond⟩
  unfold ReadsAs at hFirst hSecond
  dsimp only at hFirst hSecond
  rw [Nat.add_mul, Nat.one_mul] at hSecond
  have hFar :
      4 * (lastBelow units exponent * cell exponent) +
          lowerGap units * scale exponent ≤
        4 * (units * scale exponent) := by
    by_contra hClose
    exact hFirst
      ⟨by omega, by omega, Or.inr ⟨by omega, by omega⟩⟩
  have hBeyond :
      4 * (units * scale exponent) +
          2 * (spacing units * scale exponent) ≤
        4 * (lastBelow units exponent * cell exponent +
            cell exponent) := by
    by_contra hClose
    exact hSecond
      ⟨by omega, by omega, Or.inr ⟨by omega, by omega⟩⟩
  omega

theorem onGrid_isSome
    (hPos : 0 < units)
    (hWhole : spacing units ∣ units)
    (hFine :
      cell exponent * 10 ^ 16 ≤ units * scale exponent) :
    (onGrid units exponent).isSome = true := by
  have hMeets := readsAs_lastBelow hPos hFine
  rw [← meets_iff hPos hWhole, ← meets_iff hPos hWhole] at hMeets
  rw [onGrid_eq]
  cases hLower : meets units exponent (lastBelow units exponent) <;>
    cases hUpper :
      meets units exponent (lastBelow units exponent + 1) <;>
    simp only [hLower, hUpper, Bool.false_eq_true,
      or_self] at hMeets ⊢ <;>
    rfl

------------------------------------------------------------
-- The First Grid With A Decimal
------------------------------------------------------------

theorem readsAs_firstGrid
    {leading : Int}
    (hPos : 0 < units)
    (hWhole : spacing units ∣ units)
    (count left : Nat)
    (hLast :
      (onGrid units (leading - (count + left : Nat))).isSome =
        true) :
    (firstGrid units leading count left).ReadsAs units := by
  induction left generalizing count with
  | zero =>
      rcases Option.isSome_iff_exists.mp hLast with ⟨digits, hGrid⟩
      rw [Nat.add_zero] at hGrid
      unfold firstGrid
      dsimp only
      rw [hGrid]
      exact readsAs_of_onGrid hPos hWhole hGrid
  | succ left ih =>
      unfold firstGrid
      dsimp only
      split
      · rename_i digits hGrid
        exact readsAs_of_onGrid hPos hWhole hGrid
      · refine ih (count + 1) ?_
        rw [Nat.add_right_comm]
        exact hLast

theorem readsAs_shortest
    (x : Finite64)
    (hPos : 0 < x.units)
    (hWhole : spacing x.units ∣ x.units) :
    x.shortest.ReadsAs x.units := by
  unfold shortest
  rw [if_neg (Nat.ne_of_gt hPos)]
  refine Decimal.readsAs_trimZeros 20
    (readsAs_firstGrid hPos hWhole 0 16
      (onGrid_isSome hPos hWhole ?_))
  have hLeading := leadingPower_spec hPos
  generalize leadingPower x.units = leading at hLeading ⊢
  have hShift := Decimal.cell_shift (leading - (0 + 16 : Nat)) 16
  have hSum : leading - (0 + 16 : Nat) + (16 : Nat) = leading := by
    omega
  rw [hSum] at hShift
  refine Nat.le_of_mul_le_mul_right ?_ (scale_pos leading)
  calc
    cell (leading - (0 + 16 : Nat)) * 10 ^ 16 * scale leading
        = cell leading * scale (leading - (0 + 16 : Nat)) := by
          rw [hShift, Nat.mul_comm (10 ^ 16)]
    _ ≤ x.units * scale leading *
          scale (leading - (0 + 16 : Nat)) :=
        Nat.mul_le_mul_right _ hLeading
    _ = x.units * scale (leading - (0 + 16 : Nat)) *
          scale leading := Nat.mul_right_comm _ _ _

end Finite64

namespace Decimal

open Finite64 (Near spacing lowerGap)

variable {d : Decimal}
variable {x : Finite64}
variable {n num den : Nat}

------------------------------------------------------------
-- Reading Back
------------------------------------------------------------

/- A quotient that is near to a magnitude is at least half of it. -/
theorem le_of_near
    (hPos : 0 < n)
    (hWhole : spacing n ∣ n)
    (hNear : Near n num den) :
    n * den ≤ 2 * num := by
  have hLow := hNear.low
  have hGap : lowerGap n * den ≤ 2 * n * den := by
    refine Nat.mul_le_mul_right den ?_
    have hLower := Finite64.lowerGap_le n
    have hSpacing := Nat.le_of_dvd hPos hWhole
    omega
  rw [Nat.mul_assoc] at hGap
  omega

/- And no more than twice the magnitude. -/
theorem near_le
    (hPos : 0 < n)
    (hWhole : spacing n ∣ n)
    (hNear : Near n num den) :
    num ≤ 2 * (n * den) := by
  have hHigh := hNear.high
  have hGap : spacing n * den ≤ n * den :=
    Nat.mul_le_mul_right den (Nat.le_of_dvd hPos hWhole)
  omega

theorem digits_pos
    (hPos : 0 < x.units)
    (hWhole : spacing x.units ∣ x.units)
    (hReads : d.ReadsAs x.units) :
    0 < d.digits := by
  have hLe := le_of_near hPos hWhole hReads
  have hUnits : 0 < x.units * scale d.exponent :=
    Nat.mul_pos hPos (scale_pos d.exponent)
  rcases Nat.eq_zero_or_pos d.digits with hZero | hDigits
  · rw [hZero, Nat.zero_mul] at hLe
    omega
  · exact hDigits

/- A decimal that reads back is far below `10 ^ 400`. -/
theorem exponent_le
    (hPos : 0 < x.units)
    (hReads : d.ReadsAs x.units) :
    d.exponent ≤ 400 := by
  by_contra hLarge
  have hLe := near_le hPos x.whole hReads
  have hDigits := digits_pos hPos x.whole hReads
  have hScale : scale d.exponent = 1 := by
    have hZero : (-d.exponent).toNat = 0 := by omega
    rw [scale, hZero, Nat.pow_zero]
  have hBounded := x.bounded
  have hCell : Binary64.overflow * 2 ≤ cell d.exponent := by
    have hPower : 2 ^ 1025 ≤ 10 ^ d.exponent.toNat :=
      Finite64.two_pow_le_ten_pow (by omega)
    calc
      Binary64.overflow * 2
          ≤ Finite64.one * 2 ^ 1025 := by decide +kernel
      _ ≤ cell d.exponent := Nat.mul_le_mul_left _ hPower
  have hProduct : cell d.exponent ≤ d.digits * cell d.exponent :=
    Nat.le_mul_of_pos_left _ hDigits
  rw [hScale, Nat.mul_one] at hLe
  omega

/- A decimal that reads back is far above `10 ^ -400`. -/
theorem le_exponent
    (hPos : 0 < x.units)
    (hWhole : spacing x.units ∣ x.units)
    (hReads : d.ReadsAs x.units) :
    -400 ≤ d.exponent + d.digits.log2 + 1 := by
  by_contra hSmall
  have hLe := le_of_near hPos hWhole hReads
  have hDigits := digits_pos hPos hWhole hReads
  have hLog : d.digits < 2 ^ (d.digits.log2 + 1) :=
    Nat.lt_log2_self
  have hCell : cell d.exponent = Finite64.one := by
    have hZero : d.exponent.toNat = 0 := by omega
    rw [cell, hZero, Nat.pow_zero, Nat.mul_one]
  have hScale : scale d.exponent ≤ x.units * scale d.exponent :=
    Nat.le_mul_of_pos_left _ hPos
  have hBelow :
      2 * (d.digits * Finite64.one) <
        2 ^ (d.digits.log2 + 1076) := by
    calc
      2 * (d.digits * Finite64.one)
          < 2 * (2 ^ (d.digits.log2 + 1) * Finite64.one) := by
            have hOne := Binary64.one_pos
            have hLess := Nat.mul_lt_mul_of_pos_right hLog hOne
            omega
      _ = 2 ^ (d.digits.log2 + 1076) := by
          rw [Binary64.one_eq, ← Nat.pow_add, ← Nat.pow_succ']
  have hAbove :
      2 ^ (d.digits.log2 + 1076) ≤ scale d.exponent := by
    refine Finite64.two_pow_le_ten_pow ?_
    omega
  rw [hCell] at hLe
  omega

/- A decimal in the interval of a number is read as the number. -/
theorem ofDecimal_of_readsAs
    (hPos : 0 < x.units)
    (hReads : d.ReadsAs x.units) :
    Binary64.ofDecimal x.negative d.digits d.exponent =
      .finite x := by
  have hWhole := x.whole
  have hDigits := digits_pos hPos hWhole hReads
  have hLow := le_exponent hPos hWhole hReads
  have hHigh := exponent_le hPos hReads
  have hRound :
      Binary64.round x.negative (d.digits * cell d.exponent)
          (scale d.exponent) =
        .finite x :=
    Finite64.round_of_near hPos (scale_pos d.exponent) hReads
  unfold Binary64.ofDecimal
  rw [if_neg (Nat.ne_of_gt hDigits), if_neg (by omega),
    if_neg (by omega)]
  split_ifs with hSign
  · have hZero : (-d.exponent).toNat = 0 := by omega
    have hCell :
        d.digits * Nat.pow 10 d.exponent.toNat * Finite64.one =
          d.digits * cell d.exponent := by
      rw [cell, Nat.mul_comm Finite64.one, Nat.mul_assoc]
      rfl
    rw [hCell, ← hRound, scale, hZero, Nat.pow_zero]
  · have hZero : d.exponent.toNat = 0 := by omega
    rw [← hRound, cell, hZero, Nat.pow_zero, Nat.mul_one]
    rfl

end Decimal

/-
  The shortest decimal of a number reads back as the number, with as many
  zeros at its end as one likes.
-/
theorem Finite64.ofDecimal_shortest
    (x : Finite64)
    (count : Nat) :
    Binary64.ofDecimal x.negative (x.shortest.digits * 10 ^ count)
        (x.shortest.exponent - count) =
      .finite x := by
  rcases Nat.eq_zero_or_pos x.units with hZero | hPos
  · have hShortest : x.shortest = ⟨0, 0⟩ := if_pos hZero
    rcases x with ⟨negative, units⟩
    cases hZero
    rw [hShortest, Nat.zero_mul]
    rfl
  · have hReads := readsAs_shortest x hPos x.whole
    generalize x.shortest = d at hReads ⊢
    rcases d with ⟨digits, exponent⟩
    have hShifted :
        Decimal.ReadsAs ⟨digits * 10 ^ count, exponent - count⟩
          x.units := by
      rw [Decimal.readsAs_shift, Int.sub_add_cancel]
      exact hReads
    exact Decimal.ofDecimal_of_readsAs hPos hShifted

end Automation
