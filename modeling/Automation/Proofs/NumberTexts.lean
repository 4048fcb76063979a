import Automation.Document.Printer
import Automation.Proofs.ShortestDecimals
import Automation.Proofs.Spellings
import Automation.Proofs.Trimming

/-
  The text of a number is read back as the number.

  A numeral has digits before its point, digits behind it and a power of
  ten; each of the three may be where a number is written without it.

  Key definitions include:
    * `Numeral.IsMagnitude`, how a numeral without a sign looks
    * `Layout.Spells`, texts that are read as a decimal

  Key theorems include:
    * `Numeral.unsigned?_fraction` and `Numeral.unsigned?_whole`
    * `Layout.spells_plain`, digits around a point
    * `Layout.spells_scientific`, digits with a power of ten
    * `Number.binary64?_digits`
    * `Document.number?_plain`
-/

namespace Automation

namespace Numeral

------------------------------------------------------------
-- Reading A Numeral
------------------------------------------------------------

variable {negative : Bool}
variable {cs digits whole fraction tail : List Char}

theorem takeWhile_digits
    (hDigits : ∀ c ∈ digits, isDigit c = true)
    (hEnd : ∀ c ∈ tail.head?, isDigit c = false) :
    (digits ++ tail).takeWhile isDigit = digits := by
  rw [List.takeWhile_append_of_pos hDigits]
  cases tail with
  | nil => simp
  | cons c rest => simp [hEnd c rfl]

theorem dropWhile_digits
    (hDigits : ∀ c ∈ digits, isDigit c = true)
    (hEnd : ∀ c ∈ tail.head?, isDigit c = false) :
    (digits ++ tail).dropWhile isDigit = tail := by
  rw [List.dropWhile_append_of_pos hDigits]
  cases tail with
  | nil => rfl
  | cons c rest => simp [hEnd c rfl]

/- Digits, a point, digits and a power of ten. -/
theorem unsigned?_fraction
    (hWhole : ∀ c ∈ whole, isDigit c = true)
    (hSome : whole ≠ [])
    (hFraction : ∀ c ∈ fraction, isDigit c = true)
    (hEnd : ∀ c ∈ tail.head?, isDigit c = false) :
    unsigned? negative (whole ++ '.' :: (fraction ++ tail)) =
      (power? tail).map fun power =>
        Binary64.ofDecimal negative (value (whole ++ fraction))
          (power - fraction.length) := by
  have hPoint :
      ∀ c ∈ ('.' :: (fraction ++ tail)).head?,
        isDigit c = false := by
    intro c hHead
    cases hHead
    decide
  unfold unsigned?
  simp only [takeWhile_digits hWhole hPoint,
    dropWhile_digits hWhole hPoint, takeWhile_digits hFraction hEnd,
    dropWhile_digits hFraction hEnd]
  simp [hSome]

/- Digits and a power of ten. -/
theorem unsigned?_whole
    (hWhole : ∀ c ∈ whole, isDigit c = true)
    (hSome : whole ≠ [])
    (hEnd : ∀ c ∈ tail.head?, isDigit c = false)
    (hPoint : tail.head? ≠ some '.') :
    unsigned? negative (whole ++ tail) =
      (power? tail).map fun power =>
        Binary64.ofDecimal negative (value whole) power := by
  unfold unsigned?
  simp only [takeWhile_digits hWhole hEnd,
    dropWhile_digits hWhole hEnd]
  split
  · exact absurd rfl hPoint
  · simp [hSome]

/- Zeros at the end multiply a number by powers of ten. -/
theorem value_append_zeros
    (digits : List Char)
    (count : Nat) :
    value (digits ++ List.replicate count '0') =
      value digits * 10 ^ count := by
  induction count with
  | zero => simp
  | succ count ih =>
      rw [List.replicate_succ', ← List.append_assoc]
      unfold value at ih ⊢
      rw [List.foldl_append, ih, Nat.pow_succ, ← Nat.mul_assoc]
      rfl

------------------------------------------------------------
-- The Characters Of A Numeral
------------------------------------------------------------

/- The characters that numbers are written with. -/
def isMark
    (c : Char) :
    Bool :=
  isDigit c || c ∈ ['.', 'e', '+', '-']

/- A numeral without a sign begins with a digit. -/
structure IsMagnitude
    (cs : List Char) : Prop where
  head : ∃ c rest, cs = c :: rest ∧ isDigit c = true
  marks : ∀ c ∈ cs, isMark c = true

theorem isMark_of_isDigit
    {c : Char}
    (hDigit : isDigit c = true) :
    isMark c = true := by
  simp [isMark, hDigit]

theorem isBlank_of_isMark
    {c : Char}
    (hMark : isMark c = true) :
    Text.isBlank c = false := by
  rw [isMark, Bool.or_eq_true] at hMark
  rcases hMark with hDigit | hMem
  · exact Timestamp.isBlank_of_isDigit hDigit
  · have hAll :
        (['.', 'e', '+', '-'].all fun d => !Text.isBlank d) =
          true := by
      decide
    have hNot :=
      List.all_eq_true.mp hAll c (of_decide_eq_true hMem)
    simpa using hNot

/- Digits before other characters of a numeral. -/
theorem isMagnitude_append
    (hDigits : ∀ c ∈ digits, isDigit c = true)
    (hSome : digits ≠ [])
    (hTail : ∀ c ∈ tail, isMark c = true) :
    IsMagnitude (digits ++ tail) := by
  constructor
  · cases digits with
    | nil => exact absurd rfl hSome
    | cons c rest =>
        exact ⟨c, rest ++ tail, rfl, hDigits c List.mem_cons_self⟩
  · intro c hMem
    rcases List.mem_append.mp hMem with hDigit | hRest
    · exact isMark_of_isDigit (hDigits c hDigit)
    · exact hTail c hRest

theorem sign_of_digit
    {c : Char}
    (hDigit : isDigit c = true)
    (rest : List Char) :
    sign (c :: rest) = (false, c :: rest) := by
  unfold sign
  split
  · rename_i hMinus
    cases hMinus
    exact absurd hDigit (by decide)
  · rename_i hPlus
    cases hPlus
    exact absurd hDigit (by decide)
  · rfl

theorem toLower_of_isDigit
    {c : Char}
    (hDigit : isDigit c = true) :
    c.toLower = c := by
  have hBounds := bounds_of_isDigit hDigit
  unfold Char.toLower
  rw [dif_neg]
  intro hUpper
  have hLeast : 65 ≤ c.toNat := hUpper.1
  omega

/- What is no name of a number is read digit by digit. -/
theorem binary64?_of_unnamed
    (hUnnamed :
      ∀ name ∈ ["inf", "infinity", "nan"],
        String.ofList ((sign cs).2.map Char.toLower) ≠ name) :
    binary64? cs = unsigned? (sign cs).1 (sign cs).2 := by
  unfold binary64?
  dsimp only
  split
  · rename_i hName
    exact absurd hName (hUnnamed _ (by simp))
  · rename_i hName
    exact absurd hName (hUnnamed _ (by simp))
  · rename_i hName
    exact absurd hName (hUnnamed _ (by simp))
  · rfl

/- A sign and a numeral without one. -/
theorem binary64?_of_sign
    (hSign : sign cs = (negative, digits))
    (hMagnitude : IsMagnitude digits) :
    binary64? cs = unsigned? negative digits := by
  rcases hMagnitude.head with ⟨c, rest, rfl, hDigit⟩
  rw [binary64?_of_unnamed]
  · rw [hSign]
  · -- no name has a digit
    intro name hMem hName
    have hLetters :
        ∀ name ∈ ["inf", "infinity", "nan"],
          (name.toList.all fun d => !isDigit d) = true := by
      decide
    have hFirst : c ∈ name.toList := by
      rw [← hName, hSign, String.toList_ofList, List.map_cons,
        toLower_of_isDigit hDigit]
      exact List.mem_cons_self
    have hLetter :=
      List.all_eq_true.mp (hLetters name hMem) c hFirst
    simp [hDigit] at hLetter

theorem binary64?_of_magnitude
    (hMagnitude : IsMagnitude cs)
    (negative : Bool) :
    binary64? (if negative then '-' :: cs else cs) =
      unsigned? negative cs := by
  refine binary64?_of_sign ?_ hMagnitude
  rcases hMagnitude.head with ⟨c, rest, rfl, hDigit⟩
  cases negative with
  | true => rfl
  | false => exact sign_of_digit hDigit rest

end Numeral

------------------------------------------------------------
-- Layouts
------------------------------------------------------------

namespace Layout

open Numeral (isDigit value isMark power? unsigned? IsMagnitude)

variable {negative : Bool}
variable {digits : Nat}
variable {exponent power : Int}

theorem toDigits_ne_nil
    (digits : Nat) :
    Nat.toDigits 10 digits ≠ [] :=
  List.ne_nil_of_length_pos Nat.length_toDigits_pos

/- A power of ten as it is written. -/
def powerText
    (power : Int) :
    List Char :=
  'e' :: (if power < 0 then '-' else '+') ::
    Nat.toDigits 10 power.natAbs

theorem digits?_toDigits
    (n : Nat) :
    Numeral.digits? (Nat.toDigits 10 n) = some n := by
  have hAll : (Nat.toDigits 10 n).all isDigit = true :=
    List.all_eq_true.mpr fun _ => Numeral.isDigit_of_mem_toDigits
  have hValue := Numeral.value_toDigits n
  cases hText : Nat.toDigits 10 n with
  | nil => exact absurd hText (toDigits_ne_nil n)
  | cons c rest =>
      rw [hText] at hAll hValue
      rw [Numeral.digits?, if_pos hAll, hValue]
      exact List.cons_ne_nil c rest

theorem power?_powerText
    (power : Int) :
    power? (powerText power) = some power := by
  have hDigits := digits?_toDigits power.natAbs
  unfold powerText
  split_ifs with hSign
  · have hPower : -(power.natAbs : Int) = power := by omega
    simp only [power?, Numeral.sign, hDigits, true_or, if_true]
    exact congrArg some hPower
  · have hPower : (power.natAbs : Int) = power := by omega
    simp only [power?, Numeral.sign, hDigits, true_or, if_true,
      Bool.false_eq_true, if_false]
    exact congrArg some hPower

theorem isMark_powerText
    (power : Int) :
    ∀ c ∈ powerText power, isMark c = true := by
  intro c hMem
  rw [powerText, List.mem_cons, List.mem_cons] at hMem
  rcases hMem with rfl | rfl | hDigit
  · decide
  · split_ifs <;> decide
  · exact
      Numeral.isMark_of_isDigit
        (Numeral.isDigit_of_mem_toDigits hDigit)

/- Digits, a point and digits, as they are written. -/
theorem isMagnitude_point
    {whole fraction tail : List Char}
    (hWhole : ∀ c ∈ whole, isDigit c = true)
    (hSome : whole ≠ [])
    (hFraction : ∀ c ∈ fraction, isDigit c = true)
    (hTail : ∀ c ∈ tail, isMark c = true) :
    IsMagnitude (whole ++ '.' :: (fraction ++ tail)) := by
  refine Numeral.isMagnitude_append hWhole hSome ?_
  intro c hMem
  rw [List.mem_cons, List.mem_append] at hMem
  rcases hMem with rfl | hDigit | hRest
  · decide
  · exact Numeral.isMark_of_isDigit (hFraction c hDigit)
  · exact hTail c hRest

/- A magnitude that is read as a decimal, up to zeros at its end. -/
structure Spells
    (cs : List Char)
    (digits : Nat)
    (exponent : Int) : Prop where
  magnitude : IsMagnitude cs
  value :
    ∃ count : Nat,
      ∀ negative,
        unsigned? negative cs =
          some
            (Binary64.ofDecimal negative (digits * 10 ^ count)
              (exponent - count))

theorem spells_point
    {whole fraction tail : List Char}
    (hWhole : ∀ c ∈ whole, isDigit c = true)
    (hSome : whole ≠ [])
    (hFraction : ∀ c ∈ fraction, isDigit c = true)
    (hTail : ∀ c ∈ tail, isMark c = true)
    (hEnd : ∀ c ∈ tail.head?, isDigit c = false)
    {count : Nat}
    (hPower :
      power? tail = some (exponent - count + fraction.length))
    (hValue : value (whole ++ fraction) = digits * 10 ^ count) :
    Spells (whole ++ '.' :: (fraction ++ tail)) digits exponent := by
  refine ⟨isMagnitude_point hWhole hSome hFraction hTail, count, ?_⟩
  intro negative
  rw [Numeral.unsigned?_fraction hWhole hSome hFraction hEnd,
    hPower, Option.map_some, hValue, Int.add_sub_cancel]

/- Without a power of ten, the point alone decides. -/
theorem spells_fraction
    (whole fraction : List Char)
    (count : Nat)
    (hWhole : ∀ c ∈ whole, isDigit c = true)
    (hSome : whole ≠ [])
    (hFraction : ∀ c ∈ fraction, isDigit c = true)
    (hPoint : exponent + fraction.length = count)
    (hValue : value (whole ++ fraction) = digits * 10 ^ count) :
    Spells (whole ++ '.' :: fraction) digits exponent := by
  have hPower :
      power? [] = some (exponent - count + fraction.length) := by
    have hZero : 0 = exponent - count + fraction.length := by omega
    rw [← hZero]
    rfl
  have hSpells :=
    spells_point hWhole hSome hFraction (by simp) (by simp) hPower
      hValue
  rw [List.append_nil] at hSpells
  exact hSpells

theorem spells_plain
    (digits : Nat)
    (exponent : Int) :
    Spells (plain (Nat.toDigits 10 digits) exponent) digits
      exponent := by
  have hDigits :
      ∀ c ∈ Nat.toDigits 10 digits, isDigit c = true :=
    fun _ => Numeral.isDigit_of_mem_toDigits
  have hValue := Numeral.value_toDigits digits
  have hSome := toDigits_ne_nil digits
  have hZero :
      ∀ count, ∀ c ∈ List.replicate count '0', isDigit c = true := by
    intro count c hMem
    rw [List.eq_of_mem_replicate hMem]
    decide
  have hZeroDigit : ∀ c ∈ ['0'], isDigit c = true := hZero 1
  generalize Nat.toDigits 10 digits = ds at hDigits hValue hSome ⊢
  unfold plain
  dsimp only
  split_ifs with hSign hInside
  · -- zeros stand before the point, and one more behind it
    refine
      spells_fraction _ ['0'] (exponent.toNat + 1) ?_
        (by simp [hSome]) hZeroDigit ?_ ?_
    · intro c hMem
      rcases List.mem_append.mp hMem with hDigit | hRest
      · exact hDigits c hDigit
      · exact hZero _ c hRest
    · rw [List.length_singleton]
      omega
    · rw [List.append_assoc, ← List.replicate_one,
        List.replicate_append_replicate, Numeral.value_append_zeros,
        hValue]
  · -- the point stands among the digits
    refine
      spells_fraction _ _ 0
        (fun c hMem => hDigits c (List.mem_of_mem_take hMem)) ?_
        (fun c hMem => hDigits c (List.mem_of_mem_drop hMem)) ?_ ?_
    · rw [← List.length_pos_iff, List.length_take]
      omega
    · rw [List.length_drop]
      omega
    · rw [List.take_append_drop, hValue, Nat.pow_zero, Nat.mul_one]
  · -- zeros stand between the point and the digits
    let zeros := List.replicate ((-exponent).toNat - ds.length) '0'
    refine
      spells_fraction ['0'] (zeros ++ ds) 0 hZeroDigit (by decide)
        ?_ ?_ ?_
    · intro c hMem
      rcases List.mem_append.mp hMem with hRest | hDigit
      · exact hZero _ c hRest
      · exact hDigits c hDigit
    · rw [List.length_append, List.length_replicate]
      omega
    · rw [← List.append_assoc, ← List.replicate_one,
        List.replicate_append_replicate, Numeral.value_zeros, hValue,
        Nat.pow_zero, Nat.mul_one]

theorem scientific_single
    (c : Char)
    (power : Int) :
    Number.layout.scientific [c] power = [c] ++ powerText power := by
  unfold scientific powerText
  split_ifs <;> rfl

theorem scientific_many
    (c d : Char)
    (rest : List Char)
    (power : Int) :
    Number.layout.scientific (c :: d :: rest) power =
      [c] ++ '.' :: (d :: rest ++ powerText power) := by
  unfold scientific powerText
  split_ifs <;> simp [Number.layout]

/- One digit, a point if there are more, and the power of the first. -/
theorem spells_scientific
    (digits : Nat)
    (exponent : Int) :
    Spells
      (Number.layout.scientific (Nat.toDigits 10 digits)
        (exponent + (Nat.toDigits 10 digits).length - 1))
      digits exponent := by
  have hDigits :
      ∀ c ∈ Nat.toDigits 10 digits, isDigit c = true :=
    fun _ => Numeral.isDigit_of_mem_toDigits
  have hValue := Numeral.value_toDigits digits
  have hEnd :
      ∀ power, ∀ c ∈ (powerText power).head?, isDigit c = false := by
    intro power c hHead
    cases hHead
    decide
  cases hText : Nat.toDigits 10 digits with
  | nil => exact absurd hText (toDigits_ne_nil digits)
  | cons c rest =>
      rw [hText] at hDigits hValue
      cases rest with
      | nil =>
          have hPower :
              exponent + ([c] : List Char).length - 1 =
                exponent := by
            simp
          rw [scientific_single, hPower]
          refine
            ⟨Numeral.isMagnitude_append hDigits (by simp)
              (isMark_powerText _), 0, ?_⟩
          intro negative
          rw [Numeral.unsigned?_whole hDigits (by simp) (hEnd _)
            (by simp [powerText]), power?_powerText, hValue]
          simp
      | cons d others =>
          have hPower :
              exponent + (c :: d :: others).length - 1 =
                exponent - (0 : Nat) + (d :: others).length := by
            simp only [List.length_cons]
            omega
          rw [List.forall_mem_cons] at hDigits
          rw [scientific_many, hPower]
          refine
            spells_point (by simp [hDigits.1]) (by simp) hDigits.2
              (isMark_powerText _) (hEnd _) (power?_powerText _) ?_
          rw [Nat.pow_zero, Nat.mul_one]
          exact hValue

end Layout

------------------------------------------------------------
-- Numbers
------------------------------------------------------------

/- A whole number is read with one rounding. -/
theorem Binary64.ofDecimal_whole
    (negative : Bool)
    (digits : Nat) :
    ofDecimal negative digits 0 =
      round negative (digits * Finite64.one) 1 := by
  unfold ofDecimal
  split_ifs with hZero hLarge hSmall
  · rw [hZero]
    cases negative <;> decide +kernel
  · omega
  · omega
  · rw [Int.toNat_zero, Nat.pow_eq, Nat.pow_zero, Nat.mul_one]
  · omega

namespace Number

open Numeral (IsMagnitude binary64? unsigned?)

variable {n : Number}

/- A rounded number is never the missing one. -/
theorem isSome_rank_round
    (negative : Bool)
    (num den : Nat) :
    (Binary64.round negative num den).rank.isSome = true := by
  unfold Binary64.round
  dsimp only
  split_ifs <;> simp only [Binary64.rank, Option.isSome_some]

theorem same_binary64
    (n : Number) :
    n.binary64.same n.binary64 = true := by
  have hSome : n.binary64.rank.isSome = true := by
    cases n with
    | integer i =>
        rw [binary64, Binary64.ofInt]
        exact isSome_rank_round _ _ _
    | real x => rfl
  rcases Option.isSome_iff_exists.mp hSome with ⟨rank, hRank⟩
  simp [Binary64.same, hRank]

theorem spells_render
    (x : Finite64) :
    ∃ cs,
      layout.render x = (if x.negative then '-' :: cs else cs) ∧
        Layout.Spells cs x.shortest.digits x.shortest.exponent := by
  refine ⟨_, rfl, ?_⟩
  split_ifs with hPlain
  · exact Layout.spells_plain _ _
  · exact Layout.spells_scientific _ _

/- The text of a number is a sign and a magnitude. -/
theorem exists_magnitude
    (n : Number) :
    ∃ negative cs,
      n.digits = (if negative then '-' :: cs else cs) ∧
        IsMagnitude cs ∧
          unsigned? negative cs = some n.binary64 := by
  cases n with
  | integer i =>
      have hDigits :
          ∀ c ∈ Nat.toDigits 10 i.natAbs,
            Numeral.isDigit c = true :=
        fun _ => Numeral.isDigit_of_mem_toDigits
      have hSome := Layout.toDigits_ne_nil i.natAbs
      refine
        ⟨decide (i < 0), Nat.toDigits 10 i.natAbs ++ [], ?_, ?_, ?_⟩
      · simp [digits]
      · exact
          Numeral.isMagnitude_append hDigits hSome (by simp)
      · rw [Numeral.unsigned?_whole hDigits hSome (by simp)
          (by simp), Numeral.value_toDigits]
        exact congrArg some (Binary64.ofDecimal_whole _ _)
  | real x =>
      rcases spells_render x with
        ⟨cs, hText, hMagnitude, count, hValue⟩
      refine ⟨x.negative, cs, hText, hMagnitude, ?_⟩
      rw [hValue, Finite64.ofDecimal_shortest x count]
      rfl

theorem binary64?_digits
    (n : Number) :
    binary64? n.digits = some n.binary64 := by
  rcases exists_magnitude n with
    ⟨negative, cs, hText, hMagnitude, hValue⟩
  rw [hText, Numeral.binary64?_of_magnitude hMagnitude, hValue]

theorem trimChars_digits
    (n : Number) :
    Text.trimChars n.digits = n.digits := by
  rcases exists_magnitude n with
    ⟨negative, cs, hText, hMagnitude, _⟩
  apply Text.trimChars_of_unblank
  intro c hMem
  apply Numeral.isBlank_of_isMark
  rw [hText] at hMem
  split_ifs at hMem
  · rcases List.mem_cons.mp hMem with rfl | hRest
    · decide
    · exact hMagnitude.marks c hRest
  · exact hMagnitude.marks c hMem

end Number

/- The text of a number stands for the number. -/
theorem Document.number?_plain
    (n : Number) :
    (Document.string (plain (.number n))).number? =
      some n.binary64 := by
  have hText : (plain (.number n)).toList = n.digits := by
    simp [plain, compact, printed, write]
  rw [number?, hText, Number.trimChars_digits]
  exact Number.binary64?_digits n

end Automation
