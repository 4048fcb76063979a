import Automation.Decoding.Json
import Automation.Document.Printer
import Automation.Proofs.NumberTexts

/-
  Numbers inside JSON text.

  A number goes on as long as a digit, a point or the mark of a power
  follows.  In front of anything else it is read as it is by itself, so
  whether a number is read back from its digits does not depend on where
  they stand.  A number with a fraction is rounded twice when it is read,
  and may come out as its neighbour; a whole number of 64 bits does not.

  Key definitions include:
    * `Json.Ends`, what may follow a number
    * `Number.Rereads`, a number that is read from its own digits

  Key theorems include:
    * `Json.numberFrom_of_own`, a number in front of more text
    * `Number.rereads_integer`, the whole numbers of 64 bits
-/

namespace Automation

namespace Json

------------------------------------------------------------
-- What Follows A Number
------------------------------------------------------------

/- A character that a number goes on with. -/
def goesOn
    (c : Char) :
    Bool :=
  isDigit c || c = '.' || c = 'e' || c = 'E'

/- No number goes on with a text. -/
def Ends
    (rest : List Char) : Prop :=
  ∀ c ∈ rest.head?, goesOn c = false

theorem ends_nil : Ends [] := nofun

theorem ends_cons
    {c : Char}
    (rest : List Char)
    (hEnds : goesOn c = false) :
    Ends (c :: rest) := by
  intro d hHead
  cases hHead
  exact hEnds

theorem goesOn_of_power
    (c : Char)
    (hPower : (decide (c = 'e') || decide (c = 'E')) = true) :
    goesOn c = true := by
  rw [goesOn, Bool.or_assoc, hPower, Bool.or_true]

theorem goesOn_of_point
    (c : Char)
    (hPoint : decide (c = '.') = true) :
    goesOn c = true := by
  rw [goesOn, hPoint, Bool.or_true, Bool.true_or, Bool.true_or]

theorem nextIs_of_nil
    {cursor : Cursor}
    (p : Char → Bool)
    (hNone : cursor.rest = []) :
    nextIs p cursor = false := by
  unfold nextIs
  rw [hNone]

/- A reader gives the same in front of more text, which it leaves. -/
def Local
    (rest : List Char)
    (read : Cursor → Parsed Number) : Prop :=
  ∀ {first second after : Cursor} {n : Number},
    second.rest = first.rest ++ rest →
      read first = .ok (n, after) →
        ∃ later,
          read second = .ok (n, later) ∧
            later.rest = after.rest ++ rest

section Local

variable {rest : List Char}
variable {first second : Cursor}
variable (hEnds : Ends rest)
variable (hRest : second.rest = first.rest ++ rest)

include hRest

theorem nextIs_of_more
    (p : Char → Bool)
    (hSome : first.rest ≠ []) :
    nextIs p second = nextIs p first := by
  unfold nextIs
  rw [hRest]
  cases hFirst : first.rest with
  | nil => exact absurd hFirst hSome
  | cons c more => rfl

theorem next_rest_of_more
    (hSome : first.rest ≠ []) :
    second.next.rest = first.next.rest ++ rest := by
  unfold Cursor.next
  rw [hRest]
  cases hFirst : first.rest with
  | nil => exact absurd hFirst hSome
  | cons c more =>
      dsimp only [List.cons_append]
      split <;> rfl

include hEnds

theorem takeWhile_digits_of_more :
    second.rest.takeWhile isDigit =
      first.rest.takeWhile isDigit := by
  rw [hRest]
  clear hRest
  induction first.rest with
  | nil =>
      cases rest with
      | nil => rfl
      | cons c more =>
          have hStop := hEnds c rfl
          simp only [goesOn, Bool.or_eq_false_iff] at hStop
          simp [hStop.1.1.1]
  | cons c more ih =>
      rw [List.cons_append, List.takeWhile_cons,
        List.takeWhile_cons, ih]

theorem digitsAt_of_more :
    (digitsAt second).1 = (digitsAt first).1 ∧
      (digitsAt second).2.rest =
        (digitsAt first).2.rest ++ rest := by
  have hDigits := takeWhile_digits_of_more hEnds hRest
  refine ⟨hDigits, ?_⟩
  have hLength :
      (first.rest.takeWhile isDigit).length ≤
        first.rest.length :=
    (List.takeWhile_prefix isDigit).length_le
  unfold digitsAt
  dsimp only
  rw [hDigits, hRest, List.drop_append_of_le_length hLength]

end Local

------------------------------------------------------------
-- Numbers In Front Of More Text
------------------------------------------------------------

variable {rest : List Char}

theorem realNumber_local
    (negative : Bool)
    (significand : Nat)
    (exponent : Int) :
    Local rest (realNumber negative significand exponent) := by
  intro first second after n hRest hRead
  rw [realNumber] at hRead ⊢
  cases hScaled : scaled negative significand exponent with
  | none =>
      rw [hScaled] at hRead
      cases hRead
  | some x =>
      rw [hScaled] at hRead
      cases hRead
      exact ⟨second, rfl, hRest⟩

section Parts

variable (hEnds : Ends rest)

include hEnds

theorem powerAt_local
    (minus negative : Bool)
    (significand : Nat)
    (exponent : Int) :
    Local rest (powerAt minus negative significand exponent) := by
  intro first second after n hRest hRead
  rcases digitsAt_of_more hEnds hRest with ⟨hDigits, hAfter⟩
  unfold powerAt at hRead ⊢
  rw [hRest]
  cases hFirst : first.rest with
  | nil =>
      rw [hFirst] at hRead
      cases hRead
  | cons c more =>
      rw [hFirst] at hRead
      dsimp only [List.cons_append] at hRead ⊢
      rw [hDigits]
      generalize Numeral.value (digitsAt first).1 = power
        at hRead ⊢
      generalize
        (if minus then exponent - power else exponent + power) =
          total at hRead ⊢
      split_ifs at hRead ⊢
      · exact realNumber_local _ _ _ hAfter hRead
      · cases hRead
        exact ⟨_, rfl, hAfter⟩

theorem exponentAt_local
    (negative : Bool)
    (significand : Nat)
    (exponent : Int) :
    Local rest (exponentAt negative significand exponent) := by
  intro first second after n hRest hRead
  by_cases hFirst : first.rest = []
  · have hSame : first.next = first := by
      unfold Cursor.next
      rw [hFirst]
    unfold exponentAt at hRead
    rw [hSame] at hRead
    simp [nextIs, powerAt, hFirst] at hRead
  · have hNext := next_rest_of_more hRest hFirst
    unfold exponentAt at hRead ⊢
    dsimp only at hRead ⊢
    generalize first.next = a at hRead hNext
    generalize second.next = b at hNext ⊢
    by_cases hSome : a.rest = []
    · simp [nextIs, powerAt, hSome] at hRead
    · have hLater := next_rest_of_more hNext hSome
      rw [nextIs_of_more hNext _ hSome,
        nextIs_of_more hNext _ hSome]
      split_ifs at hRead ⊢
      · exact powerAt_local hEnds _ _ _ _ hLater hRead
      · exact powerAt_local hEnds _ _ _ _ hNext hRead

/- Nothing that a number goes on with stands where it ends. -/
theorem nextIs_of_ends
    {first second : Cursor}
    {p : Char → Bool}
    (hRest : second.rest = first.rest ++ rest)
    (hMark : ∀ c, p c = true → goesOn c = true) :
    nextIs p second = nextIs p first := by
  by_cases hSome : first.rest = []
  · unfold nextIs
    rw [hRest, hSome, List.nil_append]
    cases rest with
    | nil => rfl
    | cons c more =>
        have hStop := hEnds c rfl
        cases hNext : p c with
        | false => exact hNext
        | true =>
            rw [hMark c hNext] at hStop
            cases hStop
  · exact nextIs_of_more hRest _ hSome

theorem numberTail_local
    (negative : Bool)
    (significand : Nat)
    (exponent : Int) :
    Local rest (numberTail negative significand exponent) := by
  intro first second after n hRest hRead
  unfold numberTail at hRead ⊢
  rw [nextIs_of_ends hEnds hRest goesOn_of_power]
  split_ifs at hRead ⊢
  · exact exponentAt_local hEnds _ _ _ hRest hRead
  · exact realNumber_local _ _ _ hRest hRead

theorem fractionAt_local
    (negative : Bool)
    (significand dropped : Nat) :
    Local rest (fractionAt negative significand dropped) := by
  intro first second after n hRest hRead
  by_cases hFirst : first.rest = []
  · have hSame : first.next = first := by
      unfold Cursor.next
      rw [hFirst]
    unfold fractionAt at hRead
    rw [hSame] at hRead
    simp [digitsAt, hFirst] at hRead
  · have hNext := next_rest_of_more hRest hFirst
    unfold fractionAt at hRead ⊢
    dsimp only at hRead ⊢
    generalize first.next = a at hRead hNext
    generalize second.next = b at hNext ⊢
    rcases digitsAt_of_more hEnds hNext with ⟨hDigits, hAfter⟩
    rw [hDigits]
    split_ifs at hRead ⊢
    · cases hSome : a.rest <;> rw [hSome] at hRead <;> cases hRead
    · exact numberTail_local hEnds _ _ _ hAfter hRead

omit hEnds in
theorem wholeNumber_local
    (negative : Bool)
    (significand dropped : Nat) :
    Local rest (wholeNumber negative significand dropped) := by
  intro first second after n hRest hRead
  unfold wholeNumber at hRead ⊢
  split_ifs at hRead ⊢
  · exact realNumber_local _ _ _ hRest hRead
  · cases hRead
    exact ⟨second, rfl, hRest⟩
  · exact realNumber_local _ _ _ hRest hRead
  · cases hRead
    exact ⟨second, rfl, hRest⟩

theorem numberAt_local
    (negative : Bool) :
    Local rest (numberAt negative) := by
  intro first second after n hRest hRead
  rcases digitsAt_of_more hEnds hRest with ⟨hDigits, hAfter⟩
  unfold numberAt at hRead ⊢
  rw [hRest]
  cases hFirst : first.rest with
  | nil =>
      rw [hFirst] at hRead
      cases hRead
  | cons c more =>
      rw [hFirst] at hRead
      dsimp only [List.cons_append] at hRead ⊢
      rw [hDigits, nextIs_of_ends hEnds hAfter goesOn_of_point,
        nextIs_of_ends hEnds hAfter goesOn_of_power]
      generalize accumulate 0 (digitsAt first).1 = sum at hRead ⊢
      split_ifs at hRead ⊢
      · exact fractionAt_local hEnds _ _ _ hAfter hRead
      · exact exponentAt_local hEnds _ _ _ hAfter hRead
      · exact wholeNumber_local _ _ _ hAfter hRead

end Parts

------------------------------------------------------------
-- Numbers By Themselves
------------------------------------------------------------

/- The number that a whole text is. -/
def ownNumber?
    (cs : List Char) :
    Option Number :=
  match numberFrom ⟨1, 0, cs⟩ with
  | .ok (n, ⟨_, _, []⟩) => some n
  | _ => none

/- A number is read in front of more text as it is by itself. -/
theorem numberFrom_of_own
    {cs : List Char}
    {cursor : Cursor}
    {n : Number}
    (hEnds : Ends rest)
    (hOwn : ownNumber? cs = some n)
    (hRest : cursor.rest = cs ++ rest) :
    ∃ after,
      numberFrom cursor = .ok (n, after) ∧ after.rest = rest := by
  unfold ownNumber? at hOwn
  split at hOwn
  · rename_i m line column hRead
    cases hOwn
    have hSome : cs ≠ [] := by
      rintro rfl
      cases hRead
    have hStart :
        cursor.rest = (⟨1, 0, cs⟩ : Cursor).rest ++ rest := hRest
    have hLocal :
        ∃ later,
          numberFrom cursor = .ok (n, later) ∧
            later.rest = [] ++ rest := by
      unfold numberFrom at hRead ⊢
      rw [nextIs_of_more hStart _ hSome]
      split_ifs at hRead ⊢
      · exact
          numberAt_local hEnds true
            (next_rest_of_more hStart hSome) hRead
      · exact numberAt_local hEnds false hStart hRead
    exact hLocal
  · cases hOwn

------------------------------------------------------------
-- Whole Numbers
------------------------------------------------------------

/- The digits of a number do not begin with a zero. -/
theorem head?_toDigits_ne
    {n : Nat}
    (hPos : 0 < n) :
    (Nat.toDigits 10 n).head? ≠ some '0' := by
  induction n using Nat.strongRecOn with
  | _ n ih =>
      rcases Nat.lt_or_ge n 10 with hSmall | hLarge
      · have hDigit :
            ∀ m : Nat, m < 10 → 0 < m → m.digitChar ≠ '0' := by
          decide
        rw [Nat.toDigits_of_lt_base hSmall]
        exact fun hHead =>
          hDigit n hSmall hPos (Option.some.inj hHead)
      · have hTens : 0 < n / 10 := Nat.div_pos hLarge (by decide)
        have hSome := Layout.toDigits_ne_nil (n / 10)
        rw [Nat.toDigits_of_base_le (by decide) hLarge,
          List.head?_append_of_ne_nil _ hSome]
        exact ih (n / 10) (by omega) hTens

theorem le_foldl_digits
    (n : Nat)
    (cs : List Char) :
    n ≤
      cs.foldl
        (fun total c => total * 10 + Numeral.digitValue c) n := by
  induction cs generalizing n with
  | nil => exact Nat.le_refl n
  | cons c rest ih =>
      have hLater := ih (n * 10 + Numeral.digitValue c)
      rw [List.foldl_cons]
      omega

/- Digits of a number of 64 bits are all taken. -/
theorem accumulate_of_lt
    {cs : List Char}
    (n : Nat)
    (hSmall :
      cs.foldl
          (fun total c => total * 10 + Numeral.digitValue c) n <
        UInt64.size) :
    accumulate n cs =
      (cs.foldl
        (fun total c => total * 10 + Numeral.digitValue c) n,
        0) := by
  induction cs generalizing n with
  | nil => rfl
  | cons c rest ih =>
      rw [List.foldl_cons] at hSmall ⊢
      have hMore :
          n * 10 + Numeral.digitValue c < UInt64.size :=
        Nat.lt_of_le_of_lt (le_foldl_digits _ rest) hSmall
      rw [accumulate, if_pos hMore]
      exact ih _ hSmall

/- The digits of a number of 64 bits are read as the number. -/
theorem numberAt_toDigits
    {n : Nat}
    (cursor : Cursor)
    (negative : Bool)
    (hSmall : n < UInt64.size)
    (hRest : cursor.rest = Nat.toDigits 10 n) :
    ∃ after,
      numberAt negative cursor =
          wholeNumber negative n 0 after ∧
        after.rest = [] := by
  have hDigits :
      ∀ c ∈ Nat.toDigits 10 n, isDigit c = true :=
    fun _ => Numeral.isDigit_of_mem_toDigits
  have hTaken : digitsAt cursor =
      (Nat.toDigits 10 n,
        { cursor with
          column := cursor.column + (Nat.toDigits 10 n).length
          rest := [] }) := by
    unfold digitsAt
    dsimp only
    rw [hRest, List.takeWhile_eq_self_iff.mpr hDigits,
      List.drop_length]
  have hSum : accumulate 0 (Nat.toDigits 10 n) = (n, 0) := by
    have hValue := Numeral.value_toDigits n
    rw [Numeral.value] at hValue
    rw [accumulate_of_lt 0 (by rw [hValue]; exact hSmall), hValue]
  have hZero :
      ∀ c more,
        Nat.toDigits 10 n = c :: more →
          ¬ (c = '0' ∧ 1 < (Nat.toDigits 10 n).length) := by
    rintro c more hText ⟨rfl, hLong⟩
    rcases Nat.eq_zero_or_pos n with rfl | hPos
    · exact absurd hLong (by decide)
    · exact head?_toDigits_ne hPos (by rw [hText]; rfl)
  unfold numberAt
  cases hText : Nat.toDigits 10 n with
  | nil => exact absurd hText (Layout.toDigits_ne_nil n)
  | cons c more =>
      have hFirst := hDigits c (by rw [hText]; exact .head _)
      rw [hRest, hText]
      dsimp only
      rw [hFirst, hTaken]
      dsimp only
      rw [Bool.not_true, if_neg Bool.false_ne_true,
        if_neg (hZero c more hText), hSum]
      dsimp only
      rw [nextIs_of_nil _ rfl, nextIs_of_nil _ rfl,
        if_neg Bool.false_ne_true, if_neg Bool.false_ne_true]
      exact ⟨_, rfl, rfl⟩

end Json

------------------------------------------------------------
-- Numbers That Are Read Back
------------------------------------------------------------

namespace Number

/- The number is read from its own digits. -/
def Rereads
    (n : Number) : Prop :=
  Json.ownNumber? n.digits = some n

instance
    (n : Number) :
    Decidable n.Rereads :=
  inferInstanceAs (Decidable (_ = _))

theorem rereads_of_read
    {n : Number}
    {after : Json.Cursor}
    (hRead : Json.numberFrom ⟨1, 0, n.digits⟩ = .ok (n, after))
    (hEnd : after.rest = []) :
    n.Rereads := by
  rcases after with ⟨line, column, rest⟩
  cases hEnd
  rw [Rereads, Json.ownNumber?, hRead]

/- Whole numbers of 64 bits, with or without a sign. -/
theorem rereads_integer
    {i : Int}
    (hWord : Binary64.IsWord i) :
    (Number.integer i).Rereads := by
  rcases hWord with ⟨hLow, hHigh⟩
  have hSmall : i.natAbs < UInt64.size := by
    rw [UInt64.size]
    omega
  by_cases hNegative : i < 0
  · have hDigits :
        digits (.integer i) = '-' :: Nat.toDigits 10 i.natAbs := by
      rw [digits, if_pos hNegative]
    rcases
        Json.numberAt_toDigits ⟨1, 1, Nat.toDigits 10 i.natAbs⟩
          true hSmall rfl with
      ⟨after, hRead, hEnd⟩
    have hWhole :
        Json.wholeNumber true i.natAbs 0 after =
          .ok (.integer i, after) := by
      have hHalf :
          ¬ (i.natAbs = 0 ∨ UInt64.size / 2 < i.natAbs) := by
        rw [UInt64.size]
        omega
      have hSign : -(i.natAbs : Int) = i := by omega
      rw [Json.wholeNumber, if_neg (not_not.mpr rfl),
        Bool.not_true, if_neg Bool.false_ne_true, if_neg hHalf,
        hSign]
    have hSigned :
        Json.nextIs (· = '-')
          ⟨1, 0, '-' :: Nat.toDigits 10 i.natAbs⟩ = true := rfl
    refine rereads_of_read ?_ hEnd
    rw [hDigits, Json.numberFrom, if_pos hSigned]
    exact hRead.trans hWhole
  · have hDigits :
        digits (.integer i) = Nat.toDigits 10 i.natAbs := by
      rw [digits, if_neg hNegative]
    rcases
        Json.numberAt_toDigits ⟨1, 0, Nat.toDigits 10 i.natAbs⟩
          false hSmall rfl with
      ⟨after, hRead, hEnd⟩
    have hWhole :
        Json.wholeNumber false i.natAbs 0 after =
          .ok (.integer i, after) := by
      have hSign : (i.natAbs : Int) = i := by omega
      rw [Json.wholeNumber, if_neg (not_not.mpr rfl),
        Bool.not_false, if_pos rfl, hSign]
    have hUnsigned :
        ¬ Json.nextIs (· = '-')
          ⟨1, 0, Nat.toDigits 10 i.natAbs⟩ = true := by
      cases hText : Nat.toDigits 10 i.natAbs with
      | nil => exact absurd hText (Layout.toDigits_ne_nil _)
      | cons c more =>
          have hDigit : Numeral.isDigit c = true :=
            Numeral.isDigit_of_mem_toDigits
              (by rw [hText]; exact .head _)
          intro hSign
          rw [of_decide_eq_true hSign] at hDigit
          exact absurd hDigit (by decide)
    refine rereads_of_read ?_ hEnd
    rw [hDigits, Json.numberFrom, if_neg hUnsigned]
    exact hRead.trans hWhole

end Number

end Automation
