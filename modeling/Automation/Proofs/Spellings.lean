import Automation.Identifier
import Automation.Timestamp
import Mathlib.Algebra.GroupWithZero.Nat
import Mathlib.Data.Nat.Basic

/-
  Identifiers and timestamps are read back from the texts they are written
  as.

  Key definitions include:
    * `Timestamp.spelled`, a moment as it is written

  Key theorems include:
    * `Identifier.ofText_text`
    * `Numeral.value_padded`, a number with leading zeros
    * `Timestamp.number_digits`, a number before something else
    * `Timestamp.ofText_text`
-/

namespace Automation

------------------------------------------------------------
-- Parts Of A Text
------------------------------------------------------------

namespace Text

variable {separator : Char}
variable {part rest : List Char}

theorem splitChars_of_not_mem
    (hPart : separator ∉ part) :
    splitChars separator part = [part] := by
  induction part with
  | nil => rfl
  | cons c cs ih =>
      rw [List.mem_cons, not_or] at hPart
      rw [splitChars, if_neg fun h => hPart.1 h.symm,
        ih hPart.2]

/- The first part ends at the first separator. -/
theorem splitChars_append
    (hPart : separator ∉ part) :
    splitChars separator (part ++ separator :: rest) =
      part :: splitChars separator rest := by
  induction part with
  | nil => rw [List.nil_append, splitChars, if_pos rfl]
  | cons c cs ih =>
      rw [List.mem_cons, not_or] at hPart
      rw [List.cons_append, splitChars,
        if_neg fun h => hPart.1 h.symm, ih hPart.2]

end Text

------------------------------------------------------------
-- Identifiers
------------------------------------------------------------

namespace Identifier

variable {cs : List Char}
variable {sizes : List Nat}

/- Groups are divided where they are put together. -/
theorem splitChars_grouped
    (hDash : '-' ∉ cs)
    (hSizes : sizes ≠ [])
    (hLength : cs.length = sizes.sum) :
    (Text.splitChars '-' (grouped sizes cs)).map
          List.length = sizes ∧
      (Text.splitChars '-' (grouped sizes cs)).flatten =
        cs := by
  induction sizes generalizing cs with
  | nil => exact absurd rfl hSizes
  | cons size others ih =>
      cases others with
      | nil =>
          have hAll : cs.length = size := by simpa using hLength
          rw [grouped, ← hAll, List.take_length,
            Text.splitChars_of_not_mem hDash]
          simp
      | cons next later =>
          rw [List.sum_cons] at hLength
          have hFirst : '-' ∉ cs.take size :=
            fun hMem => hDash (List.mem_of_mem_take hMem)
          have hRest : '-' ∉ cs.drop size :=
            fun hMem => hDash (List.mem_of_mem_drop hMem)
          have hDrop :
              (cs.drop size).length = (next :: later).sum := by
            rw [List.length_drop]
            omega
          rcases ih hRest (List.cons_ne_nil _ _) hDrop with
            ⟨hLengths, hFlatten⟩
          rw [grouped, Text.splitChars_append hFirst]
          · rw [List.map_cons, hLengths, List.flatten_cons,
              hFlatten, List.take_append_drop,
              List.length_take_of_le (by omega)]
            exact ⟨rfl, rfl⟩
          · exact List.cons_ne_nil _ _

theorem digit?_hexDigit
    (d : Fin 16) :
    digit? (hexDigit d) = some d := by
  revert d
  decide

theorem hexDigit_ne
    (d : Fin 16) :
    hexDigit d ≠ '-' ∧ hexDigit d ≠ 'u' ∧
      hexDigit d ≠ '\x7b' := by
  revert d
  decide

theorem mapM_digit?
    (digits : List (Fin 16)) :
    (digits.map hexDigit).mapM digit? = some digits := by
  induction digits with
  | nil => rfl
  | cons d ds ih =>
      rw [List.map_cons, List.mapM_cons, digit?_hexDigit, ih]
      rfl

theorem ofDigits?_digits
    (id : Identifier) :
    ofDigits? (id.digits.map hexDigit) = some id := by
  rw [ofDigits?, mapM_digit?]
  dsimp only
  rw [dif_pos id.size_digits]

/- A dash is no digit. -/
theorem ofDigits?_of_mem
    (hDash : '-' ∈ cs) :
    ofDigits? cs = none := by
  have hNone : cs.mapM digit? = none := by
    induction cs with
    | nil => cases hDash
    | cons c rest ih =>
        rw [List.mapM_cons]
        rcases List.mem_cons.mp hDash with hFirst | hLater
        · rw [← hFirst]
          rfl
        · rw [ih hLater]
          cases digit? c <;> rfl
  rw [ofDigits?, hNone]

/- Nothing stands around the digits of the written form. -/
theorem stripped_of_head
    {c : Char}
    (hScheme : c ≠ 'u')
    (hBrace : c ≠ '\x7b') :
    stripped (c :: cs) = c :: cs := by
  unfold stripped
  split
  · rename_i hHead
    cases hHead
    exact absurd rfl hScheme
  · rename_i hHead
    cases hHead
    exact absurd rfl hBrace
  · rfl

/- An identifier is read back from its text. -/
theorem ofText_text
    (id : Identifier) :
    ofText id.text = .ok id := by
  have hDash : '-' ∉ id.digits.map hexDigit := by
    intro hMem
    rcases List.mem_map.mp hMem with ⟨d, _, hD⟩
    exact (hexDigit_ne d).1 hD
  have hLength :
      (id.digits.map hexDigit).length = groupSizes.sum := by
    rw [List.length_map, id.size_digits]
    rfl
  rcases splitChars_grouped hDash (by decide) hLength with
    ⟨hLengths, hFlatten⟩
  have hGroups :
      ofGroups? (grouped groupSizes (id.digits.map hexDigit)) =
        some id := by
    rw [ofGroups?, if_pos hLengths, hFlatten, ofDigits?_digits]
  have hMem :
      '-' ∈ grouped groupSizes (id.digits.map hexDigit) := by
    simp [groupSizes, grouped]
  have hStripped :
      stripped (grouped groupSizes (id.digits.map hexDigit)) =
        grouped groupSizes (id.digits.map hexDigit) := by
    rcases hDigits : id.digits with _ | ⟨d, ds⟩
    · have hSize := id.size_digits
      rw [hDigits] at hSize
      cases hSize
    · have hD := hexDigit_ne d
      rw [List.map_cons, groupSizes, grouped,
        List.take_succ_cons, List.cons_append]
      · exact stripped_of_head hD.2.1 hD.2.2
      · exact List.cons_ne_nil _ _
  rw [ofText, text, String.toList_ofList,
    ofDigits?_of_mem hMem, hStripped, hGroups]

end Identifier

------------------------------------------------------------
-- Numbers
------------------------------------------------------------

namespace Numeral

variable {digits rest : List Char}
variable {c : Char}

theorem bounds_of_isDigit
    (hDigit : isDigit c = true) :
    48 ≤ c.toNat ∧ c.toNat ≤ 57 :=
  of_decide_eq_true hDigit

theorem isDigit_of_mem_toDigits
    {n : Nat}
    (hDigit : c ∈ Nat.toDigits 10 n) :
    isDigit c = true := by
  have hChar :=
    Nat.isDigit_of_mem_toDigits (by decide) (by decide) hDigit
  rw [Char.isDigit, Bool.and_eq_true] at hChar
  rcases hChar with ⟨hLow, hHigh⟩
  exact
    decide_eq_true
      ⟨of_decide_eq_true hLow, of_decide_eq_true hHigh⟩

theorem value_toDigits
    (n : Nat) :
    value (Nat.toDigits 10 n) = n := by
  have hStep :
      (fun (total : Nat) (c : Char) =>
          total * 10 + digitValue c) =
        fun total c => 10 * total + (c.toNat - '0'.toNat) := by
    funext total c
    rw [Nat.mul_comm]
    rfl
  rw [value, hStep]
  exact Nat.ofDigitChars_toDigits (by decide) (by decide)

theorem value_zeros
    (count : Nat) :
    value (List.replicate count '0' ++ digits) =
      value digits := by
  induction count with
  | zero => rfl
  | succ count ih =>
      rw [List.replicate_succ, List.cons_append]
      exact ih

end Numeral

namespace Timestamp

open Numeral (isDigit value)

variable {digits rest : List Char}

theorem isDigit_of_mem_padded
    {width n : Nat}
    {c : Char}
    (hMem : c ∈ padded width n) :
    isDigit c = true := by
  rcases List.mem_append.mp hMem with hZero | hDigit
  · rw [List.eq_of_mem_replicate hZero]
    decide
  · exact Numeral.isDigit_of_mem_toDigits hDigit

theorem value_padded
    (width n : Nat) :
    value (padded width n) = n :=
  (Numeral.value_zeros _).trans (Numeral.value_toDigits n)

theorem length_padded
    {width n : Nat}
    (hWidth : 0 < width)
    (hBound : n < 10 ^ width) :
    (padded width n).length = width := by
  have hDigits :
      (Nat.toDigits 10 n).length ≤ width :=
    (Nat.length_toDigits_le_iff (by decide) hWidth).mpr hBound
  rw [padded, List.length_append, List.length_replicate]
  omega

theorem padded_ne_nil
    (width n : Nat) :
    padded width n ≠ [] := by
  intro hNil
  have hDigits := (List.append_eq_nil_iff.mp hNil).2
  have hLength : 0 < (Nat.toDigits 10 n).length :=
    Nat.length_toDigits_pos
  rw [hDigits] at hLength
  exact absurd hLength (Nat.lt_irrefl 0)

/- A number ends where there are enough digits, or no more. -/
theorem number_digits
    {most : Nat}
    (hDigits : ∀ c ∈ digits, isDigit c = true)
    (hSome : digits ≠ [])
    (hMost : digits.length ≤ most)
    (hEnd :
      digits.length = most ∨
        ∀ c ∈ rest.head?, isDigit c = false) :
    number most (digits ++ rest) = .ok (value digits, rest) := by
  have hNone :
      (rest.take (most - digits.length)).takeWhile isDigit =
        [] := by
    rcases hEnd with hLength | hHead
    · rw [hLength, Nat.sub_self]
      rfl
    · cases rest with
      | nil => rw [List.take_nil, List.takeWhile_nil]
      | cons c cs =>
          have hC : isDigit c = false := hHead c rfl
          cases most - digits.length with
          | zero => rfl
          | succ count =>
              rw [List.take_succ_cons, List.takeWhile_cons, hC]
              rfl
  have hTaken :
      ((digits ++ rest).take most).takeWhile isDigit =
        digits := by
    rw [List.take_append, List.take_of_length_le hMost,
      List.takeWhile_append_of_pos hDigits, hNone,
      List.append_nil]
  unfold number
  simp only [hTaken]
  split
  · exact absurd rfl hSome
  · exact absurd rfl hSome
  · rw [List.drop_left]

/- Neither digits nor marks are white space. -/
theorem skipBlank_cons
    {c : Char}
    (hBlank : Text.isBlank c = false) :
    skipBlank (c :: rest) = c :: rest := by
  rw [skipBlank, List.dropWhile_cons, hBlank]
  rfl

theorem isBlank_of_isDigit
    {c : Char}
    (hDigit : isDigit c = true) :
    Text.isBlank c = false := by
  have hBounds := Numeral.bounds_of_isDigit hDigit
  apply decide_eq_false
  omega

theorem skipBlank_digits
    (hDigits : ∀ c ∈ digits, isDigit c = true)
    (hSome : digits ≠ []) :
    skipBlank (digits ++ rest) = digits ++ rest := by
  cases digits with
  | nil => exact absurd rfl hSome
  | cons c cs =>
      exact
        skipBlank_cons
          (isBlank_of_isDigit (hDigits c List.mem_cons_self))

/- Two digits are read as the number that they are written for. -/
theorem field_padded
    {low high n : Nat}
    (hBound : n < 100)
    (hLow : low ≤ n)
    (hHigh : n ≤ high) :
    field low high (padded 2 n ++ rest) = .ok (n, rest) := by
  have hLength : (padded 2 n).length = 2 :=
    length_padded (by decide) hBound
  have hNumber :
      number 2 (padded 2 n ++ rest) = .ok (n, rest) := by
    rw [number_digits (fun _ => isDigit_of_mem_padded)
      (padded_ne_nil 2 n) (Nat.le_of_eq hLength)
      (Or.inl hLength), value_padded]
  rw [field,
    skipBlank_digits (fun _ => isDigit_of_mem_padded)
      (padded_ne_nil 2 n),
    hNumber]
  dsimp only
  rw [if_pos ⟨hLow, hHigh⟩]

theorem mark_cons
    {c : Char}
    (hBlank : Text.isBlank c = false) :
    mark c (c :: rest) = .ok rest := by
  rw [mark, skipBlank_cons hBlank]
  dsimp only
  rw [if_pos rfl]

------------------------------------------------------------
-- Timestamps
------------------------------------------------------------

/- A number with a sign ends before the next mark. -/
theorem number_signed
    (n : Nat) :
    number (padded 4 n ++ '-' :: rest).length
        (padded 4 n ++ '-' :: rest) =
      .ok (n, '-' :: rest) := by
  rw [number_digits (fun _ => isDigit_of_mem_padded)
    (padded_ne_nil 4 n) (by simp)
    (Or.inr fun c hHead => ?_), value_padded]
  cases hHead
  decide

/- A year without a sign. -/
theorem yearField_digits
    {n : Nat}
    {after : List Char}
    (hDigits : ∀ c ∈ digits, isDigit c = true)
    (hSome : digits ≠ [])
    (hNumber : number 4 (digits ++ rest) = .ok (n, after))
    (hBound : n < 10000) :
    yearField (digits ++ rest) = .ok ((n : Int), after) := by
  have hHead :
      ∀ {c : Char} {cs : List Char},
        digits ++ rest = c :: cs → isDigit c = true := by
    intro c cs hCons
    cases digits with
    | nil => exact absurd rfl hSome
    | cons d ds =>
        rw [← (List.cons.inj hCons).1]
        exact hDigits d List.mem_cons_self
  unfold yearField
  rw [skipBlank_digits hDigits hSome]
  split
  · rename_i hMinus
    exact absurd (hHead hMinus) (by decide)
  · rename_i hPlus
    exact absurd (hHead hPlus) (by decide)
  · rw [hNumber]
    exact if_neg (by omega)

/- A year behind a sign. -/
theorem yearField_signed
    {n : Nat}
    {after : List Char}
    (hNumber : number rest.length rest = .ok (n, after))
    (hBound : n < 2147483648) :
    yearField ('-' :: rest) = .ok (-(n : Int), after) ∧
      yearField ('+' :: rest) = .ok ((n : Int), after) := by
  have hMinus : skipBlank ('-' :: rest) = '-' :: rest :=
    skipBlank_cons (by decide)
  have hPlus : skipBlank ('+' :: rest) = '+' :: rest :=
    skipBlank_cons (by decide)
  simp only [yearField, hMinus, hPlus, hNumber]
  exact ⟨if_neg (by omega), if_neg (by omega)⟩

theorem yearField_yearDigits
    {year : Int}
    (hLow : -262143 ≤ year)
    (hHigh : year ≤ 262142) :
    yearField (yearDigits year ++ '-' :: rest) =
      .ok (year, '-' :: rest) := by
  rw [yearDigits]
  by_cases hPlain : 0 ≤ year ∧ year ≤ 9999
  · rw [if_pos hPlain]
    have hYear : (year.toNat : Int) = year :=
      Int.toNat_of_nonneg hPlain.1
    have hLength : (padded 4 year.toNat).length = 4 :=
      length_padded (by decide) (by omega)
    have hNumber :
        number 4 (padded 4 year.toNat ++ '-' :: rest) =
          .ok (year.toNat, '-' :: rest) := by
      rw [number_digits (fun _ => isDigit_of_mem_padded)
        (padded_ne_nil 4 _) (Nat.le_of_eq hLength)
        (Or.inl hLength), value_padded]
    rw [yearField_digits (fun _ => isDigit_of_mem_padded)
      (padded_ne_nil 4 _) hNumber (by omega), hYear]
  · rw [if_neg hPlain]
    by_cases hNegative : year < 0
    · have hYear : -(year.natAbs : Int) = year := by omega
      rw [if_pos hNegative, List.cons_append,
        (yearField_signed (number_signed _) (by omega)).1, hYear]
    · have hYear : (year.natAbs : Int) = year := by omega
      rw [if_neg hNegative, List.cons_append,
        (yearField_signed (number_signed _) (by omega)).2, hYear]

/- The fraction of a second, before the sign for universal time. -/
theorem nanosField_fraction
    {nanos : Nat}
    (hBound : nanos < 1000000000) :
    nanosField (fraction nanos ++ ['Z']) =
      .ok (nanos, ['Z']) := by
  have hDigits :
      ∀ {width n : Nat},
        0 < width →
          n < 10 ^ width →
            width ≤ 9 →
              nanosField ('.' :: (padded width n ++ ['Z'])) =
                .ok (n * 10 ^ (9 - width), ['Z']) := by
    intro width n hWidth hN hNine
    have hLength := length_padded hWidth hN
    have hMost : (padded width n).length ≤ 9 := by omega
    have hNumber :
        number 9 (padded width n ++ ['Z']) = .ok (n, ['Z']) := by
      rw [number_digits (fun _ => isDigit_of_mem_padded)
        (padded_ne_nil width n) hMost
        (Or.inr fun c hHead => ?_), value_padded]
      cases hHead
      decide
    rw [nanosField, hNumber]
    have hCount :
        (padded width n ++ ['Z']).length - ['Z'].length =
          width := by
      rw [List.length_append, Nat.add_sub_cancel, hLength]
    dsimp only
    rw [hCount]
    rfl
  rw [fraction]
  by_cases hZero : nanos = 0
  · rw [if_pos hZero, hZero]
    rfl
  · rw [if_neg hZero]
    by_cases hMillis : nanos % 1000000 = 0
    · have hNanos : nanos / 1000000 * 10 ^ 6 = nanos := by omega
      rw [if_pos hMillis, List.cons_append,
        hDigits (by decide) (by omega) (by decide), hNanos]
    · rw [if_neg hMillis]
      by_cases hMicros : nanos % 1000 = 0
      · have hNanos : nanos / 1000 * 10 ^ 3 = nanos := by omega
        rw [if_pos hMicros, List.cons_append,
          hDigits (by decide) (by omega) (by decide), hNanos]
      · rw [if_neg hMicros, List.cons_append,
          hDigits (by decide) (by omega) (by decide)]
        simp

/- A moment as it is written, with a second that may be a leap second. -/
def spelled
    (m : Moment)
    (second nanos : Nat) :
    List Char :=
  yearDigits m.year ++ '-' :: (padded 2 m.month ++ '-' ::
    (padded 2 m.day ++ 'T' :: (padded 2 m.hour ++ ':' ::
      (padded 2 m.minute ++ ':' :: (padded 2 second ++
        (fraction nanos ++ ['Z']))))))

/- A moment as it is read.  No second comes after the last of a minute. -/
def heard
    (m : Moment)
    (second nanos : Nat) :
    Moment :=
  if second = 60 then
    { m with
      second := 59
      nanos := nanos + Moment.nanosPerSecond }
  else { m with second := second, nanos := nanos }

/- The fields of a moment are read one after the other. -/
theorem moment_spelled
    {m : Moment}
    {second nanos : Nat}
    (hYear : -262143 ≤ m.year ∧ m.year ≤ 262142)
    (hMonth : 1 ≤ m.month ∧ m.month ≤ 12)
    (hDay : 1 ≤ m.day ∧ m.day ≤ 31)
    (hHour : m.hour ≤ 23)
    (hMinute : m.minute ≤ 59)
    (hSecond : second ≤ 60)
    (hNanos : nanos < 1000000000) :
    moment (spelled m second nanos) =
      .ok (heard m second nanos, 0, []) := by
  have hZone : offset ['Z'] = .ok (0, []) := rfl
  have hDash : Text.isBlank '-' = false := by decide
  have hColon : Text.isBlank ':' = false := by decide
  have hMonths :
      ∀ cs,
        field 1 12 (padded 2 m.month ++ cs) = .ok (m.month, cs) :=
    fun _ => field_padded (by omega) hMonth.1 hMonth.2
  have hDays :
      ∀ cs,
        field 1 31 (padded 2 m.day ++ cs) = .ok (m.day, cs) :=
    fun _ => field_padded (by omega) hDay.1 hDay.2
  have hHours :
      ∀ cs,
        field 0 23 (padded 2 m.hour ++ cs) = .ok (m.hour, cs) :=
    fun _ => field_padded (by omega) (Nat.zero_le _) hHour
  have hMinutes :
      ∀ cs,
        field 0 59 (padded 2 m.minute ++ cs) =
          .ok (m.minute, cs) :=
    fun _ => field_padded (by omega) (Nat.zero_le _) hMinute
  have hSeconds :
      ∀ cs,
        field 0 60 (padded 2 second ++ cs) = .ok (second, cs) :=
    fun _ => field_padded (by omega) (Nat.zero_le _) hSecond
  simp only [moment, spelled, heard,
    yearField_yearDigits hYear.1 hYear.2, mark_cons hDash,
    mark_cons hColon, hMonths, hDays, hHours, hMinutes, hSeconds,
    nanosField_fraction hNanos, hZone, true_or, if_true, bind,
    Except.bind]

/- A leap second is written as the second after the last of a minute. -/
theorem exists_spelled
    (t : Timestamp)
    (hSecond : t.val.second < 60)
    (hNanos :
      t.val.nanos <
        (if t.val.second = 59 then 2 else 1) * 1000000000) :
    ∃ second nanos,
      t.text = String.ofList (spelled t.val second nanos) ∧
        second ≤ 60 ∧
        nanos < 1000000000 ∧
        heard t.val second nanos = t.val := by
  rcases t with ⟨m, hValid⟩
  dsimp only at hSecond hNanos
  by_cases hLeap : 1000000000 ≤ m.nanos
  · have hLast : m.second = 59 := by
      by_contra hOther
      rw [if_neg hOther] at hNanos
      omega
    rw [if_pos hLast] at hNanos
    refine ⟨60, m.nanos - 1000000000, ?_, by omega, by omega, ?_⟩
    · simp [text, textWith, spelled, Moment.nanosPerSecond,
        hLeap, hLast]
    · rw [heard, if_pos rfl, Moment.nanosPerSecond,
        Nat.sub_add_cancel hLeap, ← hLast]
  · refine ⟨m.second, m.nanos, ?_, by omega, by omega, ?_⟩
    · simp [text, textWith, spelled, Moment.nanosPerSecond,
        hLeap]
    · rw [heard, if_neg (by omega)]

/- A timestamp is read back from its text. -/
theorem ofText_text
    (t : Timestamp) :
    ofText t.text = .ok t := by
  have hValid : t.val.isValid = true := t.property
  rcases of_decide_eq_true hValid with
    ⟨hYearLow, hYearHigh, hMonthLow, hMonthHigh, hDayLow,
      hDayHigh, hHour, hMinute, hSecond, hNanos⟩
  have hDay : t.val.day ≤ 31 := by
    apply Nat.le_trans hDayHigh
    unfold Moment.daysInMonth
    split <;> split <;> decide
  rcases exists_spelled t hSecond hNanos with
    ⟨second, nanos, hText, hSixty, hFraction, hSame⟩
  rw [ofText, hText, String.toList_ofList,
    moment_spelled ⟨hYearLow, hYearHigh⟩
      ⟨hMonthLow, hMonthHigh⟩ ⟨hDayLow, hDay⟩ (by omega)
      (by omega) hSixty hFraction, hSame]
  simp [skipBlank, hValid]

end Timestamp

end Automation
