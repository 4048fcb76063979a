import Automation.Decoding.Json
import Mathlib.Tactic.SplitIfs

/-
  Strings that are read back from the text they are quoted in.

  A character is quoted as itself, by a backslash and a letter, or by its
  code in four hexadecimal digits.  In each of the three ways it is read
  in one step, which leaves the text behind it.

  Key theorems include:
    * `Json.stringAt_escape`, one character
    * `Json.string_quote`, a whole string
-/

namespace Automation

------------------------------------------------------------
-- Ways To Quote A Character
------------------------------------------------------------

namespace Document

/- A character that is quoted by its code. -/
def byCode
    (c : Char) :
    List Char :=
  ['\\', 'u', '0', '0', Nat.digitChar (c.toNat / 16),
    Nat.digitChar (c.toNat % 16)]

theorem char_eq_ofNat
    {c : Char}
    {n : Nat}
    (hCode : c.toNat = n) :
    c = Char.ofNat n := by
  rw [← hCode, Char.ofNat_toNat]

theorem escape_cases
    (c : Char) :
    (∃ letter,
      escape c = ['\\', letter] ∧
        letter ≠ 'u' ∧ Json.escaped? letter = some c) ∨
      (escape c = byCode c ∧ c.toNat < 32) ∨
        (escape c = [c] ∧
          c ≠ '"' ∧ c ≠ '\\' ∧ 32 ≤ c.toNat) := by
  unfold escape
  split_ifs with hQuote hSlash hBack hTab hLine hForm hReturn hCode
  · subst hQuote
    exact Or.inl ⟨'"', rfl, by decide, rfl⟩
  · subst hSlash
    exact Or.inl ⟨'\\', rfl, by decide, rfl⟩
  · exact
      Or.inl
        ⟨'b', rfl, by decide, by rw [char_eq_ofNat hBack]; rfl⟩
  · exact
      Or.inl
        ⟨'t', rfl, by decide, by rw [char_eq_ofNat hTab]; rfl⟩
  · exact
      Or.inl
        ⟨'n', rfl, by decide, by rw [char_eq_ofNat hLine]; rfl⟩
  · exact
      Or.inl
        ⟨'f', rfl, by decide, by rw [char_eq_ofNat hForm]; rfl⟩
  · exact
      Or.inl
        ⟨'r', rfl, by decide, by rw [char_eq_ofNat hReturn]; rfl⟩
  · exact Or.inr (Or.inl ⟨rfl, hCode⟩)
  · exact
      Or.inr
        (Or.inr ⟨rfl, hQuote, hSlash, Nat.le_of_not_lt hCode⟩)

theorem length_le_escapes
    (cs : List Char) :
    cs.length ≤ (cs.flatMap escape).length := by
  induction cs with
  | nil => exact Nat.le_refl 0
  | cons c rest ih =>
      have hFirst : 0 < (escape c).length := by
        rcases escape_cases c with
          ⟨letter, hEscape, _⟩ | ⟨hEscape, _⟩ | ⟨hEscape, _⟩
        all_goals
          rw [hEscape]
          exact Nat.zero_lt_succ _
      rw [List.flatMap_cons, List.length_append, List.length_cons]
      omega

end Document

------------------------------------------------------------
-- One Character
------------------------------------------------------------

namespace Json

variable {rest : List Char}
variable {cursor : Cursor}

theorem Cursor.next_rest
    {c : Char}
    (hRest : cursor.rest = c :: rest) :
    cursor.next.rest = rest := by
  unfold Cursor.next
  rw [hRest]
  dsimp only
  split_ifs <;> rfl

theorem length_le_byteLength
    (cs : List Char) :
    cs.length ≤ byteLength cs := by
  have hFrom :
      ∀ n,
        n + cs.length ≤
          cs.foldl (fun n c => n + c.utf8Size) n := by
    induction cs with
    | nil => exact fun n => Nat.le_refl n
    | cons c rest ih =>
        intro n
        have hFirst := c.utf8Size_pos
        have hRest := ih (n + c.utf8Size)
        rw [List.foldl_cons, List.length_cons]
        omega
  have hAll := hFrom 0
  rw [Nat.zero_add] at hAll
  exact hAll

/- The two last digits of the code of a character below the space. -/
theorem readCode_byCode :
    ∀ n < 32,
      let digits :=
        ['0', '0', Nat.digitChar (n / 16), Nat.digitChar (n % 16)]
      CharSet.readCode digits = n ∧ digits.all isHex = true := by
  decide

theorem hexAt_of_digits
    {digits : List Char}
    (hRest : cursor.rest = digits ++ rest)
    (hFour : digits.length = 4)
    (hHex : digits.all isHex = true) :
    hexAt cursor =
      .ok (CharSet.readCode digits,
        ⟨cursor.line, cursor.column + 4, rest⟩) := by
  have hLong : ¬ byteLength cursor.rest < 4 := by
    have hLength := length_le_byteLength cursor.rest
    rw [hRest, List.length_append] at hLength
    rw [hRest]
    omega
  unfold hexAt
  rw [if_neg hLong, hRest, List.take_left' hFour,
    List.drop_left' hFour]
  exact if_pos ⟨hFour, hHex⟩

theorem codeAt_byCode
    {c : Char}
    (hCode : c.toNat < 32)
    (hRest :
      cursor.rest =
        ['0', '0', Nat.digitChar (c.toNat / 16),
          Nat.digitChar (c.toNat % 16)] ++ rest) :
    ∃ after, codeAt cursor = .ok (c, after) ∧ after.rest = rest := by
  rcases readCode_byCode c.toNat hCode with ⟨hValue, hHex⟩
  refine ⟨⟨cursor.line, cursor.column + 4, rest⟩, ?_, rfl⟩
  unfold codeAt
  rw [hexAt_of_digits hRest rfl hHex, hValue]
  dsimp only
  rw [if_neg (by omega), if_pos (by omega), Char.ofNat_toNat]

/- One character of a string is read from the way it is quoted. -/
theorem stringAt_escape
    {c : Char}
    (fuel : Nat)
    (before : List Char)
    (hRest : cursor.rest = Document.escape c ++ rest) :
    ∃ after,
      stringAt (fuel + 1) before cursor =
          stringAt fuel (c :: before) after ∧
        after.rest = rest := by
  rw [stringAt]
  rcases Document.escape_cases c with
    ⟨letter, hEscape, hLetter, hMeans⟩ | ⟨hEscape, hCode⟩ |
      ⟨hEscape, hQuote, hSlash, hSpace⟩
  · rw [hEscape] at hRest
    have hNext : cursor.next.rest = letter :: rest :=
      Cursor.next_rest hRest
    refine ⟨cursor.next.next, ?_, Cursor.next_rest hNext⟩
    rw [hRest]
    dsimp only [List.cons_append]
    rw [if_neg (by decide), if_pos rfl, hNext]
    dsimp only
    rw [if_neg hLetter, hMeans]
  · rw [hEscape] at hRest
    have hNext :
        cursor.next.rest = 'u' :: ((Document.byCode c).drop 2 ++ rest) :=
      Cursor.next_rest hRest
    rcases codeAt_byCode hCode (Cursor.next_rest hNext) with
      ⟨after, hRead, hAfter⟩
    refine ⟨after, ?_, hAfter⟩
    rw [hRest]
    dsimp only [Document.byCode, List.cons_append]
    rw [if_neg (by decide), if_pos rfl, hNext]
    dsimp only
    rw [if_pos rfl, hRead]
  · rw [hEscape] at hRest
    refine ⟨cursor.next, ?_, Cursor.next_rest hRest⟩
    rw [hRest]
    dsimp only [List.cons_append]
    rw [if_neg hQuote, if_neg hSlash,
      if_neg (Nat.not_lt.mpr hSpace)]

------------------------------------------------------------
-- Whole Strings
------------------------------------------------------------

theorem stringAt_escapes
    (cs before : List Char)
    (fuel : Nat)
    (hFuel : cs.length < fuel)
    (hRest :
      cursor.rest = cs.flatMap Document.escape ++ '"' :: rest) :
    ∃ after,
      stringAt fuel before cursor =
          .ok (String.ofList (before.reverse ++ cs), after) ∧
        after.rest = rest := by
  induction cs generalizing before fuel cursor with
  | nil =>
      rcases Nat.exists_eq_add_one_of_ne_zero
        (Nat.ne_zero_of_lt hFuel) with ⟨less, rfl⟩
      rw [List.flatMap_nil, List.nil_append] at hRest
      refine ⟨cursor.next, ?_, Cursor.next_rest hRest⟩
      rw [stringAt, hRest, List.append_nil]
      dsimp only
      rw [if_pos rfl]
  | cons c more ih =>
      rcases Nat.exists_eq_add_one_of_ne_zero
        (Nat.ne_zero_of_lt hFuel) with ⟨less, rfl⟩
      rw [List.flatMap_cons, List.append_assoc] at hRest
      rcases stringAt_escape less before hRest with
        ⟨next, hStep, hNext⟩
      rcases ih (c :: before) less
          (Nat.lt_of_succ_lt_succ hFuel) hNext with
        ⟨after, hRead, hAfter⟩
      refine ⟨after, ?_, hAfter⟩
      rw [hStep, hRead, List.reverse_cons, List.append_assoc]
      rfl

/- A string is read from its quotes. -/
theorem string_quote
    (s : String)
    (hRest : cursor.rest = Document.quote s ++ rest) :
    ∃ after,
      string cursor.next = .ok (s, after) ∧ after.rest = rest := by
  have hInside :
      cursor.next.rest =
        s.toList.flatMap Document.escape ++ '"' :: rest := by
    apply Cursor.next_rest
    rw [hRest, Document.quote, List.cons_append,
      List.cons_append, List.append_assoc]
    rfl
  have hFuel : s.toList.length < cursor.next.rest.length + 1 := by
    have hLength := Document.length_le_escapes s.toList
    rw [hInside, List.length_append]
    omega
  rcases stringAt_escapes s.toList [] _ hFuel hInside with
    ⟨after, hRead, hAfter⟩
  refine ⟨after, ?_, hAfter⟩
  rw [string, hRead, List.reverse_nil, List.nil_append,
    String.ofList_toList]

end Json

end Automation
