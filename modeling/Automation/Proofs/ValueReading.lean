import Automation.Proofs.NumberReading
import Automation.Proofs.Rereading
import Automation.Proofs.StringReading

/-
  Documents that are read from a text of theirs.

  A text is read from left to right, and what is read of it never depends
  on the white space between its parts.  So a document is read from any of
  its texts, in front of more text, if it is not nested too deeply and each
  of its numbers is read from its own digits.

  Key definitions include:
    * `Document.Rereads`, numbers that are read from their digits
    * `Json.Reads`, what is read of a document in front of more text

  Key theorems include:
    * `Json.reads_items` and `Json.reads_entries`
    * `Json.reads_value`, a document in front of more text
-/

namespace Automation

------------------------------------------------------------
-- Documents And Their First Characters
------------------------------------------------------------

namespace Document

mutual

/- Every number of the document is read from its own digits. -/
def Rereads : Document → Prop
  | .number n => n.Rereads
  | .array items => RereadsItems items
  | .object entries => RereadsEntries entries
  | _ => True

def RereadsItems : List Document → Prop
  | [] => True
  | x :: xs => Rereads x ∧ RereadsItems xs

def RereadsEntries : List (String × Document) → Prop
  | [] => True
  | (_, x) :: xs => Rereads x ∧ RereadsEntries xs

end

end Document

namespace Json

open Document (Spacing isBlank)

/- A character that a value starts with. -/
def Starts
    (c : Char) : Prop :=
  isBlank c = false ∧ c ≠ ']'

theorem exists_start_of_own
    {cs : List Char}
    {n : Number}
    (hOwn : ownNumber? cs = some n) :
    ∃ c more, cs = c :: more ∧ startsNumber c = true := by
  cases cs with
  | nil => cases hOwn
  | cons c more =>
      refine ⟨c, more, rfl, ?_⟩
      by_contra hOther
      rw [startsNumber, Bool.or_eq_true, not_or] at hOther
      have hUnsigned :
          ¬ nextIs (· = '-') ⟨1, 0, c :: more⟩ = true := hOther.1
      rw [ownNumber?, numberFrom, if_neg hUnsigned, numberAt]
        at hOwn
      simp [hOther.2] at hOwn

theorem ne_of_startsNumber
    {c : Char}
    (d : Char)
    (hNumber : startsNumber c = true)
    (hOther : startsNumber d = false) :
    c ≠ d := by
  rintro rfl
  rw [hNumber] at hOther
  cases hOther

theorem starts_of_number
    {c : Char}
    (hNumber : startsNumber c = true) :
    Starts c := by
  have hOther :
      ∀ d, startsNumber d = false → c ≠ d := fun d =>
    ne_of_startsNumber d hNumber
  refine ⟨?_, hOther ']' rfl⟩
  simp [isBlank, hOther ' ' rfl, hOther '\n' rfl,
    hOther '\t' rfl, hOther '\r' rfl]

theorem write_starts
    (spacing : Spacing)
    (level : Nat)
    {d : Document}
    (hRereads : d.Rereads) :
    ∃ c more, d.write spacing level = c :: more ∧ Starts c := by
  cases d with
  | null => exact ⟨'n', _, rfl, rfl, by decide⟩
  | bool b =>
      cases b with
      | true => exact ⟨'t', _, rfl, rfl, by decide⟩
      | false => exact ⟨'f', _, rfl, rfl, by decide⟩
  | number n =>
      rcases exists_start_of_own hRereads with
        ⟨c, more, hDigits, hNumber⟩
      exact ⟨c, more, hDigits, starts_of_number hNumber⟩
  | string s => exact ⟨'"', _, rfl, rfl, by decide⟩
  | array items =>
      cases items with
      | nil => exact ⟨'[', _, rfl, rfl, by decide⟩
      | cons x xs => exact ⟨'[', _, rfl, rfl, by decide⟩
  | object entries =>
      cases entries with
      | nil => exact ⟨'\x7b', _, rfl, rfl, by decide⟩
      | cons x xs => exact ⟨'\x7b', _, rfl, rfl, by decide⟩

------------------------------------------------------------
-- White Space
------------------------------------------------------------

theorem skip_rest
    (cursor : Cursor) :
    (skip cursor).rest = cursor.rest.dropWhile isBlank := by
  have hFrom :
      ∀ cs line column,
        (skipFrom line column cs).rest = cs.dropWhile isBlank := by
    intro cs
    induction cs with
    | nil => exact fun _ _ => rfl
    | cons c rest ih =>
        intro line column
        rw [skipFrom, List.dropWhile_cons]
        by_cases hLine : c = '\n'
        · subst hLine
          exact ih _ _
        · rw [if_neg hLine]
          split_ifs
          · exact ih _ _
          · rfl
  exact hFrom cursor.rest cursor.line cursor.column

/- White space in front of a character is passed over. -/
theorem skip_rest_of_blanks
    {cursor : Cursor}
    {blanks rest : List Char}
    {c : Char}
    (hRest : cursor.rest = blanks ++ c :: rest)
    (hBlanks : blanks.all isBlank = true)
    (hFirst : isBlank c = false) :
    (skip cursor).rest = c :: rest := by
  rw [skip_rest, hRest, List.dropWhile_append_of_pos]
  · rw [List.dropWhile_cons_of_neg]
    rw [hFirst]
    exact Bool.false_ne_true
  · exact List.all_eq_true.mp hBlanks

theorem skip_rest_of_first
    {cursor : Cursor}
    {rest : List Char}
    {c : Char}
    (hRest : cursor.rest = c :: rest)
    (hFirst : isBlank c = false) :
    (skip cursor).rest = c :: rest := by
  rw [skip_rest, hRest, List.dropWhile_cons_of_neg]
  rw [hFirst]
  exact Bool.false_ne_true

theorem skip_skip_rest
    (cursor : Cursor) :
    (skip (skip cursor)).rest = (skip cursor).rest := by
  rw [skip_rest, skip_rest, List.dropWhile_idempotent]

------------------------------------------------------------
-- Scalars
------------------------------------------------------------

/- The document was read, and the rest of the text was left. -/
def Reads
    (reading : Reading)
    (d : Document)
    (rest : List Char) : Prop :=
  ∃ node after,
    reading = (node, some after) ∧
      node.Spells d ∧ after.rest = rest

def ReadsItems
    (reading : ItemsReading)
    (items : List Document)
    (rest : List Char) : Prop :=
  ∃ nodes after,
    reading = (nodes, some after) ∧
      Node.bareItems nodes = Document.nodeItems items ∧
        after.rest = rest

def ReadsEntries
    (reading : EntriesReading)
    (entries : List (String × Document))
    (rest : List Char) : Prop :=
  ∃ nodes after,
    reading = (nodes, some after) ∧
      Node.bareEntries nodes = Document.nodeEntries entries ∧
        after.rest = rest

variable {spacing : Spacing}
variable {level fuel depth : Nat}
variable {cursor : Cursor}
variable {rest : List Char}

theorem wordAt_self
    (expected : List Char)
    (hRest : cursor.rest = expected ++ rest) :
    ∃ after, wordAt expected cursor = .ok after ∧ after.rest = rest := by
  induction expected generalizing cursor with
  | nil => exact ⟨cursor, rfl, hRest⟩
  | cons c more ih =>
      rcases ih (Cursor.next_rest hRest) with
        ⟨after, hRead, hAfter⟩
      refine ⟨after, ?_, hAfter⟩
      rw [wordAt, hRest]
      dsimp only [List.cons_append]
      rw [if_pos rfl, hRead]

theorem reads_scalar
    {start after : Cursor}
    {value : Scalar}
    {read : Except Fault (Scalar × Cursor)}
    (hRead : read = .ok (value, after))
    (hAfter : after.rest = rest) :
    Reads (scalar start read) value.document rest := by
  subst hRead
  refine ⟨_, after, rfl, ?_, hAfter⟩
  cases value <;> rfl

theorem reads_word
    {start : Cursor}
    {c : Char}
    (value : Scalar)
    (s : String)
    (hRest : start.rest = c :: s.toList ++ rest) :
    Reads (word start s value) value.document rest := by
  rcases wordAt_self s.toList (Cursor.next_rest hRest) with
    ⟨after, hRead, hAfter⟩
  apply reads_scalar _ hAfter
  rw [hRead]
  rfl

/- What starts like a number is read as a number. -/
theorem value_number
    {c : Char}
    {more : List Char}
    (hStart : (skip cursor).rest = c :: more)
    (hNumber : startsNumber c = true) :
    value (fuel + 1) depth cursor =
      scalar (skip cursor)
        ((numberFrom (skip cursor)).map fun read =>
          (.number read.1, read.2)) := by
  rw [value]
  dsimp only
  rw [hStart]
  split
  all_goals
    rename_i hText
    cases hText
  · exact absurd hNumber (by decide)
  · exact absurd hNumber (by decide)
  · exact absurd hNumber (by decide)
  · exact absurd hNumber (by decide)
  · exact absurd hNumber (by decide)
  · exact absurd hNumber (by decide)
  · rw [if_pos hNumber]

theorem reads_null
    (hStart :
      (skip cursor).rest =
        Document.null.write spacing level ++ rest) :
    Reads (value (fuel + 1) depth cursor) .null rest := by
  have hValue :
      value (fuel + 1) depth cursor =
        word (skip cursor) "ull" .null := by
    rw [value]
    dsimp only
    rw [hStart]
    rfl
  rw [hValue]
  exact reads_word .null "ull" hStart

theorem reads_bool
    (b : Bool)
    (hStart :
      (skip cursor).rest =
        (Document.bool b).write spacing level ++ rest) :
    Reads (value (fuel + 1) depth cursor) (.bool b) rest := by
  cases b with
  | true =>
      have hValue :
          value (fuel + 1) depth cursor =
            word (skip cursor) "rue" (.bool true) := by
        rw [value]
        dsimp only
        rw [hStart]
        rfl
      rw [hValue]
      exact reads_word (.bool true) "rue" hStart
  | false =>
      have hValue :
          value (fuel + 1) depth cursor =
            word (skip cursor) "alse" (.bool false) := by
        rw [value]
        dsimp only
        rw [hStart]
        rfl
      rw [hValue]
      exact reads_word (.bool false) "alse" hStart

theorem reads_string
    (s : String)
    (hStart :
      (skip cursor).rest =
        (Document.string s).write spacing level ++ rest) :
    Reads (value (fuel + 1) depth cursor) (.string s) rest := by
  have hValue :
      value (fuel + 1) depth cursor =
        scalar (skip cursor)
          ((string (skip cursor).next).map fun read =>
            (.string read.1, read.2)) := by
    rw [value]
    dsimp only
    rw [hStart]
    rfl
  rcases string_quote s hStart with ⟨after, hRead, hAfter⟩
  rw [hValue, hRead]
  exact reads_scalar rfl hAfter

theorem reads_number
    {n : Number}
    (hRereads : n.Rereads)
    (hEnds : Ends rest)
    (hStart :
      (skip cursor).rest =
        (Document.number n).write spacing level ++ rest) :
    Reads (value (fuel + 1) depth cursor) (.number n) rest := by
  rcases exists_start_of_own hRereads with
    ⟨c, more, hDigits, hNumber⟩
  have hFirst :
      (skip cursor).rest = c :: (more ++ rest) := by
    rw [hStart, Document.write, hDigits, List.cons_append]
  rcases numberFrom_of_own hEnds hRereads hStart with
    ⟨after, hRead, hAfter⟩
  rw [value_number hFirst hNumber, hRead]
  exact reads_scalar rfl hAfter

------------------------------------------------------------
-- Containers
------------------------------------------------------------

section Items

variable {x : Document}
variable {xs : List Document}
variable {later : List Char}
variable {read : Cursor → Reading}
variable {more : Cursor → ItemsReading}

theorem reads_itemAt
    (hFirst : Reads (read cursor) x later)
    (hMore :
      ∀ after,
        after.rest = later → ReadsItems (more after) xs rest) :
    ReadsItems (itemAt read more cursor) (x :: xs) rest := by
  rcases hFirst with ⟨node, after, hRead, hNode, hAfter⟩
  rcases hMore after hAfter with ⟨nodes, last, hNodes, hItems, hLast⟩
  refine ⟨(itemPlace after, node) :: nodes, last, ?_, ?_, hLast⟩
  · rw [itemAt, hRead]
    dsimp only
    rw [hNodes]
  · rw [Node.bareItems, Document.nodeItems, hNode, hItems]

theorem reads_items_nil
    (first : Bool)
    (hEnd : (skip cursor).rest = ']' :: rest) :
    ReadsItems (items (fuel + 1) depth first cursor) [] rest := by
  refine ⟨[], (skip cursor).next, ?_, rfl, Cursor.next_rest hEnd⟩
  rw [items]
  dsimp only
  rw [hEnd]
  rfl

theorem items_first
    {c : Char}
    {text : List Char}
    (hStart : (skip cursor).rest = c :: text)
    (hStarts : Starts c) :
    items (fuel + 1) depth true cursor =
      itemAt (value fuel depth) (items fuel depth false)
        (skip cursor) := by
  rw [items]
  dsimp only
  rw [hStart]
  split
  all_goals
    rename_i hText
    cases hText
  · exact absurd rfl hStarts.2
  · rw [if_pos rfl]

theorem items_later
    {c : Char}
    {text others : List Char}
    (hComma : (skip cursor).rest = ',' :: others)
    (hStart : (skip (skip cursor).next).rest = c :: text)
    (hStarts : Starts c) :
    items (fuel + 1) depth false cursor =
      itemAt (value fuel depth) (items fuel depth false)
        (skip (skip cursor).next) := by
  rw [items]
  dsimp only
  rw [hComma]
  split
  all_goals
    rename_i hText
    cases hText
  rw [if_neg Bool.false_ne_true, if_pos rfl, hStart]
  split
  · rename_i hText
    cases hText
  · rename_i hText
    cases hText
    exact absurd rfl hStarts.2
  · rfl

end Items

section Entries

variable {key : String}
variable {x : Document}
variable {xs : List (String × Document)}
variable {behind later : List Char}
variable {read : Cursor → Reading}
variable {more : Cursor → EntriesReading}

theorem reads_entryAt
    (hKey : cursor.rest = Document.quote key ++ ':' :: behind)
    (hFirst :
      ∀ next, next.rest = behind → Reads (read next) x later)
    (hMore :
      ∀ after,
        after.rest = later → ReadsEntries (more after) xs rest) :
    ReadsEntries (entryAt read more cursor) ((key, x) :: xs)
      rest := by
  rcases string_quote key hKey with ⟨colon, hString, hColon⟩
  have hSkip : (skip colon).rest = ':' :: behind := by
    rw [skip_rest, hColon]
    rfl
  rcases hFirst (skip colon).next (Cursor.next_rest hSkip) with
    ⟨node, after, hRead, hNode, hAfter⟩
  rcases hMore after hAfter with
    ⟨nodes, last, hNodes, hEntries, hLast⟩
  refine
    ⟨((key, (skip colon).place), (entryPlace after, node)) ::
      nodes, last, ?_, ?_, hLast⟩
  · rw [entryAt, hString]
    dsimp only
    rw [hSkip, hRead]
    dsimp only
    rw [hNodes]
    rfl
  · rw [Node.bareEntries, Document.nodeEntries, hNode, hEntries]

theorem reads_entries_nil
    (first : Bool)
    (hEnd : (skip cursor).rest = '\x7d' :: rest) :
    ReadsEntries (entries (fuel + 1) depth first cursor) []
      rest := by
  refine ⟨[], (skip cursor).next, ?_, rfl, Cursor.next_rest hEnd⟩
  rw [entries]
  dsimp only
  rw [hEnd]
  rfl

theorem entries_first
    {text : List Char}
    (hStart : (skip cursor).rest = '"' :: text) :
    entries (fuel + 1) depth true cursor =
      entryAt (value fuel depth) (entries fuel depth false)
        (skip cursor) := by
  rw [entries]
  dsimp only
  rw [hStart]
  rfl

theorem entries_later
    {text others : List Char}
    (hComma : (skip cursor).rest = ',' :: others)
    (hStart : (skip (skip cursor).next).rest = '"' :: text) :
    entries (fuel + 1) depth false cursor =
      entryAt (value fuel depth) (entries fuel depth false)
        (skip (skip cursor).next) := by
  rw [entries]
  dsimp only
  rw [hComma, hStart]
  rfl

end Entries

theorem reads_array
    {items : List Document}
    {text : List Char}
    (hDepth : 1 < depth)
    (hStart : (skip cursor).rest = '[' :: text)
    (hItems :
      ∀ inside,
        inside.rest = text →
          ReadsItems (Json.items fuel (depth - 1) true inside) items
            rest) :
    Reads (value (fuel + 1) depth cursor) (.array items) rest := by
  rcases hItems (skip cursor).next (Cursor.next_rest hStart) with
    ⟨nodes, after, hRead, hNodes, hAfter⟩
  refine
    ⟨.sequence (skip cursor).place nodes after.place, after, ?_, ?_,
      hAfter⟩
  · rw [value]
    dsimp only
    rw [hStart, hRead]
    exact if_neg (Nat.not_le.mpr hDepth)
  · rw [Node.Spells, Node.bare, hNodes, Document.node]

theorem reads_object
    {entries : List (String × Document)}
    {text : List Char}
    (hDepth : 1 < depth)
    (hStart : (skip cursor).rest = '\x7b' :: text)
    (hEntries :
      ∀ inside,
        inside.rest = text →
          ReadsEntries (Json.entries fuel (depth - 1) true inside)
            entries rest) :
    Reads (value (fuel + 1) depth cursor) (.object entries)
      rest := by
  rcases hEntries (skip cursor).next (Cursor.next_rest hStart) with
    ⟨nodes, after, hRead, hNodes, hAfter⟩
  refine
    ⟨.mapping (skip cursor).place nodes after.place, after, ?_, ?_,
      hAfter⟩
  · rw [value]
    dsimp only
    rw [hStart, hRead]
    exact if_neg (Nat.not_le.mpr hDepth)
  · rw [Node.Spells, Node.bare, hNodes, Document.node]

------------------------------------------------------------
-- Whole Documents
------------------------------------------------------------

theorem goesOn_of_blank
    {c : Char}
    (hBlank : isBlank c = true) :
    goesOn c = false := by
  simp only [isBlank, Bool.or_eq_true, decide_eq_true_iff]
    at hBlank
  rcases hBlank with ((rfl | rfl) | rfl) | rfl
  all_goals rfl

theorem ends_of_blanks
    {blanks : List Char}
    {c : Char}
    (rest : List Char)
    (hBlanks : blanks.all isBlank = true)
    (hFirst : goesOn c = false) :
    Ends (blanks ++ c :: rest) := by
  cases blanks with
  | nil => exact ends_cons rest hFirst
  | cons blank more =>
      apply ends_cons
      exact goesOn_of_blank (List.all_eq_true.mp hBlanks _ (.head _))

/- No number goes on with what follows an item. -/
theorem ends_writeItems
    (xs : List Document) :
    Ends (Document.writeItems spacing level xs ++ rest) := by
  cases xs with
  | nil =>
      rw [Document.writeItems, List.append_assoc]
      exact ends_of_blanks _ (spacing.gap_blank level) rfl
  | cons x xs => exact ends_cons _ rfl

theorem ends_writeEntries
    (xs : List (String × Document)) :
    Ends (Document.writeEntries spacing level xs ++ rest) := by
  cases xs with
  | nil =>
      rw [Document.writeEntries, List.append_assoc]
      exact ends_of_blanks _ (spacing.gap_blank level) rfl
  | cons x xs => exact ends_cons _ rfl

/- A text stands at a point, behind white space. -/
theorem skip_write
    {blanks : List Char}
    {d : Document}
    (hRereads : d.Rereads)
    (hBlanks : blanks.all isBlank = true)
    (hRest :
      cursor.rest = blanks ++ (d.write spacing level ++ rest)) :
    (skip cursor).rest = d.write spacing level ++ rest := by
  rcases write_starts spacing level hRereads with
    ⟨c, more, hText, hStarts⟩
  rw [hText, List.cons_append] at hRest ⊢
  exact skip_rest_of_blanks hRest hBlanks hStarts.1

theorem length_write_pos
    (spacing : Spacing)
    (level : Nat)
    {d : Document}
    (hRereads : d.Rereads) :
    0 < (d.write spacing level).length := by
  rcases write_starts spacing level hRereads with
    ⟨c, more, hText, _⟩
  rw [hText]
  exact Nat.zero_lt_succ _

theorem length_writeItems_pos
    (spacing : Spacing)
    (level : Nat)
    (xs : List Document) :
    0 < (Document.writeItems spacing level xs).length := by
  cases xs with
  | nil =>
      rw [Document.writeItems, List.length_append]
      exact Nat.succ_pos _
  | cons x xs => exact Nat.succ_pos _

theorem length_writeEntries_pos
    (spacing : Spacing)
    (level : Nat)
    (xs : List (String × Document)) :
    0 < (Document.writeEntries spacing level xs).length := by
  cases xs with
  | nil =>
      rw [Document.writeEntries, List.length_append]
      exact Nat.succ_pos _
  | cons x xs => exact Nat.succ_pos _

section Parts

variable {key : String}
variable {x : Document}
variable {later : List Char}
variable (hRereads : x.Rereads)
variable
  (hFirst :
    ∀ start,
      (skip start).rest = x.write spacing (level + 1) ++ later →
        Reads (value fuel depth start) x later)

include hRereads hFirst

theorem reads_firstItem
    {xs : List Document}
    (hMore :
      ∀ after,
        after.rest = later →
          ReadsItems (items fuel depth false after) xs rest)
    (hRest :
      cursor.rest =
        spacing.gap (level + 1) ++
          (x.write spacing (level + 1) ++ later)) :
    ReadsItems (items (fuel + 1) depth true cursor) (x :: xs)
      rest := by
  have hStart :=
    skip_write hRereads (spacing.gap_blank (level + 1)) hRest
  rcases write_starts spacing (level + 1) hRereads with
    ⟨c, more, hText, hStarts⟩
  have hHead : (skip cursor).rest = c :: (more ++ later) := by
    rw [hStart, hText, List.cons_append]
  rw [items_first hHead hStarts]
  refine reads_itemAt (hFirst _ ?_) hMore
  rw [skip_skip_rest, hStart]

theorem reads_laterItem
    {xs : List Document}
    (hMore :
      ∀ after,
        after.rest = later →
          ReadsItems (items fuel depth false after) xs rest)
    (hRest :
      cursor.rest =
        ',' :: (spacing.gap (level + 1) ++
          (x.write spacing (level + 1) ++ later))) :
    ReadsItems (items (fuel + 1) depth false cursor) (x :: xs)
      rest := by
  have hComma := skip_rest_of_first hRest rfl
  have hStart :=
    skip_write hRereads (spacing.gap_blank (level + 1))
      (Cursor.next_rest hComma)
  rcases write_starts spacing (level + 1) hRereads with
    ⟨c, more, hText, hStarts⟩
  have hHead :
      (skip (skip cursor).next).rest = c :: (more ++ later) := by
    rw [hStart, hText, List.cons_append]
  rw [items_later hComma hHead hStarts]
  refine reads_itemAt (hFirst _ ?_) hMore
  rw [skip_skip_rest, hStart]

/- Between the colon of an entry and its value stands white space. -/
theorem reads_behindColon
    {next : Cursor}
    (hRest :
      next.rest =
        spacing.colon ++ (x.write spacing (level + 1) ++ later)) :
    Reads (value fuel depth next) x later :=
  hFirst next (skip_write hRereads spacing.colon_blank hRest)

theorem reads_firstEntry
    {xs : List (String × Document)}
    (hMore :
      ∀ after,
        after.rest = later →
          ReadsEntries (entries fuel depth false after) xs rest)
    (hRest :
      cursor.rest =
        spacing.gap (level + 1) ++
          (Document.quote key ++ ':' :: (spacing.colon ++
            (x.write spacing (level + 1) ++ later)))) :
    ReadsEntries (entries (fuel + 1) depth true cursor)
      ((key, x) :: xs) rest := by
  have hStart :=
    skip_rest_of_blanks hRest (spacing.gap_blank (level + 1)) rfl
  rw [entries_first hStart]
  exact
    reads_entryAt hStart
      (fun _ => reads_behindColon hRereads hFirst) hMore

theorem reads_laterEntry
    {xs : List (String × Document)}
    (hMore :
      ∀ after,
        after.rest = later →
          ReadsEntries (entries fuel depth false after) xs rest)
    (hRest :
      cursor.rest =
        ',' :: (spacing.gap (level + 1) ++
          (Document.quote key ++ ':' :: (spacing.colon ++
            (x.write spacing (level + 1) ++ later))))) :
    ReadsEntries (entries (fuel + 1) depth false cursor)
      ((key, x) :: xs) rest := by
  have hComma := skip_rest_of_first hRest rfl
  have hStart :=
    skip_rest_of_blanks (Cursor.next_rest hComma)
      (spacing.gap_blank (level + 1)) rfl
  rw [entries_later hComma hStart]
  exact
    reads_entryAt hStart
      (fun _ => reads_behindColon hRereads hFirst) hMore

end Parts

mutual

theorem reads_value
    (spacing : Spacing) :
    (d : Document) →
      ∀ {level fuel depth : Nat} {cursor : Cursor}
          {rest : List Char},
        d.Rereads →
          d.depth < depth →
            (d.write spacing level).length ≤ fuel →
              Ends rest →
                (skip cursor).rest =
                    d.write spacing level ++ rest →
                  Reads (value fuel depth cursor) d rest
  | d, level, 0, _, _, _, hRereads, _, hFuel, _, _ => by
      have hPos := length_write_pos spacing level hRereads
      omega
  | .null, _, _ + 1, _, _, _, _, _, _, _, hStart =>
      reads_null hStart
  | .bool b, _, _ + 1, _, _, _, _, _, _, _, hStart =>
      reads_bool b hStart
  | .string s, _, _ + 1, _, _, _, _, _, _, _, hStart =>
      reads_string s hStart
  | .number n, _, _ + 1, _, _, _, hRereads, _, _, hEnds, hStart =>
      reads_number hRereads hEnds hStart
  | .array [], _, fuel + 1, _, _, _, _, hDepth, hFuel, _, hStart => by
      rw [Document.depth] at hDepth
      rw [Document.write] at hFuel
      cases fuel with
      | zero => exact absurd hFuel (by decide)
      | succ fuel =>
          refine reads_array (by omega) hStart fun inside hInside => ?_
          exact reads_items_nil true (skip_rest_of_first hInside rfl)
  | .array (x :: xs), level, fuel + 1, _, _, rest, hRereads, hDepth,
      hFuel, _, hStart => by
      rcases hRereads with ⟨hFirst, hOthers⟩
      have hPos := length_write_pos spacing (level + 1) hFirst
      have hMore := length_writeItems_pos spacing level xs
      simp only [Document.depth, Document.depthItems] at hDepth
      simp only [Document.write, List.length_append,
        List.length_cons] at hFuel
      simp only [Document.write, List.append_assoc,
        List.cons_append] at hStart
      cases fuel with
      | zero => omega
      | succ fuel =>
          refine reads_array (by omega) hStart fun inside hInside => ?_
          refine reads_firstItem hFirst ?_ ?_ hInside
          · intro start hText
            exact
              reads_value spacing x hFirst (by omega) (by omega)
                (ends_writeItems xs) hText
          · intro after hText
            exact
              reads_items spacing xs hOthers (by omega) (by omega)
                hText
  | .object [], _, fuel + 1, _, _, _, _, hDepth, hFuel, _,
      hStart => by
      rw [Document.depth] at hDepth
      rw [Document.write] at hFuel
      cases fuel with
      | zero => exact absurd hFuel (by decide)
      | succ fuel =>
          refine reads_object (by omega) hStart fun inside hInside => ?_
          exact reads_entries_nil true (skip_rest_of_first hInside rfl)
  | .object ((key, x) :: xs), level, fuel + 1, _, _, rest, hRereads,
      hDepth, hFuel, _, hStart => by
      rcases hRereads with ⟨hFirst, hOthers⟩
      have hPos := length_write_pos spacing (level + 1) hFirst
      simp only [Document.depth, Document.depthEntries] at hDepth
      simp only [Document.write, List.length_append,
        List.length_cons] at hFuel
      simp only [Document.write, List.append_assoc,
        List.cons_append] at hStart
      cases fuel with
      | zero => omega
      | succ fuel =>
          refine reads_object (by omega) hStart fun inside hInside => ?_
          refine reads_firstEntry hFirst ?_ ?_ hInside
          · intro start hText
            exact
              reads_value spacing x hFirst (by omega) (by omega)
                (ends_writeEntries xs) hText
          · intro after hText
            exact
              reads_entries spacing xs hOthers (by omega) (by omega)
                hText

theorem reads_items
    (spacing : Spacing) :
    (xs : List Document) →
      ∀ {level fuel depth : Nat} {cursor : Cursor}
          {rest : List Char},
        Document.RereadsItems xs →
          Document.depthItems xs < depth →
            (Document.writeItems spacing level xs).length ≤ fuel →
              cursor.rest =
                  Document.writeItems spacing level xs ++ rest →
                ReadsItems (items fuel depth false cursor) xs rest
  | xs, level, 0, _, _, _, _, _, hFuel, _ => by
      have hPos := length_writeItems_pos spacing level xs
      omega
  | [], level, fuel + 1, _, _, rest, _, _, _, hRest => by
      rw [Document.writeItems, List.append_assoc] at hRest
      exact
        reads_items_nil false
          (skip_rest_of_blanks hRest (spacing.gap_blank level) rfl)
  | x :: xs, level, fuel + 1, _, _, rest, hRereads, hDepth, hFuel,
      hRest => by
      rcases hRereads with ⟨hFirst, hOthers⟩
      rw [Document.depthItems] at hDepth
      simp only [Document.writeItems, List.length_append,
        List.length_cons] at hFuel
      simp only [Document.writeItems, List.append_assoc,
        List.cons_append] at hRest
      refine reads_laterItem hFirst ?_ ?_ hRest
      · intro start hText
        exact
          reads_value spacing x hFirst (by omega) (by omega)
            (ends_writeItems xs) hText
      · intro after hText
        exact
          reads_items spacing xs hOthers (by omega) (by omega) hText

theorem reads_entries
    (spacing : Spacing) :
    (xs : List (String × Document)) →
      ∀ {level fuel depth : Nat} {cursor : Cursor}
          {rest : List Char},
        Document.RereadsEntries xs →
          Document.depthEntries xs < depth →
            (Document.writeEntries spacing level xs).length ≤ fuel →
              cursor.rest =
                  Document.writeEntries spacing level xs ++ rest →
                ReadsEntries (entries fuel depth false cursor) xs
                  rest
  | xs, level, 0, _, _, _, _, _, hFuel, _ => by
      have hPos := length_writeEntries_pos spacing level xs
      omega
  | [], level, fuel + 1, _, _, rest, _, _, _, hRest => by
      rw [Document.writeEntries, List.append_assoc] at hRest
      exact
        reads_entries_nil false
          (skip_rest_of_blanks hRest (spacing.gap_blank level) rfl)
  | (key, x) :: xs, level, fuel + 1, _, _, rest, hRereads, hDepth,
      hFuel, hRest => by
      rcases hRereads with ⟨hFirst, hOthers⟩
      rw [Document.depthEntries] at hDepth
      simp only [Document.writeEntries, List.length_append,
        List.length_cons] at hFuel
      simp only [Document.writeEntries, List.append_assoc,
        List.cons_append] at hRest
      refine reads_laterEntry hFirst ?_ ?_ hRest
      · intro start hText
        exact
          reads_value spacing x hFirst (by omega) (by omega)
            (ends_writeEntries xs) hText
      · intro after hText
        exact
          reads_entries spacing xs hOthers (by omega) (by omega)
            hText

end

end Json

end Automation
