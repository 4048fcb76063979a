import Automation.Decoding.Record

/-
  What is known of a record that was read.

  A record put together from fields is read when each field is.  Among the
  entries of a mapping a field is read from the first entry under one of
  its names, and in a sequence from the item at its position.

  Key theorems include:
    * `Record.decoder_eq_ok`, the two forms of a record
    * `Record.seq_named_eq_ok` and `Record.seq_placed_eq_ok`
    * `Record.field_named_eq_ok` and `Record.field_placed_eq_ok`
-/

namespace Automation

theorem map_eq_ok
    {ε α β : Type}
    {f : α → β}
    {result : Except ε α}
    {b : β}
    (hMap : result.map f = .ok b) :
    ∃ a, result = .ok a ∧ b = f a := by
  cases result with
  | error fault => cases hMap
  | ok a =>
      cases hMap
      exact ⟨a, rfl, rfl⟩

theorem located_eq_ok
    {α : Type}
    {place : Place}
    {result : Except Fault α}
    {a : α}
    (hResult : located place result = .ok a) :
    result = .ok a := by
  cases result with
  | ok other => exact hResult
  | error fault =>
      rcases fault with ⟨cause, other⟩
      cases other <;> cases hResult

theorem Node.mismatch_ne_ok
    {α : Type}
    (node : Node)
    (expected : String)
    (a : α) :
    node.mismatch expected ≠ .ok a := by
  cases node <;> simp [Node.mismatch]

/- An optional part is null, or read as what it is. -/
theorem Decoder.optionally_eq_ok
    {α : Type}
    {decode : Decoder α}
    {dialect : Dialect}
    {node : Node}
    {result : Option α}
    (hRead : optionally decode dialect node = .ok result) :
    (∃ start place spelling,
      node = .scalar start place .null spelling ∧
        result = none) ∨
      ∃ a, decode dialect node = .ok a ∧ result = some a := by
  unfold optionally at hRead
  split at hRead
  · cases hRead
    exact Or.inl ⟨_, _, _, rfl, rfl⟩
  · cases hNode : decode dialect node with
    | error fault =>
        rw [hNode] at hRead
        cases hRead
    | ok a =>
        rw [hNode] at hRead
        cases hRead
        exact Or.inr ⟨a, rfl, rfl⟩

namespace Record

variable {α β : Type}
variable {dialect : Dialect}

------------------------------------------------------------
-- Records Put Together
------------------------------------------------------------

theorem seq_named_eq_ok
    {f : Record (α → β)}
    {x : Record α}
    {entries : List Entry}
    {finish : Place}
    {b : β}
    (hRead : (f <*> x).named dialect entries finish = .ok b) :
    ∃ g a,
      f.named dialect entries finish = .ok g ∧
        x.named dialect entries finish = .ok a ∧
        b = g a := by
  change
    Ranked.both (f.named dialect entries finish)
      (x.named dialect entries finish) = .ok b at hRead
  cases hFirst : f.named dialect entries finish with
  | error fault =>
      rw [hFirst] at hRead
      cases hLater : x.named dialect entries finish <;>
        simp [Ranked.both, hLater] at hRead
  | ok g =>
      cases hLater : x.named dialect entries finish with
      | error fault =>
          simp [Ranked.both, hFirst, hLater] at hRead
      | ok a =>
          rw [hFirst, hLater] at hRead
          cases hRead
          exact ⟨g, a, rfl, rfl, rfl⟩

theorem map_named_eq_ok
    {g : α → β}
    {x : Record α}
    {entries : List Entry}
    {finish : Place}
    {b : β}
    (hRead : (g <$> x).named dialect entries finish = .ok b) :
    ∃ a,
      x.named dialect entries finish = .ok a ∧ b = g a := by
  have hSeq :
      ((Record.pure g) <*> x).named dialect entries finish =
        .ok b := hRead
  rcases seq_named_eq_ok hSeq with ⟨other, a, hG, hX, hB⟩
  cases hG
  exact ⟨a, hX, hB⟩

theorem seq_placed_eq_ok
    {f : Record (α → β)}
    {x : Record α}
    {expected : String}
    {index : Nat}
    {items rest : List Item}
    {b : β}
    (hRead :
      (f <*> x).placed dialect expected index items =
        .ok (b, rest)) :
    ∃ g a between,
      f.placed dialect expected index items =
          .ok (g, between) ∧
        x.placed dialect expected (index + f.fields.length)
            between = .ok (a, rest) ∧
        b = g a := by
  simp only [Seq.seq, seq] at hRead
  cases hFirst : f.placed dialect expected index items with
  | error fault => simp [hFirst] at hRead
  | ok first =>
      simp only [hFirst] at hRead
      cases hLater :
          x.placed dialect expected (index + f.fields.length)
            first.2 with
      | error fault => simp [hLater, Except.map] at hRead
      | ok later =>
          simp only [hLater, Except.map] at hRead
          cases hRead
          exact ⟨first.1, later.1, first.2, rfl, hLater, rfl⟩

theorem map_placed_eq_ok
    {g : α → β}
    {x : Record α}
    {expected : String}
    {index : Nat}
    {items rest : List Item}
    {b : β}
    (hRead :
      (g <$> x).placed dialect expected index items =
        .ok (b, rest)) :
    ∃ a,
      x.placed dialect expected index items = .ok (a, rest) ∧
        b = g a := by
  have hSeq :
      ((Record.pure g) <*> x).placed dialect expected index
        items = .ok (b, rest) := hRead
  rcases seq_placed_eq_ok hSeq with
    ⟨other, a, between, hG, hX, hB⟩
  cases hG
  exact ⟨a, hX, hB⟩

------------------------------------------------------------
-- Fields
------------------------------------------------------------

section Field

variable {names : List String}
variable {decode : Decoder α}
variable {absent : Place → Except Fault α}
variable {short : Nat → String → Except Fault α}
variable {a : α}

/- A field is read from an entry, or given when there is none. -/
theorem field_named_eq_ok
    {entries : List Entry}
    {finish : Place}
    (hRead :
      (field names decode absent short).named dialect entries
        finish = .ok a) :
    (∃ rank place x,
      find? names entries = some (rank, (place, x)) ∧
        decode dialect x = .ok a) ∨
      (find? names entries = none ∧
        absent finish = .ok a) := by
  simp only [field] at hRead
  cases hFind : find? names entries with
  | none =>
      rw [hFind] at hRead
      refine Or.inr ⟨rfl, ?_⟩
      cases hAbsent : absent finish with
      | error fault =>
          simp [Ranked.ofEntry, hAbsent] at hRead
      | ok b =>
          simp only [Ranked.ofEntry, hAbsent] at hRead
          cases hRead
          rfl
  | some found =>
      rcases found with ⟨rank, place, x⟩
      rw [hFind] at hRead
      refine Or.inl ⟨rank, place, x, rfl, ?_⟩
      cases hLocated : located place (decode dialect x) with
      | error fault =>
          simp [Ranked.ofEntry, hLocated] at hRead
      | ok b =>
          simp only [Ranked.ofEntry, hLocated] at hRead
          cases hRead
          exact located_eq_ok hLocated

/- A field is read from the next item, or given when there is none. -/
theorem field_placed_eq_ok
    {expected : String}
    {index : Nat}
    {items rest : List Item}
    (hRead :
      (field names decode absent short).placed dialect expected
        index items = .ok (a, rest)) :
    (∃ place x,
      items = (place, x) :: rest ∧
        decode dialect x = .ok a) ∨
      (items = [] ∧ rest = [] ∧
        short index expected = .ok a) := by
  simp only [field] at hRead
  cases items with
  | nil =>
      dsimp only at hRead
      cases hShort : short index expected with
      | error fault =>
          rw [hShort] at hRead
          cases hRead
      | ok b =>
          rw [hShort] at hRead
          cases hRead
          exact Or.inr ⟨rfl, rfl, rfl⟩
  | cons item others =>
      dsimp only at hRead
      cases hLocated :
          located item.1 (decode dialect item.2) with
      | error fault =>
          rw [hLocated] at hRead
          cases hRead
      | ok b =>
          rw [hLocated] at hRead
          cases hRead
          exact Or.inl
            ⟨item.1, item.2, rfl, located_eq_ok hLocated⟩

end Field

------------------------------------------------------------
-- Whole Records
------------------------------------------------------------

theorem ofEntries_eq_ok
    {record : Record α}
    {entries : List Entry}
    {finish : Place}
    {a : α}
    (hRead :
      record.ofEntries dialect entries finish = .ok a) :
    record.named dialect entries finish = .ok a := by
  unfold ofEntries at hRead
  dsimp only at hRead
  cases hScan : scan record.fields 0 [] entries with
  | error fault =>
      cases hNamed : record.named dialect entries finish <;>
        simp [Ranked.both, hScan, hNamed, Except.map] at hRead
  | ok _ =>
      cases hNamed : record.named dialect entries finish with
      | error fault =>
          simp [Ranked.both, hScan, hNamed, Except.map]
            at hRead
      | ok b =>
          simp only [Ranked.both, hScan, hNamed, Except.map]
            at hRead
          cases hRead
          rfl

/-
  A record is read from a mapping, from a sequence that it uses up, or from
  a part that was left blank.
-/
theorem decoder_eq_ok
    {type : String}
    {record : Record α}
    {node : Node}
    {a : α}
    (hRead : record.decoder type dialect node = .ok a) :
    (∃ start entries finish,
      node = .mapping start entries finish ∧
        record.named dialect entries finish = .ok a) ∨
      (∃ start items finish expected,
        node = .sequence start items finish ∧
          record.placed dialect expected 0 items =
            .ok (a, [])) ∨
      (∃ start place,
        node = .scalar start place .null (some "") ∧
          record.named dialect [] place = .ok a) := by
  unfold decoder at hRead
  split at hRead
  · exact Or.inl ⟨_, _, _, rfl, ofEntries_eq_ok hRead⟩
  · exact Or.inr (Or.inr ⟨_, _, rfl, ofEntries_eq_ok hRead⟩)
  · rename_i start items finish
    dsimp only at hRead
    split at hRead
    · exact absurd (located_eq_ok hRead) (by simp)
    · rename_i b hPlaced
      cases hRead
      exact Or.inr
        (Or.inl ⟨start, items, finish, _, rfl, hPlaced⟩)
    · exact absurd (located_eq_ok hRead) (by simp)
  · exact absurd hRead (Node.mismatch_ne_ok _ _ _)

end Record

end Automation
