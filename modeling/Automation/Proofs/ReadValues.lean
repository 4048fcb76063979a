import Automation.Decoding.Tagged
import Automation.Proofs.SortedDocuments

/-
  What holds of every value that a decoder reads.

  A property of values is carried from the parts of a document to the
  whole: from fields to a record, from items to a list, and from the
  alternatives to a choice among them.  It does not matter from which form
  of a document the values are read.

  Key definitions include:
    * `Decoder.Gives` and `Record.Gives`

  Key theorems include:
    * `Record.gives_seq` and `Record.gives_map`
    * `Record.gives_field` and `Record.gives_defaulted`
    * `Record.gives_decoder`, a whole record
    * `Decoder.gives_listOf` and `Decoder.gives_tagged`
-/

namespace Automation

------------------------------------------------------------
-- Decoders
------------------------------------------------------------

namespace Decoder

variable {α : Type}
variable {decode : Decoder α}
variable {P : α → Prop}

/- Every value that is read has the property. -/
def Gives
    (decode : Decoder α)
    (P : α → Prop) : Prop :=
  ∀ dialect node a, decode dialect node = .ok a → P a

theorem gives_document :
    document.Gives Document.Sorted :=
  fun _ node _ hRead => node.sorted_of_document hRead

theorem forall_mem_of_items
    {dialect : Dialect}
    {parts : List Item}
    {values : List α}
    (hDecode : decode.Gives P)
    (hRead : items decode dialect parts = .ok values) :
    ∀ a ∈ values, P a := by
  induction parts generalizing values with
  | nil =>
      cases hRead
      exact nofun
  | cons part rest ih =>
      rcases part with ⟨place, x⟩
      rw [items] at hRead
      cases hFirst : located place (decode dialect x) with
      | error fault =>
          rw [hFirst] at hRead
          cases hRead
      | ok first =>
          rw [hFirst] at hRead
          rcases map_eq_ok hRead with ⟨others, hOthers, rfl⟩
          intro a hMember
          rcases List.mem_cons.mp hMember with rfl | hLater
          · exact hDecode dialect x a (located_eq_ok hFirst)
          · exact ih hOthers a hLater

theorem gives_listOf
    (hDecode : decode.Gives P) :
    (listOf decode).Gives fun values => ∀ a ∈ values, P a := by
  intro dialect node values hRead
  unfold listOf at hRead
  split at hRead
  · exact forall_mem_of_items hDecode hRead
  · cases hRead
    exact nofun
  · exact absurd hRead (Node.mismatch_ne_ok _ _ _)

theorem gives_optionally
    (hDecode : decode.Gives P) :
    (optionally decode).Gives fun a? => ∀ a ∈ a?, P a := by
  intro dialect node a? hRead
  rcases optionally_eq_ok hRead with
    ⟨_, _, _, _, rfl⟩ | ⟨a, hA, rfl⟩
  · exact nofun
  · intro b hB
    cases hB
    exact hDecode dialect node a hA

/- A table that is read has its names in order. -/
theorem gives_tableOf
    (decode : Decoder α) :
    (tableOf decode).Gives Table.Sorted := by
  intro dialect node table hRead
  unfold tableOf at hRead
  split at hRead
  · rcases map_eq_ok hRead with ⟨entries, _, rfl⟩
    exact Table.sorted_ofList entries
  · cases hRead
    exact .nil
  · exact absurd hRead (Node.mismatch_ne_ok _ _ _)

end Decoder

------------------------------------------------------------
-- Records
------------------------------------------------------------

namespace Record

variable {α β : Type}
variable {P : α → Prop}
variable {Q : β → Prop}

/- The same for a record, by name and by position. -/
structure Gives
    (record : Record α)
    (P : α → Prop) : Prop where
  named :
    ∀ dialect entries finish a,
      record.named dialect entries finish = .ok a → P a
  placed :
    ∀ dialect expected index items a rest,
      record.placed dialect expected index items =
          .ok (a, rest) →
        P a

theorem gives_any
    (record : Record α) :
    record.Gives fun _ => True :=
  ⟨fun _ _ _ _ _ => trivial,
    fun _ _ _ _ _ _ _ => trivial⟩

/-
  What the first fields ask of the next one, the next one gives.
-/
theorem gives_seq
    {f : Record (α → β)}
    {x : Record α}
    (hF : f.Gives fun g => ∀ a, P a → Q (g a))
    (hX : x.Gives P) :
    (f <*> x).Gives Q where
  named := by
    intro dialect entries finish b hRead
    rcases seq_named_eq_ok hRead with ⟨g, a, hG, hA, rfl⟩
    apply hF.named dialect entries finish g hG
    exact hX.named dialect entries finish a hA
  placed := by
    intro dialect expected index items b rest hRead
    rcases seq_placed_eq_ok hRead with
      ⟨g, a, between, hG, hA, rfl⟩
    apply hF.placed dialect expected index items g between hG
    exact hX.placed dialect expected _ between a rest hA

/- The last field may be any. -/
theorem gives_ignoring
    {f : Record (α → β)}
    {x : Record α}
    (hF : f.Gives fun g => ∀ a, Q (g a)) :
    (f <*> x).Gives Q := by
  apply gives_seq _ (gives_any x)
  constructor
  · intro dialect entries finish g hRead a _
    exact hF.named dialect entries finish g hRead a
  · intro dialect expected index items g rest hRead a _
    exact
      hF.placed dialect expected index items g rest hRead a

theorem gives_map
    {g : α → β}
    {x : Record α}
    (hG : ∀ a, P a → Q (g a))
    (hX : x.Gives P) :
    (g <$> x).Gives Q := by
  apply gives_seq (f := pure g) _ hX
  constructor
  · intro dialect entries finish other hRead
    cases hRead
    exact hG
  · intro dialect expected index items other rest hRead
    cases hRead
    exact hG

/- A field is read as what its decoder gives, or else has its default. -/
theorem gives_field
    {names : List String}
    {decode : Decoder α}
    {absent : Place → Except Fault α}
    {short : Nat → String → Except Fault α}
    (hDecode : decode.Gives P)
    (hAbsent : ∀ finish a, absent finish = .ok a → P a)
    (hShort :
      ∀ index expected a, short index expected = .ok a → P a) :
    (field names decode absent short).Gives P where
  named := by
    intro dialect entries finish a hRead
    rcases field_named_eq_ok hRead with
      ⟨rank, place, x, _, hPart⟩ | ⟨_, hDefault⟩
    · exact hDecode dialect x a hPart
    · exact hAbsent finish a hDefault
  placed := by
    intro dialect expected index items a rest hRead
    rcases field_placed_eq_ok hRead with
      ⟨place, x, _, hPart⟩ | ⟨_, _, hDefault⟩
    · exact hDecode dialect x a hPart
    · exact hShort index expected a hDefault

theorem gives_defaulted
    {decode : Decoder α}
    {value : α}
    (names : List String)
    (hDecode : decode.Gives P)
    (hValue : P value) :
    (defaulted names decode value).Gives P := by
  apply gives_field hDecode
  · intro finish a hAbsent
    cases hAbsent
    exact hValue
  · intro index expected a hShort
    cases hShort
    exact hValue

theorem gives_optional
    {decode : Decoder α}
    (names : List String)
    (hDecode : decode.Gives P) :
    (optional names decode).Gives fun a? => ∀ a ∈ a?, P a :=
  gives_defaulted names (Decoder.gives_optionally hDecode) nofun

theorem gives_decoder
    {record : Record α}
    (type : String)
    (hRecord : record.Gives P) :
    (record.decoder type).Gives P := by
  intro dialect node a hRead
  rcases decoder_eq_ok hRead with
    ⟨start, entries, finish, _, hNamed⟩ |
      ⟨start, items, finish, expected, _, hPlaced⟩ |
        ⟨start, place, _, hNamed⟩
  · exact hRecord.named dialect entries finish a hNamed
  · exact hRecord.placed dialect expected 0 items a [] hPlaced
  · exact hRecord.named dialect [] place a hNamed

end Record

------------------------------------------------------------
-- Alternatives
------------------------------------------------------------

namespace Decoder

variable {α : Type}
variable {P : α → Prop}

theorem choose_eq_ok
    {known : List (String × α)}
    {name : String}
    {a : α}
    (hChoose : choose known name = .ok a) :
    ∃ entry ∈ known, entry.2 = a := by
  unfold choose at hChoose
  split at hChoose
  · rename_i hKnown
    cases hChoose
    rcases List.lookup_eq_some_iff.mp hKnown with
      ⟨before, after, hSplit, _⟩
    refine ⟨(name, a), ?_, rfl⟩
    rw [hSplit]
    exact List.mem_append_right before List.mem_cons_self
  · cases hChoose

/- A tag stands for one of the known alternatives. -/
theorem tagName_eq_ok
    {known : List (String × α)}
    {dialect : Dialect}
    {node : Node}
    {a : α}
    (hTag : tagName known dialect node = .ok a) :
    ∃ entry ∈ known, entry.2 = a := by
  unfold tagName at hTag
  split at hTag
  · split at hTag
    · cases hTag
    · split at hTag
      · rename_i name other hKnown
        cases hTag
        exact ⟨(name, a), List.mem_of_getElem? hKnown, rfl⟩
      · cases hTag
  · exact choose_eq_ok (located_eq_ok hTag)
  · exact choose_eq_ok (located_eq_ok hTag)
  · exact absurd hTag (Node.mismatch_ne_ok _ _ _)

theorem setAside_eq_ok
    {tag : String}
    {known : List (String × α)}
    {dialect : Dialect}
    {entries others : List Entry}
    {found result : Option α}
    (hFound :
      ∀ a, found = some a → ∃ entry ∈ known, entry.2 = a)
    (hRead :
      setAside tag known dialect found entries =
        .ok (result, others)) :
    ∀ a, result = some a → ∃ entry ∈ known, entry.2 = a := by
  induction entries generalizing found others with
  | nil =>
      cases hRead
      exact hFound
  | cons first rest ih =>
      rcases first with ⟨⟨key, keyPlace⟩, ⟨place, x⟩⟩
      rw [setAside] at hRead
      dsimp only at hRead
      split at hRead
      · split at hRead
        · cases hRead
        · split at hRead
          · cases hRead
          · rename_i a hTag
            refine ih ?_ hRead
            intro b hSome
            cases hSome
            exact tagName_eq_ok (located_eq_ok hTag)
      · split at hRead
        · cases hRead
        · rcases map_eq_ok hRead with
            ⟨⟨inner, behind⟩, hRest, hPair⟩
          cases hPair
          exact ih hFound hRest

theorem readAside_eq_ok
    {decode : Decoder α}
    {node : Node}
    {a : α}
    (hRead : readAside decode node = .ok a) :
    decode .buffered node.bare = .ok a := by
  unfold readAside at hRead
  split at hRead
  · cases hRead
  · rename_i b hDecode
    cases hRead
    exact hDecode

/- What all alternatives give, their choice gives. -/
theorem gives_tagged
    {known : List (String × Decoder α)}
    (type tag : String)
    (hKnown : ∀ entry ∈ known, entry.2.Gives P) :
    (tagged type tag known).Gives P := by
  have hAside :
      ∀ {decode : Decoder α} {node a},
        (∃ entry ∈ known, entry.2 = decode) →
          readAside decode node = .ok a →
            P a := by
    rintro _ node a ⟨entry, hEntry, rfl⟩ hRead
    exact
      hKnown entry hEntry .buffered node.bare a
        (readAside_eq_ok hRead)
  intro dialect node a hRead
  unfold tagged at hRead
  split at hRead
  · split at hRead
    · cases hRead
    · cases hRead
    · rename_i decode others hSet
      have hNone :
          ∀ other : Decoder α,
            none = some other →
              ∃ entry ∈ known, entry.2 = other := nofun
      refine hAside ?_ hRead
      exact setAside_eq_ok hNone hSet decode rfl
  · split at hRead
    · cases hRead
    · dsimp only at hRead
      split at hRead
      · cases hRead
      · rename_i decode hTag
        split at hRead
        · cases hRead
        · refine hAside ?_ hRead
          exact tagName_eq_ok (located_eq_ok hTag)
  · exact absurd hRead (Node.mismatch_ne_ok _ _ _)

end Decoder

end Automation
