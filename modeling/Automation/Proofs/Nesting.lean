import Automation.Engine.Dispatch
import Automation.Proofs.Records

/-
  How deeply documents are nested, and what is read from them.

  Filling templates leaves the nesting alone.  What is read from a document
  is read from the documents directly inside it, and no more deeply nested
  than these.

  Key definitions include:
    * `Document.under?`, the part of a document that states a field

  Key theorems include:
    * `Document.depth_fill` and `Document.depth_fillBranchConfig`
    * `Record.decoder_node_eq_ok`, a record read from a document
    * `Action.depth_config_lt`, an action lies around its configuration
-/

namespace Automation

namespace Document

------------------------------------------------------------
-- Depth
------------------------------------------------------------

theorem depth_le_depthItems
    {items : List Document}
    {item : Document}
    (hItem : item ∈ items) :
    item.depth ≤ depthItems items := by
  induction items with
  | nil => cases hItem
  | cons first rest ih =>
      rcases List.mem_cons.mp hItem with rfl | hRest
      · exact Nat.le_max_left _ _
      · exact Nat.le_trans (ih hRest) (Nat.le_max_right _ _)

theorem depth_le_depthEntries
    {entries : List (String × Document)}
    {entry : String × Document}
    (hEntry : entry ∈ entries) :
    entry.2.depth ≤ depthEntries entries := by
  induction entries with
  | nil => cases hEntry
  | cons first rest ih =>
      rcases List.mem_cons.mp hEntry with rfl | hRest
      · exact Nat.le_max_left _ _
      · exact Nat.le_trans (ih hRest) (Nat.le_max_right _ _)

theorem depthEntries_le
    {entries : List (String × Document)}
    {bound : Nat}
    (hEntries :
      ∀ entry ∈ entries, entry.2.depth ≤ bound) :
    depthEntries entries ≤ bound := by
  induction entries with
  | nil => exact Nat.zero_le _
  | cons first rest ih =>
      refine Nat.max_le.mpr ⟨?_, ?_⟩
      · exact hEntries first List.mem_cons_self
      · exact ih fun entry hEntry =>
          hEntries entry (List.mem_cons_of_mem _ hEntry)

------------------------------------------------------------
-- Filling Templates
------------------------------------------------------------

mutual

theorem depth_fill
    (context : Context) :
    (d : Document) →
      (d.fill context).depth = d.depth
  | .null => rfl
  | .bool _ => rfl
  | .number _ => rfl
  | .string _ => rfl
  | .array items => by
      simp only [fill, depth]
      rw [depth_fillItems context items]
  | .object entries => by
      simp only [fill, depth]
      rw [depth_fillEntries context entries]

theorem depth_fillItems
    (context : Context) :
    (items : List Document) →
      depthItems (fillItems context items) = depthItems items
  | [] => rfl
  | x :: xs => by
      simp only [fillItems, depthItems]
      rw [depth_fill context x, depth_fillItems context xs]

theorem depth_fillEntries
    (context : Context) :
    (entries : List (String × Document)) →
      depthEntries (fillEntries context entries) =
        depthEntries entries
  | [] => rfl
  | (key, x) :: xs => by
      simp only [fillEntries, depthEntries]
      rw [depth_fill context x, depth_fillEntries context xs]

end

theorem getElem?_fillItems
    (context : Context)
    (items : List Document)
    (position : Nat) :
    (fillItems context items)[position]? =
      items[position]?.map (·.fill context) := by
  induction items generalizing position with
  | nil => rfl
  | cons first rest ih =>
      cases position with
      | zero => rfl
      | succ position => simpa [fillItems] using ih position

/- The configuration of a branch keeps its depth as well. -/
theorem depth_fillBranchConfig
    (context : Context)
    (config : Document) :
    (Engine.fillBranchConfig context config).depth =
      config.depth := by
  cases config with
  | object entries =>
      simp only [Engine.fillBranchConfig, depth]
      congr 1
      induction entries with
      | nil => rfl
      | cons first rest ih =>
          rw [List.map_cons]
          simp only [depthEntries]
          rw [ih]
          split
          · rfl
          · rw [depth_fill]
  | null => rfl
  | bool value => rfl
  | number value => rfl
  | string value => rfl
  | array items => exact depth_fill context (.array items)

------------------------------------------------------------
-- Documents As Nodes
------------------------------------------------------------

mutual

/- A document is read back no more deeply nested. -/
theorem depth_document_node :
    (d : Document) →
      ∀ {result : Document},
        d.node.document = .ok result → result.depth ≤ d.depth
  | .null, _, hRead => by
      cases hRead
      exact Nat.le_refl _
  | .bool _, _, hRead => by
      cases hRead
      exact Nat.le_refl _
  | .number _, _, hRead => by
      cases hRead
      exact Nat.le_refl _
  | .string _, _, hRead => by
      cases hRead
      exact Nat.le_refl _
  | .array items, result, hRead => by
      simp only [node, Node.document] at hRead
      cases hItems : Node.documentItems (nodeItems items) with
      | error fault =>
          rw [hItems] at hRead
          cases hRead
      | ok read =>
          rw [hItems] at hRead
          cases hRead
          exact Nat.succ_le_succ
            (depth_documentItems_node items hItems)
  | .object entries, result, hRead => by
      simp only [node, Node.document] at hRead
      cases hEntries :
          Node.documentEntries (nodeEntries entries) with
      | error fault =>
          rw [hEntries] at hRead
          cases hRead
      | ok read =>
          rw [hEntries] at hRead
          cases hRead
          refine Nat.succ_le_succ ?_
          apply depthEntries_le
          intro entry hEntry
          exact Nat.le_trans
            (depth_le_depthEntries
              (Table.mem_of_mem_ofList hEntry))
            (depth_documentEntries_node entries hEntries)

theorem depth_documentItems_node :
    (items : List Document) →
      ∀ {read : List Document},
        Node.documentItems (nodeItems items) = .ok read →
          depthItems read ≤ depthItems items
  | [], _, hRead => by
      cases hRead
      exact Nat.le_refl _
  | x :: xs, read, hRead => by
      simp only [nodeItems, Node.documentItems] at hRead
      cases hFirst : x.node.document with
      | error fault =>
          rw [hFirst] at hRead
          cases hRead
      | ok first =>
          rw [hFirst] at hRead
          cases hRest :
              Node.documentItems (nodeItems xs) with
          | error fault =>
              rw [hRest] at hRead
              cases hRead
          | ok rest =>
              rw [hRest] at hRead
              cases hRead
              have hX := depth_document_node x hFirst
              have hXs := depth_documentItems_node xs hRest
              simp only [depthItems]
              omega

theorem depth_documentEntries_node :
    (entries : List (String × Document)) →
      ∀ {read : List (String × Document)},
        Node.documentEntries (nodeEntries entries) =
            .ok read →
          depthEntries read ≤ depthEntries entries
  | [], _, hRead => by
      cases hRead
      exact Nat.le_refl _
  | (key, x) :: xs, read, hRead => by
      simp only [nodeEntries, Node.documentEntries] at hRead
      cases hFirst : x.node.document with
      | error fault =>
          rw [hFirst] at hRead
          cases hRead
      | ok first =>
          rw [hFirst] at hRead
          cases hRest :
              Node.documentEntries (nodeEntries xs) with
          | error fault =>
              rw [hRest] at hRead
              cases hRead
          | ok rest =>
              rw [hRest] at hRead
              cases hRead
              have hX := depth_document_node x hFirst
              have hXs := depth_documentEntries_node xs hRest
              simp only [depthEntries]
              omega

end

theorem nodeEntries_eq_map
    (entries : List (String × Document)) :
    nodeEntries entries =
      entries.map fun entry =>
        ((entry.1, .nowhere), (.nowhere, entry.2.node)) := by
  induction entries with
  | nil => rfl
  | cons first rest ih => rw [nodeEntries, ih, List.map_cons]

/- The value of the first entry under one of some names. -/
def under?
    (names : List String)
    (entries : List (String × Document)) :
    Option Document :=
  (entries.find? fun entry => names.contains entry.1).map
    (·.2)

theorem depth_le_of_under?
    {names : List String}
    {entries : List (String × Document)}
    {value : Document}
    (hValue : under? names entries = some value) :
    value.depth ≤ depthEntries entries := by
  rcases Option.map_eq_some_iff.mp hValue with
    ⟨entry, hFind, rfl⟩
  exact depth_le_depthEntries (List.mem_of_find?_eq_some hFind)

end Document

------------------------------------------------------------
-- Records Read From Documents
------------------------------------------------------------

namespace Record

variable {α : Type}
variable {dialect : Dialect}

/- Positions play no part in which entry is found. -/
theorem find?_zipIdx
    {p : Entry → Bool}
    (entries : List Entry)
    (offset : Nat) :
    ((entries.zipIdx offset).find? fun (entry, _) =>
        p entry).map (·.1) =
      entries.find? p := by
  induction entries generalizing offset with
  | nil => rfl
  | cons first rest ih =>
      rw [List.zipIdx_cons, List.find?_cons, List.find?_cons]
      dsimp only
      cases p first with
      | true => rfl
      | false => exact ih (offset + 1)

theorem map_find?
    {β : Type}
    (f : Node → β)
    (names : List String)
    (entries : List Entry) :
    (find? names entries).map (fun found => f found.2.2) =
      (entries.find? fun entry =>
        names.contains entry.1.1).map
          fun entry => f entry.2.2 := by
  rw [← find?_zipIdx entries 0]
  simp only [find?, Option.map_map]
  rfl

/- A field of a document is read from the value under its names. -/
theorem find?_nodeEntries
    (names : List String)
    (entries : List (String × Document)) :
    (find? names (Document.nodeEntries entries)).map
        (fun found => found.2.2) =
      (Document.under? names entries).map (·.node) := by
  rw [map_find? (fun node => node), Document.nodeEntries_eq_map,
    List.find?_map, Document.under?]
  simp only [Option.map_map]
  rfl

/- A record is read from an object, or from an array it uses up. -/
theorem decoder_node_eq_ok
    {type : String}
    {record : Record α}
    {d : Document}
    {a : α}
    (hRead : record.decoder type dialect d.node = .ok a) :
    (∃ entries,
      d = .object entries ∧
        record.named dialect (Document.nodeEntries entries)
          .nowhere = .ok a) ∨
      (∃ items expected,
        d = .array items ∧
          record.placed dialect expected 0
            (Document.nodeItems items) = .ok (a, [])) := by
  rcases decoder_eq_ok hRead with
    ⟨start, entries, finish, hNode, hNamed⟩ |
      ⟨start, items, finish, expected, hNode, hPlaced⟩ |
        ⟨start, place, hNode, _⟩
  · cases d <;> cases hNode
    exact Or.inl ⟨_, rfl, hNamed⟩
  · cases d <;> cases hNode
    exact Or.inr ⟨_, expected, rfl, hPlaced⟩
  · cases d <;> cases hNode

section Field

variable {names : List String}
variable {decode : Decoder α}
variable {absent : Place → Except Fault α}
variable {short : Nat → String → Except Fault α}
variable {a : α}

theorem field_nodeEntries_eq_ok
    {entries : List (String × Document)}
    {finish : Place}
    (hRead :
      (field names decode absent short).named dialect
        (Document.nodeEntries entries) finish = .ok a) :
    (∃ value,
      Document.under? names entries = some value ∧
        decode dialect value.node = .ok a) ∨
      (Document.under? names entries = none ∧
        absent finish = .ok a) := by
  have hUnder := find?_nodeEntries names entries
  rcases field_named_eq_ok hRead with
    ⟨rank, place, x, hFind, hDecode⟩ | ⟨hFind, hAbsent⟩
  · rw [hFind] at hUnder
    rcases Option.map_eq_some_iff.mp hUnder.symm with
      ⟨value, hValue, hNode⟩
    refine Or.inl ⟨value, hValue, ?_⟩
    rw [hNode]
    exact hDecode
  · rw [hFind] at hUnder
    exact Or.inr
      ⟨Option.map_eq_none_iff.mp hUnder.symm, hAbsent⟩

theorem field_nodeItems_eq_ok
    {items : List Document}
    {rest : List Item}
    {expected : String}
    {index : Nat}
    (hRead :
      (field names decode absent short).placed dialect expected
        index (Document.nodeItems items) = .ok (a, rest)) :
    rest = Document.nodeItems items.tail ∧
      ((∃ value,
        items.head? = some value ∧
          decode dialect value.node = .ok a) ∨
        (items.head? = none ∧
          short index expected = .ok a)) := by
  rcases field_placed_eq_ok hRead with
    ⟨place, x, hItems, hDecode⟩ | ⟨hItems, hRest, hShort⟩
  · cases items with
    | nil => cases hItems
    | cons first others =>
        cases hItems
        exact ⟨rfl, Or.inl ⟨first, rfl, hDecode⟩⟩
  · cases items with
    | nil => exact ⟨hRest, Or.inr ⟨rfl, hShort⟩⟩
    | cons first others => cases hItems

end Field

end Record

------------------------------------------------------------
-- Actions
------------------------------------------------------------

namespace Action

/- An action is written around its configuration. -/
theorem depth_config_lt
    {dialect : Dialect}
    {d : Document}
    {action : Action}
    (hRead : Action.decoder dialect d.node = .ok action) :
    action.config.depth < d.depth := by
  rcases Record.decoder_node_eq_ok hRead with
    ⟨entries, rfl, hNamed⟩ | ⟨items, expected, rfl, hPlaced⟩
  · rcases Record.seq_named_eq_ok hNamed with
      ⟨_, target?, hHandled, _, rfl⟩
    rcases Record.seq_named_eq_ok hHandled with
      ⟨_, strategy, hConfigured, _, rfl⟩
    rcases Record.seq_named_eq_ok hConfigured with
      ⟨_, config, hTyped, hConfig, rfl⟩
    rcases Record.seq_named_eq_ok hTyped with
      ⟨_, type, hBegun, _, rfl⟩
    rcases Record.map_named_eq_ok hBegun with ⟨id, _, rfl⟩
    apply Nat.lt_succ_of_le
    rcases Record.field_nodeEntries_eq_ok hConfig with
      ⟨value, hValue, hRead⟩ | ⟨_, hAbsent⟩
    · exact Nat.le_trans
        (Document.depth_document_node value hRead)
        (Document.depth_le_of_under? hValue)
    · cases hAbsent
      exact Nat.zero_le _
  · rcases Record.seq_placed_eq_ok hPlaced with
      ⟨_, target?, _, hHandled, _, rfl⟩
    rcases Record.seq_placed_eq_ok hHandled with
      ⟨_, strategy, _, hConfigured, _, rfl⟩
    rcases Record.seq_placed_eq_ok hConfigured with
      ⟨_, config, _, hTyped, hConfig, rfl⟩
    rcases Record.seq_placed_eq_ok hTyped with
      ⟨_, type, _, hBegun, hType, rfl⟩
    rcases Record.map_placed_eq_ok hBegun with ⟨id, hId, rfl⟩
    have hAfterId := (Record.field_nodeItems_eq_ok hId).1
    subst hAfterId
    have hAfterType := (Record.field_nodeItems_eq_ok hType).1
    subst hAfterType
    apply Nat.lt_succ_of_le
    rcases (Record.field_nodeItems_eq_ok hConfig).2 with
      ⟨value, hValue, hRead⟩ | ⟨_, hShort⟩
    · have hItem : value ∈ items :=
        List.mem_of_mem_tail
          (List.mem_of_mem_tail (List.mem_of_mem_head? hValue))
      exact Nat.le_trans
        (Document.depth_document_node value hRead)
        (Document.depth_le_depthItems hItem)
    · cases hShort
      exact Nat.zero_le _

end Action

end Automation
