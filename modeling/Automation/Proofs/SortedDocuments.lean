import Automation.Proofs.Nesting
import Mathlib.Data.String.Basic

/-
  Documents whose entries come in the order of their keys.

  An object that is built from parts has its entries in order, and no key
  twice.  A document in which all objects are like that is what it is read
  back as, and everything that is read is such a document.

  Key definitions include:
    * `Table.Sorted`, keys in order
    * `Document.Sorted`, the same for all objects of a document

  Key theorems include:
    * `Table.sorted_ofList` and `Table.ofList_of_sorted`
    * `Table.find?_ofList`, the value under a name
    * `Document.document_node`, a sorted document is read back
    * `Node.sorted_of_document`, what is read is sorted
-/

namespace Automation

------------------------------------------------------------
-- Tables
------------------------------------------------------------

namespace Table

variable {α : Type}
variable {table : Table α}
variable {entries : List (String × α)}
variable {key : String}
variable {value : α}

/- The keys come in order, and none comes twice. -/
def Sorted
    (table : Table α) : Prop :=
  table.Pairwise fun earlier later => earlier.1 < later.1

instance : Decidable (Sorted table) :=
  inferInstanceAs
    (Decidable
      (table.Pairwise fun earlier later => earlier.1 < later.1))

theorem sorted_insert
    (hSorted : Sorted table)
    (key : String)
    (value : α) :
    Sorted (insert key value table) := by
  induction table with
  | nil => exact List.pairwise_singleton _ _
  | cons first rest ih =>
      rcases first with ⟨k, v⟩
      rcases List.pairwise_cons.mp hSorted with ⟨hFirst, hRest⟩
      rw [insert]
      split
      · rename_i hSame
        apply List.pairwise_cons.mpr
        refine ⟨?_, hRest⟩
        intro entry hEntry
        rw [hSame]
        exact hFirst entry hEntry
      · rename_i hNot
        split
        · rename_i hLess
          apply List.pairwise_cons.mpr
          refine ⟨?_, hSorted⟩
          intro entry hEntry
          rcases List.mem_cons.mp hEntry with rfl | hLater
          · exact hLess
          · exact lt_trans hLess (hFirst entry hLater)
        · rename_i hMore
          have hAfter : k < key :=
            lt_of_le_of_ne (not_lt.mp hMore) fun h => hNot h.symm
          apply List.pairwise_cons.mpr
          refine ⟨?_, ih hRest⟩
          intro entry hEntry
          rcases mem_of_mem_insert hEntry with rfl | hLater
          · exact hAfter
          · exact hFirst entry hLater

/- A table that is made of parts has them in order. -/
theorem sorted_ofList
    (entries : List (String × α)) :
    Sorted (ofList entries) := by
  have hFrom :
      ∀ table : Table α,
        Sorted table →
          Sorted
            (entries.foldl
              (fun table entry => insert entry.1 entry.2 table)
              table) := by
    induction entries with
    | nil => exact fun _ hSorted => hSorted
    | cons first rest ih =>
        intro table hSorted
        exact ih _ (sorted_insert hSorted first.1 first.2)
  exact hFrom [] .nil

/- A key behind all others takes the last place. -/
theorem insert_of_lt
    (hLess : ∀ entry ∈ table, entry.1 < key) :
    insert key value table = table ++ [(key, value)] := by
  induction table with
  | nil => rfl
  | cons first rest ih =>
      rcases first with ⟨k, v⟩
      have hFirst : k < key := hLess (k, v) List.mem_cons_self
      rw [insert, if_neg (ne_of_gt hFirst),
        if_neg (not_lt_of_gt hFirst), List.cons_append]
      congr 1
      apply ih
      intro entry hEntry
      exact hLess entry (List.mem_cons_of_mem _ hEntry)

/- A table in order is made of its own entries. -/
theorem ofList_of_sorted
    (hSorted : Sorted table) :
    ofList table = table := by
  have hFrom :
      ∀ before : Table α,
        Sorted (before ++ table) →
          table.foldl
              (fun table entry => insert entry.1 entry.2 table)
              before =
            before ++ table := by
    clear hSorted
    induction table with
    | nil => simp
    | cons first rest ih =>
        intro before hSorted
        have hLess :
            ∀ entry ∈ before, entry.1 < first.1 := by
          intro entry hEntry
          exact
            (List.pairwise_append.mp hSorted).2.2 entry hEntry
              first List.mem_cons_self
        rw [List.foldl_cons, insert_of_lt hLess, ih]
        · simp
        · simpa using hSorted
  exact hFrom [] hSorted

@[simp] theorem find?_nil
    (key : String) :
    find? ([] : Table α) key = none := rfl

@[simp] theorem find?_cons
    (name : String)
    (value : α)
    (rest : Table α)
    (key : String) :
    find? ((name, value) :: rest) key =
      if key = name then some value else find? rest key := rfl

@[simp] theorem find?_append
    (entries others : List (String × α))
    (key : String) :
    find? (entries ++ others) key =
      (find? entries key).or (find? others key) := by
  induction entries with
  | nil => rfl
  | cons first rest ih =>
      rw [List.cons_append, find?, find?]
      split
      · rfl
      · exact ih

/- Of several parts under one name the last one counts. -/
@[simp] theorem find?_ofList
    (entries : List (String × α))
    (key : String) :
    find? (ofList entries) key = find? entries.reverse key := by
  have hFrom :
      ∀ table : Table α,
        find?
            (entries.foldl
              (fun table entry => insert entry.1 entry.2 table)
              table)
            key =
          (find? entries.reverse key).or (find? table key) := by
    induction entries with
    | nil => exact fun _ => rfl
    | cons first rest ih =>
        intro table
        rw [List.foldl_cons, ih, find?_insert,
          List.reverse_cons, find?_append, find?]
        cases find? rest.reverse key with
        | some value => rfl
        | none =>
            by_cases hSame : key = first.1
            · rw [if_pos hSame, if_pos hSame]
              rfl
            · rw [if_neg hSame, if_neg hSame]
              rfl
  have hAll := hFrom []
  rw [find?, Option.or_none] at hAll
  exact hAll

/- What is left of a table in order is in order. -/
theorem sorted_erase
    (hSorted : Sorted table)
    (key : String) :
    Sorted (erase table key) :=
  List.Pairwise.filter _ hSorted

end Table

------------------------------------------------------------
-- Documents
------------------------------------------------------------

namespace Document

mutual

/- The entries of all objects come in order. -/
def Sorted : Document → Prop
  | .array items => SortedItems items
  | .object entries => Table.Sorted entries ∧ SortedEntries entries
  | _ => True

def SortedItems : List Document → Prop
  | [] => True
  | x :: xs => Sorted x ∧ SortedItems xs

def SortedEntries : List (String × Document) → Prop
  | [] => True
  | (_, x) :: xs => Sorted x ∧ SortedEntries xs

end

theorem sortedItems_iff
    {items : List Document} :
    SortedItems items ↔ ∀ item ∈ items, item.Sorted := by
  induction items with
  | nil => simp [SortedItems]
  | cons first rest ih => simp [SortedItems, ih]

theorem sortedEntries_iff
    {entries : List (String × Document)} :
    SortedEntries entries ↔
      ∀ entry ∈ entries, entry.2.Sorted := by
  induction entries with
  | nil => simp [SortedEntries]
  | cons first rest ih =>
      rw [SortedEntries, ih, List.forall_mem_cons]

theorem sorted_array
    {items : List Document} :
    (array items).Sorted ↔ ∀ item ∈ items, item.Sorted := by
  rw [Sorted, sortedItems_iff]

theorem sorted_array_map
    {α : Type}
    {f : α → Document}
    {values : List α} :
    (array (values.map f)).Sorted ↔
      ∀ value ∈ values, (f value).Sorted := by
  rw [sorted_array, List.forall_mem_map]

theorem sorted_object
    {entries : List (String × Document)} :
    (object entries).Sorted ↔
      Table.Sorted entries ∧
        ∀ entry ∈ entries, entry.2.Sorted := by
  rw [Sorted, sortedEntries_iff]

/- An object that is made of sorted parts is sorted. -/
theorem sorted_record
    {entries : List (String × Document)}
    (hEntries : ∀ entry ∈ entries, entry.2.Sorted) :
    (record entries).Sorted := by
  apply sorted_object.mpr
  refine ⟨Table.sorted_ofList entries, ?_⟩
  intro entry hEntry
  exact hEntries entry (Table.mem_of_mem_ofList hEntry)

/- What is under a name of a sorted object is sorted. -/
theorem Sorted.of_entry?
    {d value : Document}
    {name : String}
    (hSorted : d.Sorted)
    (hValue : d.entry? name = some value) :
    value.Sorted := by
  cases d with
  | object entries =>
      exact
        (sorted_object.mp hSorted).2 (name, value)
          (Table.mem_of_find? hValue)
  | null => cases hValue
  | bool b => cases hValue
  | number n => cases hValue
  | string s => cases hValue
  | array items => cases hValue

/- What holds of a part that may be left out. -/
@[simp] theorem forall_mem_entryOf
    {key : String}
    {value? : Option Document}
    {p : String × Document → Prop} :
    (∀ entry ∈ entryOf key value?, p entry) ↔
      ∀ value ∈ value?, p (key, value) := by
  cases value? with
  | none => simp [entryOf]
  | some value => simp [entryOf]

@[simp] theorem sorted_null : null.Sorted := trivial

@[simp] theorem sorted_bool
    (b : Bool) :
    (bool b).Sorted := trivial

@[simp] theorem sorted_number
    (n : Number) :
    (number n).Sorted := trivial

@[simp] theorem sorted_string
    (s : String) :
    (string s).Sorted := trivial

@[simp] theorem sorted_text
    (s : String) :
    (text s).Sorted := trivial

@[simp] theorem sorted_integer
    (i : Int) :
    (integer i).Sorted := trivial

------------------------------------------------------------
-- Documents That Are Read Back
------------------------------------------------------------

mutual

/- A sorted document is read as it is. -/
theorem document_node :
    (d : Document) →
      d.Sorted → d.node.document = .ok d
  | .null, _ => rfl
  | .bool _, _ => rfl
  | .number _, _ => rfl
  | .string _, _ => rfl
  | .array items, hSorted => by
      rw [node, Node.document,
        documentItems_node items hSorted]
      rfl
  | .object entries, hSorted => by
      rw [node, Node.document,
        documentEntries_node entries hSorted.2, Except.map,
        record, Table.ofList_of_sorted hSorted.1]

theorem documentItems_node :
    (items : List Document) →
      SortedItems items →
        Node.documentItems (nodeItems items) = .ok items
  | [], _ => rfl
  | x :: xs, hSorted => by
      rw [nodeItems, Node.documentItems,
        document_node x hSorted.1,
        documentItems_node xs hSorted.2]
      rfl

theorem documentEntries_node :
    (entries : List (String × Document)) →
      SortedEntries entries →
        Node.documentEntries (nodeEntries entries) =
          .ok entries
  | [], _ => rfl
  | (key, x) :: xs, hSorted => by
      rw [nodeEntries, Node.documentEntries,
        document_node x hSorted.1,
        documentEntries_node xs hSorted.2]
      rfl

end

mutual

/- Any document can be read to its end. -/
theorem exists_document_node :
    (d : Document) → ∃ read, d.node.document = .ok read
  | .null => ⟨_, rfl⟩
  | .bool _ => ⟨_, rfl⟩
  | .number _ => ⟨_, rfl⟩
  | .string _ => ⟨_, rfl⟩
  | .array items => by
      rcases exists_documentItems_node items with
        ⟨read, hRead⟩
      rw [node, Node.document, hRead]
      exact ⟨_, rfl⟩
  | .object entries => by
      rcases exists_documentEntries_node entries with
        ⟨read, hRead⟩
      rw [node, Node.document, hRead]
      exact ⟨_, rfl⟩

theorem exists_documentItems_node :
    (items : List Document) →
      ∃ read,
        Node.documentItems (nodeItems items) = .ok read
  | [] => ⟨_, rfl⟩
  | x :: xs => by
      rcases exists_document_node x with ⟨first, hFirst⟩
      rcases exists_documentItems_node xs with ⟨rest, hRest⟩
      rw [nodeItems, Node.documentItems, hFirst, hRest]
      exact ⟨_, rfl⟩

theorem exists_documentEntries_node :
    (entries : List (String × Document)) →
      ∃ read,
        Node.documentEntries (nodeEntries entries) = .ok read
  | [] => ⟨_, rfl⟩
  | (key, x) :: xs => by
      rcases exists_document_node x with ⟨first, hFirst⟩
      rcases exists_documentEntries_node xs with ⟨rest, hRest⟩
      rw [nodeEntries, Node.documentEntries, hFirst, hRest]
      exact ⟨_, rfl⟩

end

theorem readable_node
    (d : Document) :
    d.node.readable = .ok () := by
  rcases exists_document_node d with ⟨read, hRead⟩
  rw [Node.readable, hRead]
  rfl

mutual

/- The node of a document has no places that could be forgotten. -/
theorem bare_node :
    (d : Document) → d.node.bare = d.node
  | .null => rfl
  | .bool _ => rfl
  | .number _ => rfl
  | .string _ => rfl
  | .array items => by
      rw [node, Node.bare, bareItems_node items]
  | .object entries => by
      rw [node, Node.bare, bareEntries_node entries]

theorem bareItems_node :
    (items : List Document) →
      Node.bareItems (nodeItems items) = nodeItems items
  | [] => rfl
  | x :: xs => by
      rw [nodeItems, Node.bareItems, bare_node x,
        bareItems_node xs]

theorem bareEntries_node :
    (entries : List (String × Document)) →
      Node.bareEntries (nodeEntries entries) =
        nodeEntries entries
  | [] => rfl
  | (key, x) :: xs => by
      rw [nodeEntries, Node.bareEntries, bare_node x,
        bareEntries_node xs]

end

mutual

theorem depth_node :
    (d : Document) → d.node.depth = d.depth
  | .null => rfl
  | .bool _ => rfl
  | .number _ => rfl
  | .string _ => rfl
  | .array items => by
      rw [node, Node.depth, depth, depthItems_node items]
  | .object entries => by
      rw [node, Node.depth, depth, depthEntries_node entries]

theorem depthItems_node :
    (items : List Document) →
      Node.depthItems (nodeItems items) = depthItems items
  | [] => rfl
  | x :: xs => by
      rw [nodeItems, Node.depthItems, depthItems, depth_node x,
        depthItems_node xs]

theorem depthEntries_node :
    (entries : List (String × Document)) →
      Node.depthEntries (nodeEntries entries) =
        depthEntries entries
  | [] => rfl
  | (key, x) :: xs => by
      rw [nodeEntries, Node.depthEntries, depthEntries,
        depth_node x, depthEntries_node xs]

end

end Document

------------------------------------------------------------
-- What Is Read
------------------------------------------------------------

namespace Node

mutual

/- Whatever is read as a document is sorted. -/
theorem sorted_of_document :
    (x : Node) →
      ∀ {d : Document}, x.document = .ok d → d.Sorted
  | .scalar _ _ value _, d, hRead => by
      cases hRead
      cases value <;> trivial
  | .sequence _ items _, d, hRead => by
      rw [document] at hRead
      rcases map_eq_ok hRead with ⟨read, hItems, rfl⟩
      exact
        Document.sorted_array.mpr
          (sorted_of_documentItems items hItems)
  | .mapping _ entries _, d, hRead => by
      rw [document] at hRead
      rcases map_eq_ok hRead with ⟨read, hEntries, rfl⟩
      exact
        Document.sorted_record
          (sorted_of_documentEntries entries hEntries)
  | .broken _, d, hRead => by cases hRead

theorem sorted_of_documentItems :
    (items : List Item) →
      ∀ {read : List Document},
        documentItems items = .ok read →
          ∀ d ∈ read, d.Sorted
  | [], read, hRead => by
      cases hRead
      exact nofun
  | (_, x) :: xs, read, hRead => by
      rw [documentItems] at hRead
      cases hFirst : x.document with
      | error fault =>
          rw [hFirst] at hRead
          cases hRead
      | ok first =>
          rw [hFirst] at hRead
          rcases map_eq_ok hRead with ⟨rest, hRest, rfl⟩
          intro d hMember
          rcases List.mem_cons.mp hMember with rfl | hLater
          · exact sorted_of_document x hFirst
          · exact sorted_of_documentItems xs hRest d hLater

theorem sorted_of_documentEntries :
    (entries : List Entry) →
      ∀ {read : List (String × Document)},
        documentEntries entries = .ok read →
          ∀ entry ∈ read, entry.2.Sorted
  | [], read, hRead => by
      cases hRead
      exact nofun
  | ((key, _), (_, x)) :: xs, read, hRead => by
      rw [documentEntries] at hRead
      cases hFirst : x.document with
      | error fault =>
          rw [hFirst] at hRead
          cases hRead
      | ok first =>
          rw [hFirst] at hRead
          rcases map_eq_ok hRead with ⟨rest, hRest, rfl⟩
          intro entry hMember
          rcases List.mem_cons.mp hMember with rfl | hLater
          · exact sorted_of_document x hFirst
          · exact
              sorted_of_documentEntries xs hRest entry hLater

end

end Node

end Automation
