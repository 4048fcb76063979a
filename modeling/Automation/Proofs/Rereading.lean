import Automation.Decoding.Tagged
import Automation.Proofs.SortedDocuments

/-
  Values that are read back from the documents they are written as.

  A decoder reads a value from a document when it does so in every dialect,
  wherever the parts of the document stand.  Which entry of an object a
  field is read from is a matter of its name alone, so a record is read
  back field by field.

  Key definitions include:
    * `Node.Spells`, a node that is a document but for its places
    * `Decoder.Reads`, a value is read from a document
    * `Record.Reads`, the same for the fields of a record

  Key theorems include:
    * `Record.reads_seq` and `Record.reads_map`
    * `Record.reads_field`, `reads_absent` and `reads_optional`
    * `Record.reads_decoder`, a whole record
    * `Decoder.reads_tagged`, an alternative that its tag names
-/

namespace Automation

------------------------------------------------------------
-- Documents With Places
------------------------------------------------------------

namespace Node

mutual

/- A node without its places is the same document. -/
theorem document_bare :
    (node : Node) → node.bare.document = node.document
  | .scalar .. => rfl
  | .sequence _ items _ => by
      rw [bare, document, document, documentItems_bare items]
  | .mapping _ entries _ => by
      rw [bare, document, document, documentEntries_bare entries]
  | .broken _ => rfl

theorem documentItems_bare :
    (items : List Item) →
      documentItems (bareItems items) = documentItems items
  | [] => rfl
  | (_, x) :: xs => by
      rw [bareItems, documentItems, documentItems,
        document_bare x, documentItems_bare xs]

theorem documentEntries_bare :
    (entries : List Entry) →
      documentEntries (bareEntries entries) =
        documentEntries entries
  | [] => rfl
  | ((_, _), (_, x)) :: xs => by
      rw [bareEntries, documentEntries, documentEntries,
        document_bare x, documentEntries_bare xs]

end

mutual

theorem depth_bare :
    (node : Node) → node.bare.depth = node.depth
  | .scalar .. => rfl
  | .sequence _ items _ => by
      rw [bare, depth, depth, depthItems_bare items]
  | .mapping _ entries _ => by
      rw [bare, depth, depth, depthEntries_bare entries]
  | .broken _ => rfl

theorem depthItems_bare :
    (items : List Item) →
      depthItems (bareItems items) = depthItems items
  | [] => rfl
  | (_, x) :: xs => by
      rw [bareItems, depthItems, depthItems, depth_bare x,
        depthItems_bare xs]

theorem depthEntries_bare :
    (entries : List Entry) →
      depthEntries (bareEntries entries) = depthEntries entries
  | [] => rfl
  | ((_, _), (_, x)) :: xs => by
      rw [bareEntries, depthEntries, depthEntries, depth_bare x,
        depthEntries_bare xs]

end

theorem bareEntries_eq_map
    (entries : List Entry) :
    bareEntries entries =
      entries.map fun entry =>
        ((entry.1.1, .nowhere), (.nowhere, entry.2.2.bare)) := by
  induction entries with
  | nil => rfl
  | cons first rest ih => rw [bareEntries, ih, List.map_cons]

/- A node is a document, but for the places of its parts. -/
def Spells
    (node : Node)
    (d : Document) : Prop :=
  node.bare = d.node

variable {node : Node}
variable {d : Document}

theorem spells_node
    (d : Document) :
    d.node.Spells d :=
  d.bare_node

theorem Spells.document
    (hNode : node.Spells d) :
    node.document = d.node.document := by
  rw [← document_bare, hNode]

theorem Spells.readable
    (hNode : node.Spells d) :
    node.readable = .ok () := by
  rw [Node.readable, hNode.document, ← Node.readable,
    Document.readable_node]

theorem Spells.depth
    (hNode : node.Spells d) :
    node.depth = d.depth := by
  rw [← depth_bare, hNode, Document.depth_node]

/- The value of a scalar is kept. -/
theorem Spells.scalar
    {value : Scalar}
    (hNode : node.Spells d)
    (hScalar : d.node = .scalar .nowhere .nowhere value none) :
    ∃ start place spelling,
      node = .scalar start place value spelling := by
  rw [Spells, hScalar] at hNode
  cases node with
  | scalar start place other spelling =>
      cases hNode
      exact ⟨start, place, spelling, rfl⟩
  | sequence start items finish => cases hNode
  | mapping start entries finish => cases hNode
  | broken fault => cases hNode

theorem Spells.text
    {s : String}
    (hNode : node.Spells (.text s)) :
    ∃ start place spelling,
      node = .scalar start place (.string s) spelling :=
  hNode.scalar rfl

theorem Spells.items
    {items : List Document}
    (hNode : node.Spells (.array items)) :
    ∃ start xs finish,
      node = .sequence start xs finish ∧
        bareItems xs = Document.nodeItems items := by
  cases node with
  | scalar start place value spelling => cases hNode
  | sequence start xs finish =>
      exact ⟨start, xs, finish, rfl, (Node.sequence.inj hNode).2.1⟩
  | mapping start entries finish => cases hNode
  | broken fault => cases hNode

theorem Spells.entries
    {entries : Entries}
    (hNode : node.Spells (.object entries)) :
    ∃ start xs finish,
      node = .mapping start xs finish ∧
        bareEntries xs = Document.nodeEntries entries := by
  cases node with
  | scalar start place value spelling => cases hNode
  | sequence start items finish => cases hNode
  | mapping start xs finish =>
      exact ⟨start, xs, finish, rfl, (Node.mapping.inj hNode).2.1⟩
  | broken fault => cases hNode

/- The first of some items or entries, and the rest. -/
theorem exists_of_bareItems
    {x : Document}
    {rest : List Document}
    {xs : List Item}
    (hItems : bareItems xs = Document.nodeItems (x :: rest)) :
    ∃ place first later,
      xs = (place, first) :: later ∧
        first.Spells x ∧
          bareItems later = Document.nodeItems rest := by
  cases xs with
  | nil => cases hItems
  | cons item later =>
      rcases item with ⟨place, first⟩
      rcases List.cons.inj hItems with ⟨hFirst, hLater⟩
      exact
        ⟨place, first, later, rfl, (Prod.mk.inj hFirst).2, hLater⟩

theorem exists_of_bareEntries
    {key : String}
    {x : Document}
    {rest : Entries}
    {xs : List Entry}
    (hEntries :
      bareEntries xs = Document.nodeEntries ((key, x) :: rest)) :
    ∃ keyPlace place first later,
      xs = ((key, keyPlace), (place, first)) :: later ∧
        first.Spells x ∧
          bareEntries later = Document.nodeEntries rest := by
  cases xs with
  | nil => cases hEntries
  | cons entry later =>
      rcases entry with ⟨⟨name, keyPlace⟩, ⟨place, first⟩⟩
      rcases List.cons.inj hEntries with ⟨hFirst, hLater⟩
      rcases Prod.mk.inj hFirst with ⟨hName, hNode⟩
      cases hName
      exact
        ⟨keyPlace, place, first, later, rfl,
          (Prod.mk.inj hNode).2, hLater⟩

theorem eq_nil_of_bareItems
    {xs : List Item}
    (hItems : bareItems xs = Document.nodeItems []) :
    xs = [] := by
  cases xs with
  | nil => rfl
  | cons item later => cases hItems

theorem eq_nil_of_bareEntries
    {xs : List Entry}
    (hEntries : bareEntries xs = Document.nodeEntries []) :
    xs = [] := by
  cases xs with
  | nil => rfl
  | cons entry later => cases hEntries

end Node

------------------------------------------------------------
-- Decoders
------------------------------------------------------------

namespace Decoder

variable {α : Type}
variable {decode : Decoder α}

/- The document is read as the value, however it is read. -/
def Reads
    (decode : Decoder α)
    (d : Document)
    (a : α) : Prop :=
  ∀ dialect node, node.Spells d → decode dialect node = .ok a

/- A document that was never written down is read as well. -/
theorem Reads.of_node
    {d : Document}
    {a : α}
    (hReads : decode.Reads d a)
    (dialect : Dialect) :
    decode dialect d.node = .ok a :=
  hReads dialect d.node (Node.spells_node d)

theorem reads_text
    (s : String) :
    text.Reads (.text s) s := by
  intro dialect node hNode
  rcases hNode.text with ⟨start, place, spelling, rfl⟩
  rfl

theorem reads_boolean
    (b : Bool) :
    boolean.Reads (.bool b) b := by
  intro dialect node hNode
  rcases hNode.scalar rfl with ⟨start, place, spelling, rfl⟩
  rfl

theorem reads_word
    (w : UInt64) :
    word.Reads (.integer w.toNat) w := by
  intro dialect node hNode
  rcases hNode.scalar rfl with ⟨start, place, spelling, rfl⟩
  have hBound : (w.toNat : Int) < UInt64.size := by
    exact_mod_cast w.toNat_lt_size
  have hWord :
      Number.word? (.integer w.toNat) = some w := by
    rw [Number.word?, if_pos ⟨Int.natCast_nonneg _, hBound⟩,
      Int.toNat_natCast, UInt64.ofNat_toNat]
  rw [word]
  simp only [hWord]

theorem reads_document
    {d : Document}
    (hSorted : d.Sorted) :
    document.Reads d d := by
  intro dialect node hNode
  rw [document, hNode.document]
  exact Document.document_node d hSorted

theorem reads_enumeration
    {known : List (String × α)}
    {name : String}
    {a : α}
    (hKnown : known.lookup name = some a) :
    (enumeration known).Reads (.text name) a := by
  intro dialect node hNode
  rcases hNode.text with ⟨start, place, spelling, rfl⟩
  rw [enumeration, choose, hKnown]
  rfl

theorem reads_listOf
    {write : α → Document}
    {values : List α}
    (hValues :
      ∀ a ∈ values, decode.Reads (write a) a) :
    (listOf decode).Reads (.array (values.map write))
      values := by
  intro dialect node hNode
  rcases hNode.items with ⟨start, xs, finish, rfl, hItems⟩
  clear hNode
  rw [listOf]
  induction values generalizing xs with
  | nil =>
      rw [Node.eq_nil_of_bareItems hItems]
      rfl
  | cons a rest ih =>
      rw [List.map_cons] at hItems
      rcases Node.exists_of_bareItems hItems with
        ⟨place, first, later, rfl, hFirst, hLater⟩
      have hRest :
          ∀ other ∈ rest, decode.Reads (write other) other :=
        fun other hMember =>
          hValues other (List.mem_cons_of_mem _ hMember)
      rw [items,
        hValues a List.mem_cons_self dialect first hFirst,
        ih hRest later hLater]
      rfl

/- A value that is not written as null is not taken for nothing. -/
theorem reads_optionally
    {d : Document}
    {a : α}
    (hNull : d ≠ .null)
    (hReads : decode.Reads d a) :
    (optionally decode).Reads d (some a) := by
  intro dialect node hNode
  have hSome :
      optionally decode dialect node =
        (decode dialect node).map some := by
    unfold optionally
    split
    · cases d <;> cases hNode
      exact absurd rfl hNull
    · rfl
  rw [hSome, hReads dialect node hNode]
  rfl

end Decoder

------------------------------------------------------------
-- Fields
------------------------------------------------------------

theorem Document.under?_singleton
    (name : String)
    (entries : List (String × Document)) :
    under? [name] entries = Table.find? entries name := by
  induction entries with
  | nil => rfl
  | cons first rest ih =>
      rw [under?, List.find?_cons, Table.find?]
      by_cases hSame : name = first.1
      · have hListed : [name].contains first.1 = true := by
          simp [hSame]
        rw [hListed, if_pos hSame]
        rfl
      · have hListed : [name].contains first.1 = false := by
          simpa using fun h : first.1 = name => hSame h.symm
        rw [hListed, if_neg hSame]
        exact ih

/- An entry that may be left out holds what it is made of. -/
@[simp] theorem Document.find?_entryOf
    (key other : String)
    (value? : Option Document) :
    Table.find? (entryOf key value?) other =
      if other = key then value? else none := by
  cases value? with
  | none =>
      rw [ite_self]
      rfl
  | some value => rfl

@[simp] theorem Document.reverse_entryOf
    (key : String)
    (value? : Option Document) :
    (entryOf key value?).reverse = entryOf key value? := by
  cases value? <;> rfl

namespace Record

variable {α β : Type}
variable {entries : Entries}
variable {name : String}
variable {decode : Decoder α}

/- The fields are read from the entries as the value. -/
def Reads
    (record : Record α)
    (entries : Entries)
    (a : α) : Prop :=
  ∀ dialect xs finish,
    Node.bareEntries xs = Document.nodeEntries entries →
      record.named dialect xs finish = .ok a

theorem reads_seq
    {f : Record (α → β)}
    {x : Record α}
    {g : α → β}
    {a : α}
    (hF : f.Reads entries g)
    (hX : x.Reads entries a) :
    (f <*> x).Reads entries (g a) := by
  intro dialect xs finish hEntries
  change
    Ranked.both (f.named dialect xs finish)
        (x.named dialect xs finish) =
      .ok (g a)
  rw [hF dialect xs finish hEntries,
    hX dialect xs finish hEntries]
  rfl

theorem reads_map
    {x : Record α}
    {a : α}
    (g : α → β)
    (hX : x.Reads entries a) :
    (g <$> x).Reads entries (g a) :=
  reads_seq (fun _ _ _ _ => rfl) hX

/- What is under the name of a field decides what the field is. -/
theorem find?_reads
    {xs : List Entry}
    (name : String)
    (hEntries :
      Node.bareEntries xs = Document.nodeEntries entries) :
    (find? [name] xs).map (fun found => found.2.2.bare) =
      (Table.find? entries name).map (·.node) := by
  have hBare :
      (find? [name] (Node.bareEntries xs)).map
          (fun found => found.2.2) =
        (find? [name] xs).map
          (fun found => found.2.2.bare) := by
    rw [map_find? (fun node => node), map_find? Node.bare,
      Node.bareEntries_eq_map, List.find?_map, Option.map_map]
    rfl
  rw [← hBare, hEntries, find?_nodeEntries,
    Document.under?_singleton]

theorem reads_field
    {absent : Place → Except Fault α}
    {short : Nat → String → Except Fault α}
    {d : Document}
    {a : α}
    (hFind : Table.find? entries name = some d)
    (hReads : decode.Reads d a) :
    (field [name] decode absent short).Reads entries a := by
  intro dialect xs finish hEntries
  have hNode := find?_reads name hEntries
  rw [hFind] at hNode
  rcases Option.map_eq_some_iff.mp hNode with
    ⟨⟨rank, place, x⟩, hFound, hSpells⟩
  rw [field]
  dsimp only
  rw [hFound]
  dsimp only
  rw [hReads dialect x hSpells]
  rfl

theorem reads_absent
    {absent : Place → Except Fault α}
    {short : Nat → String → Except Fault α}
    {a : α}
    (hFind : Table.find? entries name = none)
    (hAbsent : ∀ finish, absent finish = .ok a) :
    (field [name] decode absent short).Reads entries a := by
  intro dialect xs finish hEntries
  have hNode := find?_reads name hEntries
  rw [hFind] at hNode
  have hFound := Option.map_eq_none_iff.mp hNode
  rw [field]
  dsimp only
  rw [hFound]
  dsimp only
  rw [hAbsent finish]
  rfl

/- A field that is left out where it has no value. -/
theorem reads_optional
    {write : α → Document}
    {a? : Option α}
    (hFind : Table.find? entries name = a?.map write)
    (hReads :
      ∀ a, write a ≠ .null ∧ decode.Reads (write a) a) :
    (optional [name] decode).Reads entries a? := by
  cases a? with
  | none => exact reads_absent hFind fun _ => rfl
  | some a =>
      apply reads_field hFind
      exact Decoder.reads_optionally (hReads a).1 (hReads a).2

------------------------------------------------------------
-- Whole Records
------------------------------------------------------------

/- Each field has one name. -/
def isSingle
    (fields : List (List String)) :
    Bool :=
  fields.all fun names => names.length = 1

/- No field is stated twice among entries in order. -/
theorem scan_of_sorted
    {fields : List (List String)}
    {xs : List Entry}
    (hSingle : isSingle fields = true)
    (rank : Nat)
    (seen : List String)
    (hSorted : Table.Sorted entries)
    (hSeen : ∀ entry ∈ entries, entry.1 ∉ seen)
    (hEntries :
      Node.bareEntries xs = Document.nodeEntries entries) :
    scan fields rank seen xs = .ok () := by
  induction entries generalizing rank seen xs with
  | nil =>
      rw [Node.eq_nil_of_bareEntries hEntries]
      rfl
  | cons first rest ih =>
      rcases first with ⟨key, x⟩
      rcases List.pairwise_cons.mp hSorted with
        ⟨hFirst, hRest⟩
      rcases Node.exists_of_bareEntries hEntries with
        ⟨keyPlace, place, node, later, rfl, hNode, hLater⟩
      rw [scan]
      cases hField :
          fields.find? fun names => names.contains key with
      | none =>
          dsimp only
          rw [hNode.readable]
          refine ih (rank + 1) seen hRest ?_ hLater
          intro entry hEntry
          exact hSeen entry (List.mem_cons_of_mem _ hEntry)
      | some names =>
          have hLength : names.length = 1 := by
            simpa using
              List.all_eq_true.mp hSingle names
                (List.mem_of_find?_eq_some hField)
          rcases List.length_eq_one_iff.mp hLength with
            ⟨name, rfl⟩
          have hName : key = name := by
            simpa using List.find?_some hField
          subst hName
          have hNew := hSeen (key, x) List.mem_cons_self
          have hUnseen :
              ¬ seen.contains ([key].headD "") = true := by
            simpa using hNew
          dsimp only
          rw [if_neg hUnseen]
          refine ih (rank + 1) (key :: seen) hRest ?_ hLater
          intro entry hEntry hMember
          rcases List.mem_cons.mp hMember with hSame | hOlder
          · exact ne_of_gt (hFirst entry hEntry) hSame
          · exact
              hSeen entry (List.mem_cons_of_mem _ hEntry)
                hOlder

/- A record is read from an object when its fields are. -/
theorem reads_decoder
    {record : Record α}
    {a : α}
    (type : String)
    (hSingle : isSingle record.fields = true)
    (hSorted : Table.Sorted entries)
    (hReads : record.Reads entries a) :
    (record.decoder type).Reads (.object entries) a := by
  intro dialect node hNode
  rcases hNode.entries with ⟨start, xs, finish, rfl, hEntries⟩
  have hScan :=
    scan_of_sorted hSingle 0 [] hSorted
      (fun _ _ => List.not_mem_nil) hEntries
  rw [decoder, ofEntries, hScan,
    hReads dialect xs finish hEntries]
  rfl

end Record

------------------------------------------------------------
-- Alternatives
------------------------------------------------------------

namespace Decoder

variable {α : Type}
variable {tag : String}
variable {known : List (String × α)}
variable {dialect : Dialect}
variable {entries : Entries}
variable {xs : List Entry}

/- Where there is no tag, all entries are set aside. -/
theorem setAside_of_untagged
    (found : Option α)
    (hTag : ∀ entry ∈ entries, entry.1 ≠ tag)
    (hEntries :
      Node.bareEntries xs = Document.nodeEntries entries) :
    setAside tag known dialect found xs = .ok (found, xs) := by
  induction entries generalizing xs with
  | nil =>
      rw [Node.eq_nil_of_bareEntries hEntries]
      rfl
  | cons first rest ih =>
      rcases first with ⟨key, x⟩
      rcases Node.exists_of_bareEntries hEntries with
        ⟨keyPlace, place, node, later, rfl, hNode, hLater⟩
      have hRest :=
        ih (fun entry hEntry =>
          hTag entry (List.mem_cons_of_mem _ hEntry)) hLater
      rw [setAside]
      dsimp only
      rw [if_neg (hTag (key, x) List.mem_cons_self),
        hNode.readable]
      dsimp only
      rw [hRest]
      rfl

/- The entries beside the tag are set aside. -/
theorem setAside_of_tagged
    {name : String}
    {a : α}
    (hSorted : Table.Sorted entries)
    (hTag : Table.find? entries tag = some (.text name))
    (hKnown : known.lookup name = some a)
    (hEntries :
      Node.bareEntries xs = Document.nodeEntries entries) :
    ∃ others,
      setAside tag known dialect none xs =
          .ok (some a, others) ∧
        Node.bareEntries others =
          Document.nodeEntries (Table.erase entries tag) := by
  induction entries generalizing xs with
  | nil => cases hTag
  | cons first rest ih =>
      rcases first with ⟨key, x⟩
      rcases List.pairwise_cons.mp hSorted with
        ⟨hFirst, hRest⟩
      rcases Node.exists_of_bareEntries hEntries with
        ⟨keyPlace, place, node, later, rfl, hNode, hLater⟩
      rw [setAside]
      dsimp only
      rw [Table.find?] at hTag
      by_cases hSame : tag = key
      · rw [if_pos hSame] at hTag
        cases hTag
        subst hSame
        have hOthers : ∀ entry ∈ rest, entry.1 ≠ tag :=
          fun entry hEntry => ne_of_gt (hFirst entry hEntry)
        have hErase :
            Table.erase ((tag, Document.text name) :: rest) tag =
              rest := by
          rw [Table.erase, List.filter_cons_of_neg (by simp)]
          apply List.filter_eq_self.mpr
          intro entry hEntry
          exact decide_eq_true (hOthers entry hEntry)
        have hName : tagName known dialect node = .ok a := by
          rcases hNode.text with ⟨start, finish, spelling, rfl⟩
          cases dialect <;> rw [tagName, choose, hKnown] <;> rfl
        rw [if_pos rfl, hName, hErase]
        exact
          ⟨later, setAside_of_untagged (some a) hOthers hLater,
            hLater⟩
      · rw [if_neg hSame] at hTag
        have hErase :
            Table.erase ((key, x) :: rest) tag =
              (key, x) :: Table.erase rest tag :=
          List.filter_cons_of_pos
            (decide_eq_true fun h => hSame h.symm)
        rcases ih hRest hTag hLater with
          ⟨others, hAside, hOthers⟩
        refine
          ⟨((key, keyPlace), (place, node)) :: others, ?_, ?_⟩
        · rw [if_neg fun h => hSame h.symm, hNode.readable,
            hAside]
          rfl
        · rw [Node.bareEntries, hOthers, hErase,
            Document.nodeEntries, hNode]

/- The alternative that the tag names is read from what is beside it. -/
theorem reads_tagged
    {known : List (String × Decoder α)}
    {decode : Decoder α}
    {a : α}
    (type name : String)
    (hSorted : Table.Sorted entries)
    (hTag : Table.find? entries tag = some (.text name))
    (hKnown : known.lookup name = some decode)
    (hReads :
      decode.Reads (.object (Table.erase entries tag)) a) :
    (tagged type tag known).Reads (.object entries) a := by
  intro dialect node hNode
  rcases hNode.entries with ⟨start, xs, finish, rfl, hEntries⟩
  rcases setAside_of_tagged hSorted hTag hKnown hEntries with
    ⟨others, hAside, hOthers⟩
  have hBare :
      (Node.mapping start others finish).bare =
        (Document.object (Table.erase entries tag)).node := by
    rw [Node.bare, hOthers, Document.node]
  rw [tagged, hAside]
  dsimp only
  rw [readAside, hBare, hReads.of_node .buffered]

end Decoder

end Automation
