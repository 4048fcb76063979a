import Automation.Decoding.Decoder

/-
  Records: decoders put together field by field.

  A record is written as a mapping from the names of its fields, or as a
  sequence of their values in order.  Of the faults of a mapping the one of
  the earliest entry is reported; fields that are missing come after all
  entries, in the order of the fields.  Entries under other names are
  ignored.

  Key definitions include:
    * `Ranked`, a reading whose fault remembers the rank of its entry
    * `Record`, an applicative functor of field readers
    * `Record.required` and `Record.defaulted`, the two kinds of field
    * `Record.decoder`, the decoder of a whole record
-/

namespace Automation

------------------------------------------------------------
-- Ranked Readings
------------------------------------------------------------

/- A value, or a fault with the rank of the entry it was found at. -/
abbrev Ranked (α : Type) := Except (Nat × Fault) α

namespace Ranked

variable {α β : Type}

/- Two readings side by side, of whose faults the earlier one counts. -/
def both
    (f : Ranked (α → β))
    (x : Ranked α) :
    Ranked β :=
  match f, x with
  | .ok g, .ok a => .ok (g a)
  | .ok _, .error later => .error later
  | .error first, .ok _ => .error first
  | .error first, .error later =>
      .error (if later.1 < first.1 then later else first)

/- The reading of the entry with a rank. -/
def ofEntry
    (rank : Nat) :
    Except Fault α → Ranked α
  | .ok a => .ok a
  | .error fault => .error (rank, fault)

end Ranked

------------------------------------------------------------
-- Putting Fields Together
------------------------------------------------------------

structure Record (α : Type) where
  /- The names of each field, the proper one first. -/
  fields : List (List String)
  /- Read the fields from the entries under their names. -/
  named : Dialect → List Entry → Place → Ranked α
  /- Read the fields from a sequence that starts at the given field. -/
  placed :
    Dialect → String → Nat → List Item → Except Fault (α × List Item)

namespace Record

variable {α β : Type}

def pure
    (a : α) :
    Record α where
  fields := []
  named := fun _ _ _ => .ok a
  placed := fun _ _ _ items => .ok (a, items)

def seq
    (f : Record (α → β))
    (x : Unit → Record α) :
    Record β where
  fields := f.fields ++ (x ()).fields
  named := fun dialect entries finish =>
    Ranked.both (f.named dialect entries finish)
      ((x ()).named dialect entries finish)
  placed := fun dialect expected index items =>
    match f.placed dialect expected index items with
    | .error fault => .error fault
    | .ok (g, rest) =>
        ((x ()).placed dialect expected (index + f.fields.length) rest).map
          fun (a, rest) => (g a, rest)

instance : Applicative Record where
  pure := pure
  seq := seq

------------------------------------------------------------
-- Kinds Of Fields
------------------------------------------------------------

/- The rank and the value of the first entry under one of the names. -/
def find?
    (names : List String)
    (entries : List Entry) :
    Option (Nat × Item) :=
  (entries.zipIdx.find? fun (entry, _) => names.contains entry.1.1).map
    fun (entry, rank) => (rank, entry.2)

/- A field that is read when present, or else is given by `absent`. -/
def field
    (names : List String)
    (decode : Decoder α)
    (absent : Place → Except Fault α)
    (short : Nat → String → Except Fault α) :
    Record α where
  fields := [names]
  named := fun dialect entries finish =>
    match find? names entries with
    | some (rank, (place, x)) =>
        Ranked.ofEntry rank (located place (decode dialect x))
    | none => Ranked.ofEntry entries.length (absent finish)
  placed := fun dialect expected index items =>
    match items with
    | (place, x) :: rest =>
        (located place (decode dialect x)).map fun a => (a, rest)
    | [] => (short index expected).map fun a => (a, [])

/- A field that has to be there. -/
def required
    (names : List String)
    (decode : Decoder α) :
    Record α :=
  field names decode
    (fun finish =>
      .error ⟨.missingField (names.headD ""), some finish⟩)
    (fun index expected => .error (.of (.badLength index expected)))

/- A field that may be left out. -/
def defaulted
    (names : List String)
    (decode : Decoder α)
    (value : α) :
    Record α :=
  field names decode (fun _ => .ok value) (fun _ _ => .ok value)

/- A field that may be left out or null, and then has no value. -/
def optional
    (names : List String)
    (decode : Decoder α) :
    Record (Option α) :=
  defaulted names (Decoder.optionally decode) none

------------------------------------------------------------
-- Whole Records
------------------------------------------------------------

/- The first entry that repeats a field or cannot be read to its end. -/
def scan
    (fields : List (List String)) :
    (rank : Nat) → (seen : List String) → List Entry → Ranked Unit
  | _, _, [] => .ok ()
  | rank, seen, ((key, keyPlace), (_, x)) :: rest =>
      match fields.find? fun names => names.contains key with
      | none =>
          match x.readable with
          | .error fault => .error (rank, fault)
          | .ok () => scan fields (rank + 1) seen rest
      | some names =>
          let name := names.headD ""
          if seen.contains name then
            .error (rank, ⟨.duplicateField name, some keyPlace⟩)
          else scan fields (rank + 1) (name :: seen) rest

/- A number of things, in words. -/
def counted
    (n : Nat)
    (thing : String) :
    String :=
  toString n ++ " " ++ thing ++ (if n = 1 then "" else "s")

/- The fault of a sequence with more items than fields. -/
def leftOver
    (dialect : Dialect)
    (count total : Nat)
    (first : Node) :
    Fault :=
  match dialect with
  | .plain => .of (.badLength total "fewer elements in array")
  | .buffered =>
      .of (.badLength total (counted count "element" ++ " in sequence"))
  | .json => ⟨.malformed "trailing characters", some first.start.next⟩
  | .yaml =>
      .of
        (.badLength total
          ("sequence of " ++ counted count "element"))

/- A record from the entries of a mapping. -/
def ofEntries
    (record : Record α)
    (dialect : Dialect)
    (entries : List Entry)
    (finish : Place) :
    Except Fault α :=
  let scanned := (scan record.fields 0 [] entries).map fun _ => id
  match Ranked.both scanned (record.named dialect entries finish) with
  | .error (_, fault) => .error fault
  | .ok a => .ok a

/-
  The decoder of a record; `type` names it in messages.  A part that was
  left blank has no entries.
-/
def decoder
    (type : String)
    (record : Record α) :
    Decoder α
  | dialect, .mapping _ entries finish =>
      record.ofEntries dialect entries finish
  | dialect, .scalar _ place .null (some "") =>
      record.ofEntries dialect [] place
  | dialect, .sequence _ items finish =>
      let count := record.fields.length
      let expected := type ++ " with " ++ counted count "element"
      match record.placed dialect expected 0 items with
      | .error fault => located finish (.error fault)
      | .ok (a, []) => .ok a
      | .ok (_, (_, x) :: _) =>
          located finish (.error (leftOver dialect count items.length x))
  | _, node => node.mismatch type

end Record

end Automation
