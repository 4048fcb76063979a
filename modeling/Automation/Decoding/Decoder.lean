import Automation.Decoding.Node

/-
  Readers for the parts of a document.

  A decoder turns a node into a value or into the first fault it meets.
  The same decoders read documents held in memory, documents in JSON or
  YAML text, and the buffered parts of tagged alternatives; the few points
  on which these differ depend on the dialect.

  Key definitions include:
    * `Decoder` and `Dialect`
    * `Decoder.text`, `Decoder.boolean` and `Decoder.word`
    * `Decoder.listOf`, `Decoder.tableOf` and `Decoder.optionally`
    * `Decoder.enumeration`, one of several names
-/

namespace Automation

/- The form in which a document is read. -/
inductive Dialect where
  | plain
  | buffered
  | json
  | yaml
deriving DecidableEq, Inhabited

abbrev Decoder (α : Type) := Dialect → Node → Except Fault α

/- The place one column further on. -/
def Place.next
    (place : Place) :
    Place :=
  { place with
    position :=
      place.position.map fun (line, column) => (line, column + 1) }

namespace Decoder

variable {α : Type}

------------------------------------------------------------
-- Scalars
------------------------------------------------------------

/- A string, or a scalar whose spelling can be taken for one. -/
def text : Decoder String
  | _, .scalar _ _ (.string s) _ => .ok s
  | _, .scalar _ _ _ (some spelling) => .ok spelling
  | _, node => node.mismatch "a string"

def boolean : Decoder Bool
  | _, .scalar _ _ (.bool b) _ => .ok b
  | _, node => node.mismatch "a boolean"

/- An unsigned word of 64 bits. -/
def word : Decoder UInt64
  | dialect, .scalar start place (.number n) spelling =>
      let node := Node.scalar start place (.number n) spelling
      match n.word?, n with
      | some w, _ => .ok w
      | none, .integer _ =>
          if dialect = .yaml then node.mismatch "u64"
          else .error ⟨.badValue (.number n) "u64", some place⟩
      | none, .real _ => node.mismatch "u64"
  | _, node => node.mismatch "u64"

/- Any document at all. -/
def document : Decoder Document
  | _, node => node.document

/- Null stands for nothing. -/
def optionally
    (decode : Decoder α) :
    Decoder (Option α)
  | _, .scalar _ _ .null _ => .ok none
  | dialect, node => (decode dialect node).map some

------------------------------------------------------------
-- Sequences And Mappings
------------------------------------------------------------

def items
    (decode : Decoder α)
    (dialect : Dialect) :
    List Item → Except Fault (List α)
  | [] => .ok []
  | (place, x) :: xs =>
      match located place (decode dialect x) with
      | .error fault => .error fault
      | .ok a => (items decode dialect xs).map (a :: ·)

/- The items of a sequence; a part that was left blank has none. -/
def listOf
    (decode : Decoder α) :
    Decoder (List α)
  | dialect, .sequence _ xs _ => items decode dialect xs
  | _, .scalar _ _ .null (some "") => .ok []
  | _, node => node.mismatch "a sequence"

def entries
    (decode : Decoder α)
    (dialect : Dialect) :
    List Entry → Except Fault (List (String × α))
  | [] => .ok []
  | ((key, _), (place, x)) :: xs =>
      match located place (decode dialect x) with
      | .error fault => .error fault
      | .ok a => (entries decode dialect xs).map ((key, a) :: ·)

/-
  Values under names; of values under one name the last is kept, and a part
  that was left blank has none.
-/
def tableOf
    (decode : Decoder α) :
    Decoder (Table α)
  | dialect, .mapping _ xs _ =>
      (entries decode dialect xs).map Table.ofList
  | _, .scalar _ _ .null (some "") => .ok []
  | _, node => node.mismatch "a map"

------------------------------------------------------------
-- Enumerations
------------------------------------------------------------

/- The value under one of the known names. -/
def choose
    (known : List (String × α))
    (name : String) :
    Except Fault α :=
  match known.lookup name with
  | some a => .ok a
  | none => .error (.of (.unknownVariant name (known.map (·.1))))

/- The empty value that may follow the name of a variant. -/
def emptyValue : Decoder Unit
  | _, .scalar _ _ .null _ => .ok ()
  | .buffered, .mapping _ [] _ => .ok ()
  | _, node => node.mismatch "unit"

/-
  One of several names, given as a string or, outside YAML, as the only
  key of a mapping with an empty value.
-/
def enumeration
    (known : List (String × α)) :
    Decoder α
  | _, .broken fault => .error fault
  | _, .scalar _ place (.string s) _ => located place (choose known s)
  | _, .scalar _ place _ (some spelling) =>
      located place (choose known spelling)
  | .yaml, node => node.mismatch "a YAML tag starting with '!'"
  | dialect, .mapping _ [((key, keyPlace), (place, x))] _ =>
      match located keyPlace (choose known key) with
      | .error fault => .error fault
      | .ok a => (located place (emptyValue dialect x)).map fun _ => a
  | .json, node =>
      .error ⟨.malformed "expected value", some node.start.next⟩
  | _, .mapping start _ _ =>
      .error ⟨.badValue .mapping "map with a single key", some start⟩
  | _, node => node.mismatch "string or map"

end Decoder

end Automation
