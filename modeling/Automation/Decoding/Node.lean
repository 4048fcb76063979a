import Automation.Decoding.Fault

/-
  A document as it was written.

  A node keeps what a plain document forgets: where each part stands, the
  order and the repetition of entries, how a scalar was spelled, and the
  point from which the text could not be read.  Plain documents are nodes
  that stand nowhere.

  Key definitions include:
    * `Node`, and `Document.node`
    * `Node.document`, the plain document of a node that could be read
    * `Node.bare`, a node without its places
-/

namespace Automation

------------------------------------------------------------
-- Nodes
------------------------------------------------------------

inductive Scalar where
  | null
  | bool (value : Bool)
  | number (value : Number)
  | string (value : String)
deriving DecidableEq, Inhabited

/-
  `start` is the place where a part begins and `place` the one where a
  fault of the part is reported.  Each item and each entry carries the
  place at which its surroundings report a fault of it, and an entry also
  the place for a fault of its key.  `finish` is the place for a fault of
  what is missing.  A broken node ends everything that was read.
-/
inductive Node where
  | scalar
      (start place : Place)
      (value : Scalar)
      (spelling : Option String)
  | sequence
      (start : Place)
      (items : List (Place × Node))
      (finish : Place)
  | mapping
      (start : Place)
      (entries : List ((String × Place) × (Place × Node)))
      (finish : Place)
  | broken (fault : Fault)
deriving Inhabited

abbrev Item := Place × Node

abbrev Entry := (String × Place) × (Place × Node)

namespace Scalar

def found : Scalar → Found
  | .null => .null
  | .bool b => .bool b
  | .number n => .number n
  | .string s => .string s

def document : Scalar → Document
  | .null => .null
  | .bool b => .bool b
  | .number n => .number n
  | .string s => .string s

end Scalar

------------------------------------------------------------
-- Plain Documents As Nodes
------------------------------------------------------------

namespace Document

mutual

def node : Document → Node
  | .null => .scalar .nowhere .nowhere .null none
  | .bool b => .scalar .nowhere .nowhere (.bool b) none
  | .number n => .scalar .nowhere .nowhere (.number n) none
  | .string s => .scalar .nowhere .nowhere (.string s) none
  | .array items => .sequence .nowhere (nodeItems items) .nowhere
  | .object entries => .mapping .nowhere (nodeEntries entries) .nowhere

def nodeItems : List Document → List Item
  | [] => []
  | x :: xs => (.nowhere, node x) :: nodeItems xs

def nodeEntries : List (String × Document) → List Entry
  | [] => []
  | (key, x) :: xs =>
      ((key, .nowhere), (.nowhere, node x)) :: nodeEntries xs

end

end Document

------------------------------------------------------------
-- Nodes As Plain Documents
------------------------------------------------------------

namespace Node

mutual

/- The plain document, or the fault from which nothing could be read. -/
def document : Node → Except Fault Document
  | .scalar _ _ value _ => .ok value.document
  | .sequence _ items _ => (documentItems items).map .array
  | .mapping _ entries _ => (documentEntries entries).map .record
  | .broken fault => .error fault

def documentItems : List Item → Except Fault (List Document)
  | [] => .ok []
  | (_, x) :: xs =>
      match document x with
      | .error fault => .error fault
      | .ok d => (documentItems xs).map (d :: ·)

def documentEntries :
    List Entry → Except Fault (List (String × Document))
  | [] => .ok []
  | ((key, _), (_, x)) :: xs =>
      match document x with
      | .error fault => .error fault
      | .ok d => (documentEntries xs).map ((key, d) :: ·)

end

/- Nothing, if the node could be read to its end. -/
def readable
    (node : Node) :
    Except Fault Unit :=
  node.document.map fun _ => ()

------------------------------------------------------------
-- Nodes Without Places
------------------------------------------------------------

mutual

/- The node with all places, and all spellings of scalars, forgotten. -/
def bare : Node → Node
  | .scalar _ _ value _ => .scalar .nowhere .nowhere value none
  | .sequence _ items _ => .sequence .nowhere (bareItems items) .nowhere
  | .mapping _ entries _ =>
      .mapping .nowhere (bareEntries entries) .nowhere
  | .broken fault => .broken fault

def bareItems : List Item → List Item
  | [] => []
  | (_, x) :: xs => (.nowhere, bare x) :: bareItems xs

def bareEntries : List Entry → List Entry
  | [] => []
  | ((key, _), (_, x)) :: xs =>
      ((key, .nowhere), (.nowhere, bare x)) :: bareEntries xs

end

mutual

/- How deeply sequences and mappings are nested. -/
def depth : Node → Nat
  | .sequence _ items _ => depthItems items + 1
  | .mapping _ entries _ => depthEntries entries + 1
  | _ => 0

def depthItems : List Item → Nat
  | [] => 0
  | (_, x) :: xs => max (depth x) (depthItems xs)

def depthEntries : List Entry → Nat
  | [] => 0
  | (_, (_, x)) :: xs => max (depth x) (depthEntries xs)

end

------------------------------------------------------------
-- Parts Of A Node
------------------------------------------------------------

/- What a node is, for a message. -/
def found : Node → Found
  | .scalar _ _ value _ => value.found
  | .sequence .. => .sequence
  | .mapping .. => .mapping
  | .broken _ => .null

/- Where a fault of the node as a whole is reported. -/
def place : Node → Place
  | .scalar _ place _ _ => place
  | .sequence start _ _ => start
  | .mapping start _ _ => start
  | .broken _ => .nowhere

def start : Node → Place
  | .scalar start _ _ _ => start
  | .sequence start _ _ => start
  | .mapping start _ _ => start
  | .broken _ => .nowhere

/- The fault of a node that is not what was expected. -/
def mismatch
    {α : Type}
    (node : Node)
    (expected : String) :
    Except Fault α :=
  match node with
  | .broken fault => .error fault
  | node => .error ⟨.unexpected node.found expected, some node.place⟩

end Node

end Automation
