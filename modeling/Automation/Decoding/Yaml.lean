import Automation.Decoding.Decoder
import Automation.Yaml.Resolution
import Automation.Yaml.Tree

/-
  Documents in YAML text.

  A fault is reported at the part that it is a fault of, by the path to
  that part and the mark where it begins.

  Key definitions include:
    * `Yaml.Tree.node`, the node that a tree describes
    * `Yaml.decode`, a value from a text
-/

namespace Automation

namespace Yaml

------------------------------------------------------------
-- Places
------------------------------------------------------------

/- The mark of a part below a path; the start of a text is no mark. -/
def placeOf
    (path : String)
    (mark : Mark) :
    Place :=
  ⟨path,
    if mark.isStart then none else some (mark.line + 1, mark.column + 1)⟩

/- The path to the entry with a key. -/
def entryPath
    (path key : String) :
    String :=
  if path.isEmpty then key else path ++ "." ++ key

/- The path to the item with an index. -/
def itemPath
    (path : String)
    (index : Nat) :
    String :=
  (if path.isEmpty then "." else path) ++ "[" ++ toString index ++ "]"

------------------------------------------------------------
-- Trees As Nodes
------------------------------------------------------------

def malformed
    (reason : String) :
    Node :=
  .broken ⟨.malformed reason, some .nowhere⟩

/- A part that lies too deep. -/
def tooDeep
    (mark : Mark) :
    Node :=
  malformed (Problem.message ⟨"recursion limit exceeded", mark, none⟩)

/- A scalar; one without quotes is resolved unless its tag says string. -/
def scalarNode
    (place : Place)
    (tag : Option String)
    (plain : Bool)
    (text : String) :
    Node :=
  let resolved :=
    match tag with
    | none => plain
    | some tag => plain && tag ≠ "tag:yaml.org,2002:str"
  if resolved then
    match resolve text with
    | .string s => .scalar place place (.string s) none
    | value => .scalar place place value (some text)
  else .scalar place place (.string text) none

/- The key of an entry, or the fault of what can be none. -/
def keyOf
    (path : String) :
    Tree → Except Node String
  | .scalar _ _ _ text => .ok text
  | .broken reason => .error (malformed reason)
  | .sequence mark _ =>
      .error (.broken
        ⟨.unexpected .sequence "field identifier", placeOf path mark⟩)
  | .mapping mark _ =>
      .error (.broken
        ⟨.unexpected .mapping "field identifier", placeOf path mark⟩)

namespace Tree

mutual

/- The node of a tree that lies below a path. -/
def nodeBelow :
    (depth : Nat) → (path : String) → Tree → Node
  | _, path, .scalar mark tag plain text =>
      scalarNode (placeOf path mark) tag plain text
  | depth, path, .sequence mark items =>
      if depth = 0 then tooDeep mark
      else
        let place := placeOf path mark
        .sequence place (itemNodes (depth - 1) path place 0 items) place
  | depth, path, .mapping mark entries =>
      if depth = 0 then tooDeep mark
      else
        let place := placeOf path mark
        .mapping place (entryNodes (depth - 1) path place entries) place
  | _, _, .broken reason => malformed reason

def itemNodes :
    (depth : Nat) → (path : String) → Place → (index : Nat) →
      List Tree → List Item
  | _, _, _, _, [] => []
  | depth, path, place, index, item :: items =>
      (place, nodeBelow depth (itemPath path index) item) ::
        itemNodes depth path place (index + 1) items

def entryNodes :
    (depth : Nat) → (path : String) → Place →
      List (Tree × Tree) → List Entry
  | _, _, _, [] => []
  | depth, path, place, (key, value) :: entries =>
      let entry :=
        match keyOf path key with
        | .ok key =>
            ((key, place),
              (place, nodeBelow depth (entryPath path key) value))
        | .error node => (("", place), (place, node))
      entry :: entryNodes depth path place entries

end

/- How many sequences and mappings may lie inside one another. -/
def depthLimit : Nat := 128

def node
    (tree : Tree) :
    Node :=
  nodeBelow depthLimit "" tree

end Tree

------------------------------------------------------------
-- Texts
------------------------------------------------------------

/- A value from the only document of a text. -/
def decode
    {α : Type}
    (decoder : Decoder α)
    (s : String) :
    Except Fault α :=
  let stream := Stream.ofText s
  match decoder .yaml stream.document.node with
  | .error fault => .error fault
  | .ok a =>
      match stream.remainder with
      | .nothing => .ok a
      | .broken reason => .error (.of (.malformed reason))
      | .more =>
          .error (.of (.malformed
            ("deserializing from YAML containing more than one " ++
              "document is not supported")))

end Yaml

end Automation
