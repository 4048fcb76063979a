import Automation.Decoding.Record

/-
  Alternatives that are told apart by a tag among their own entries.

  The tag is found first, wherever it stands; the other entries are set
  aside and then read by the decoder of the alternative that the tag
  names.  Parts that are set aside lose their places.  An alternative is
  also written as a sequence that starts with the tag.

  Key definitions include:
    * `Decoder.tagged`, the decoder of a choice of alternatives
-/

namespace Automation

namespace Decoder

variable {α : Type}

/- The alternative that a tag names, by name or by position. -/
def tagName
    (known : List (String × α)) :
    Decoder α
  | .buffered, .scalar _ _ (.number n) _ =>
      match n.word? with
      | none => .error (.of (.unexpected (.number n) "variant identifier"))
      | some w =>
          match known[w.toNat]? with
          | some (_, a) => .ok a
          | none =>
              .error (.of (.badValue (.number n)
                ("variant index 0 <= i < " ++ toString known.length)))
  | _, .scalar _ place (.string s) _ => located place (choose known s)
  | _, .scalar _ place _ (some spelling) =>
      located place (choose known spelling)
  | _, node => node.mismatch "variant identifier"

/- Find the tag among entries, and set the others aside. -/
def setAside
    (tag : String)
    (known : List (String × α))
    (dialect : Dialect) :
    (found : Option α) → List Entry →
      Except Fault (Option α × List Entry)
  | found, [] => .ok (found, [])
  | found, entry :: rest =>
      let ((key, keyPlace), (place, x)) := entry
      if key = tag then
        if found.isSome then .error ⟨.duplicateField tag, some keyPlace⟩
        else
          match located place (tagName known dialect x) with
          | .error fault => .error fault
          | .ok a => setAside tag known dialect (some a) rest
      else
        match x.readable with
        | .error fault => .error fault
        | .ok () =>
            (setAside tag known dialect found rest).map
              fun (a, others) => (a, entry :: others)

/- Read a part that was set aside; its faults have no place. -/
def readAside
    (decode : Decoder α)
    (node : Node) :
    Except Fault α :=
  match decode .buffered node.bare with
  | .error fault => .error (.of fault.cause)
  | .ok a => .ok a

/- One of several alternatives; `type` names the choice in messages. -/
def tagged
    (type tag : String)
    (known : List (String × Decoder α)) :
    Decoder α
  | dialect, .mapping start entries finish =>
      match setAside tag known dialect none entries with
      | .error fault => .error fault
      | .ok (none, _) => .error ⟨.missingField tag, some finish⟩
      | .ok (some decode, others) =>
          readAside decode (.mapping start others finish)
  | dialect, .sequence start items finish =>
      match items with
      | [] => .error ⟨.missingField tag, some finish⟩
      | (place, x) :: rest =>
          match located place (tagName known dialect x) with
          | .error fault => .error fault
          | .ok decode =>
              let others := Node.sequence start rest finish
              match others.readable with
              | .error fault => .error fault
              | .ok () => readAside decode others
  | _, node => node.mismatch ("internally tagged enum " ++ type)

end Decoder

end Automation
