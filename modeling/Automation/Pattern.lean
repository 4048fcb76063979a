import Automation.Pattern.CharClass

/-
  Patterns, and the texts they occur in.

  A pattern leads from a set of positions in a text to the set of positions
  at which an occurrence that started there can end.  A set of positions is
  a list of truth values, one for each position, the position after the
  last character included.

  Key definitions include:
    * `Pattern`, the shapes of patterns
    * `Pattern.advance`, the ends of occurrences
    * `Pattern.occursIn`, whether a text has an occurrence
-/

namespace Automation

/- A condition on a position, given by the characters around it. -/
inductive Edge where
  | textStart
  | textEnd
  | lineStart
  | lineEnd
  | lineStartAny
  | lineEndAny
  | word (unicode : Bool)
  | notWord (unicode : Bool)
  | wordStart (unicode : Bool)
  | wordEnd (unicode : Bool)
  | wordStartHalf (unicode : Bool)
  | wordEndHalf (unicode : Bool)
deriving DecidableEq, Inhabited

inductive Pattern where
  | empty
  | one (cls : CharClass)
  | edge (edge : Edge)
  | both (first second : Pattern)
  | either (first second : Pattern)
  | repeated (inner : Pattern) (least : Nat) (most : Option Nat)
deriving Inhabited

------------------------------------------------------------
-- Edges
------------------------------------------------------------

namespace Edge

def isWord
    (unicode : Bool) :
    Option Char → Bool
  | some c => (CharClass.word unicode).contains c
  | none => false

/- Whether the edge lies between two characters, where there are any. -/
def holds
    (edge : Edge)
    (before after : Option Char) :
    Bool :=
  match edge with
  | .textStart => before.isNone
  | .textEnd => after.isNone
  | .lineStart => before.isNone || before == some '\n'
  | .lineEnd => after.isNone || after == some '\n'
  | .lineStartAny =>
      before.isNone || before == some '\n' ||
        (before == some '\r' && after != some '\n')
  | .lineEndAny =>
      after.isNone || after == some '\r' ||
        (after == some '\n' && before != some '\r')
  | .word u => isWord u before != isWord u after
  | .notWord u => isWord u before == isWord u after
  | .wordStart u => !isWord u before && isWord u after
  | .wordEnd u => isWord u before && !isWord u after
  | .wordStartHalf u => !isWord u before
  | .wordEndHalf u => !isWord u after

end Edge

------------------------------------------------------------
-- Sets Of Positions
------------------------------------------------------------

abbrev Positions := List Bool

namespace Positions

def union
    (a b : Positions) :
    Positions :=
  List.zipWith or a b

/- Every position of a text. -/
def all
    (text : List Char) :
    Positions :=
  true :: text.map fun _ => true

/- Step over one character of a class. -/
def step
    (cls : CharClass)
    (text : List Char)
    (starts : Positions) :
    Positions :=
  false :: List.zipWith (fun here c => here && cls.contains c) starts text

/- Keep the positions that lie on an edge. -/
def onEdge
    (edge : Edge) :
    (before : Option Char) → List Char → Positions → Positions
  | before, c :: rest, here :: starts =>
      (here && edge.holds before (some c)) ::
        onEdge edge (some c) rest starts
  | before, [], here :: _ => [here && edge.holds before none]
  | _, _, [] => []

/- Apply a step a number of times, as long as it changes anything. -/
def iterate
    (f : Positions → Positions) :
    Nat → Positions → Positions
  | 0, starts => starts
  | n + 1, starts =>
      let next := f starts
      if next = starts then starts else iterate f n next

/- Apply a step up to a number of times, and keep all positions reached. -/
def reach
    (f : Positions → Positions)
    (n : Nat)
    (starts : Positions) :
    Positions :=
  iterate (fun here => union here (f here)) n starts

end Positions

------------------------------------------------------------
-- Occurrences
------------------------------------------------------------

namespace Pattern

/- The ends of the occurrences that start at given positions. -/
def advance
    (text : List Char) :
    Pattern → Positions → Positions
  | .empty, starts => starts
  | .one cls, starts => Positions.step cls text starts
  | .edge e, starts => Positions.onEdge e none text starts
  | .both p q, starts => q.advance text (p.advance text starts)
  | .either p q, starts =>
      Positions.union (p.advance text starts) (q.advance text starts)
  | .repeated p least most, starts =>
      let once := p.advance text
      let more :=
        match most with
        | some most => most - least
        | none => text.length + 1
      Positions.reach once more (Positions.iterate once least starts)

/- Whether some part of a text is an occurrence of the pattern. -/
def occursIn
    (pattern : Pattern)
    (text : String) :
    Bool :=
  let cs := text.toList
  (pattern.advance cs (Positions.all cs)).any id

------------------------------------------------------------
-- Size
------------------------------------------------------------

/-
  How large a pattern is when all repetitions are written out, in bytes of
  a machine that looks for it.
-/
def weight : Pattern → Nat
  | .empty => 32
  | .one cls =>
      if cls.size ≤ 2 then 32 else 32 + 64 * cls.size
  | .edge _ => 32
  | .both p q => p.weight + q.weight
  | .either p q => p.weight + q.weight + 40
  | .repeated p least most =>
      match most with
      | some most =>
          least * p.weight + (most - least) * (p.weight + 40) + 32
      | none => max 1 least * p.weight + 40

/- The largest weight that a pattern may have. -/
def weightLimit : Nat := 10485760

end Pattern

end Automation
