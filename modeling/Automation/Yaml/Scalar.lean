import Automation.Text.CharSet
import Automation.Yaml.Cursor

/-
  The scalars of a YAML text.

  A plain or quoted scalar runs over several lines by folding: a single
  line break becomes a space, and of more breaks the first is dropped.  A
  block scalar keeps its lines, less their indentation.

  Key definitions include:
    * `Yaml.Gap`, the white space inside a scalar
    * `Yaml.plainAt`, `Yaml.quotedAt` and `Yaml.blockAt`
-/

namespace Automation

namespace Yaml

------------------------------------------------------------
-- White Space Inside A Scalar
------------------------------------------------------------

/-
  Blanks on one line, or line breaks; both with the last one first.  A gap
  that starts with an escaped break is not folded.
-/
structure Gap where
  blanks : List Char
  breaks : List Char
  escaped : Bool
deriving Inhabited

namespace Gap

def empty : Gap := ⟨[], [], false⟩

def afterEscape : Gap := ⟨[], [], true⟩

/- Whether the scalar goes on in another line. -/
def isBroken
    (gap : Gap) :
    Bool :=
  gap.escaped || !gap.breaks.isEmpty

def isEmpty
    (gap : Gap) :
    Bool :=
  gap.blanks.isEmpty && !gap.isBroken

/- The gap with another character of white space. -/
def add
    (gap : Gap)
    (c : Char) :
    Gap :=
  if isBreak c then { gap with breaks := c :: gap.breaks }
  else if gap.isBroken then gap
  else { gap with blanks := c :: gap.blanks }

/- What a gap stands for. -/
def text
    (gap : Gap) :
    List Char :=
  if gap.escaped then gap.breaks.reverse
  else
    match gap.breaks.reverse with
    | [] => gap.blanks.reverse
    | ['\n'] => [' ']
    | '\n' :: more => more
    | breaks => breaks

end Gap

------------------------------------------------------------
-- Plain Scalars
------------------------------------------------------------

/- A scalar, the point behind it, and whether lines end in between. -/
structure ScalarReading where
  text : String
  cursor : Cursor
  broken : Bool
deriving Inhabited

/- The characters that end a plain scalar inside brackets. -/
def isFlowMark
    (c : Char) :
    Bool :=
  c = ',' || c = '[' || c = ']' || c = '\x7b' || c = '\x7d'

/- Whether a colon at the head of some characters ends a plain scalar. -/
def colonEnds : List Char → Bool
  | ':' :: rest => endsWord rest
  | _ => false

/- Whether a colon inside brackets stands where none can be. -/
def colonClashes : List Char → Bool
  | ':' :: c :: _ => isFlowMark c || c = '?'
  | _ => false

def plainContext : String := "while scanning a plain scalar"

/-
  The rest of a plain scalar, with its text so far last character first.
  Lines that follow are indented by at least the given width.
-/
def plainFrom
    (flow : Bool)
    (width : Nat)
    (start : Mark) :
    (text : List Char) → Gap → Mark → List Char →
      Except Problem ScalarReading
  | text, gap, mark, [] =>
      .ok ⟨String.ofList text.reverse, ⟨mark, []⟩, gap.isBroken⟩
  | text, gap, mark, c :: rest =>
      let cursor : Cursor := ⟨mark, c :: rest⟩
      let done := ScalarReading.mk (String.ofList text.reverse) cursor
        gap.isBroken
      if isBlankOrBreak c then
        if c = '\t' && gap.isBroken && mark.column < width then
          .error (cursor.problem
            "found a tab character that violates indentation"
            plainContext start)
        else plainFrom flow width start text (gap.add c) (mark.next c) rest
      else if !gap.isEmpty &&
          ((!flow && mark.column < width) || cursor.atDocument ||
            c = '#') then
        .ok done
      else if flow && colonClashes (c :: rest) then
        .error (cursor.problem "found unexpected ':'" plainContext start)
      else if colonEnds (c :: rest) || (flow && isFlowMark c) then
        .ok done
      else
        plainFrom flow width start (c :: (gap.text.reverse ++ text)) .empty
          (mark.next c) rest

def plainAt
    (flow : Bool)
    (width : Nat)
    (cursor : Cursor) :
    Except Problem ScalarReading :=
  plainFrom flow width cursor.mark [] .empty cursor.mark cursor.rest

------------------------------------------------------------
-- Quoted Scalars
------------------------------------------------------------

/- The character that a letter after a backslash stands for. -/
def escaped? : Char → Option Char
  | '0' => some (Char.ofNat 0)
  | 'a' => some (Char.ofNat 7)
  | 'b' => some (Char.ofNat 8)
  | 't' => some '\t'
  | '\t' => some '\t'
  | 'n' => some '\n'
  | 'v' => some (Char.ofNat 11)
  | 'f' => some (Char.ofNat 12)
  | 'r' => some '\r'
  | 'e' => some (Char.ofNat 27)
  | ' ' => some ' '
  | '"' => some '"'
  | '/' => some '/'
  | '\\' => some '\\'
  | 'N' => some '\u0085'
  | '_' => some '\u00a0'
  | 'L' => some '\u2028'
  | 'P' => some '\u2029'
  | _ => none

/- How many digits of a code follow a letter after a backslash. -/
def codeLength? : Char → Option Nat
  | 'x' => some 2
  | 'u' => some 4
  | 'U' => some 8
  | _ => none

def isHex
    (c : Char) :
    Bool :=
  ('0' ≤ c ∧ c ≤ '9') || ('a' ≤ c ∧ c ≤ 'f') || ('A' ≤ c ∧ c ≤ 'F')

def escapeContext : String := "while parsing a quoted scalar"

/- The character that an escape stands for, after its backslash. -/
def escapeAt
    (start : Mark)
    (cursor : Cursor) :
    Except Problem (Char × Cursor) :=
  let unknown :=
    cursor.problem "found unknown escape character" escapeContext start
  match cursor.next.rest with
  | [] => .error unknown
  | letter :: _ =>
      match escaped? letter, codeLength? letter with
      | some c, _ => .ok (c, cursor.skip 2)
      | none, none => .error unknown
      | none, some length =>
          let cursor := cursor.skip 2
          let digits := (cursor.rest.take length).takeWhile isHex
          let code := CharSet.readCode digits
          if digits.length < length then
            .error (cursor.problem
              "did not find expected hexdecimal number" escapeContext
              start)
          else if h : code.isValidChar then
            .ok (Char.ofNatAux code h, cursor.skip length)
          else
            .error (cursor.problem
              "found invalid Unicode character escape code"
              escapeContext start)

def quotedContext : String := "while scanning a quoted scalar"

/- The rest of a quoted scalar, up to its closing quote. -/
def quotedFrom
    (quote : Char)
    (start : Mark) :
    Nat → (text : List Char) → Gap → Cursor → Except Problem ScalarReading
  | 0, _, _, cursor =>
      .error (cursor.problem "found unexpected end of stream"
        quotedContext start)
  | fuel + 1, text, gap, cursor =>
      let onward (c : Char) (cursor : Cursor) :=
        quotedFrom quote start fuel
          (c :: (gap.text.reverse ++ text)) .empty
          cursor
      if cursor.atDocument then
        .error (cursor.problem "found unexpected document indicator"
          quotedContext start)
      else
        match cursor.rest with
        | [] =>
            .error (cursor.problem "found unexpected end of stream"
              quotedContext start)
        | c :: rest =>
            if isBlankOrBreak c then
              quotedFrom quote start fuel text (gap.add c) cursor.next
            else if c = quote then
              if quote = '\'' ∧ rest.head? = some '\'' then
                onward c (cursor.skip 2)
              else
                .ok ⟨String.ofList (gap.text.reverse ++ text).reverse,
                  cursor.next, false⟩
            else if quote = '"' ∧ c = '\\' then
              match rest with
              | d :: _ =>
                  if isBreak d then
                    quotedFrom quote start fuel (gap.text.reverse ++ text)
                      .afterEscape (cursor.skip 2)
                  else
                    match escapeAt start cursor with
                    | .error problem => .error problem
                    | .ok (c, cursor) => onward c cursor
              | [] =>
                  .error (cursor.problem "found unknown escape character"
                    escapeContext start)
            else onward c cursor.next

/- A scalar between quotes, from its opening quote on. -/
def quotedAt
    (quote : Char)
    (cursor : Cursor) :
    Except Problem ScalarReading :=
  quotedFrom quote cursor.mark (cursor.rest.length + 1) [] .empty
    cursor.next

------------------------------------------------------------
-- Block Scalars
------------------------------------------------------------

/- What becomes of the line breaks at the end of a block scalar. -/
inductive Chomping where
  | strip
  | clip
  | keep
deriving DecidableEq, Inhabited

/- The marks in the first line of a block scalar. -/
structure BlockHeader where
  chomping : Chomping
  increment : Option Nat
deriving DecidableEq, Inhabited

def blockContext : String := "while scanning a block scalar"

def chomping? : List Char → Option Chomping
  | '+' :: _ => some .keep
  | '-' :: _ => some .strip
  | _ => none

/- A digit that says how far the lines are indented. -/
def incrementAt
    (start : Mark)
    (cursor : Cursor) :
    Except Problem (Option Nat × Cursor) :=
  match cursor.rest with
  | c :: _ =>
      if c = '0' then
        .error (cursor.problem
          "found an indentation indicator equal to 0" blockContext start)
      else if '1' ≤ c ∧ c ≤ '9' then
        .ok (some (CharSet.readCode [c]), cursor.next)
      else .ok (none, cursor)
  | [] => .ok (none, cursor)

/- The marks, in either order. -/
def headerAt
    (start : Mark)
    (cursor : Cursor) :
    Except Problem (BlockHeader × Cursor) :=
  match chomping? cursor.rest with
  | some chomping =>
      (incrementAt start cursor.next).map fun (increment, cursor) =>
        (⟨chomping, increment⟩, cursor)
  | none =>
      (incrementAt start cursor).map fun (increment, cursor) =>
        match increment, chomping? cursor.rest with
        | some _, some chomping => (⟨chomping, increment⟩, cursor.next)
        | _, _ => (⟨.clip, increment⟩, cursor)

/- The point behind the first line. -/
def headerEnd
    (start : Mark)
    (cursor : Cursor) :
    Except Problem Cursor :=
  let cursor := (cursor.span isBlank).2
  let cursor := if cursor.nextIs (· = '#') then cursor.lineEnd else cursor
  match cursor.rest with
  | [] => .ok cursor
  | c :: _ =>
      if isBreak c then .ok cursor.next
      else
        .error
          (cursor.problem "did not find expected comment or line break"
            blockContext start)

/-
  Empty lines and the indentation of the line after them.  A width that is
  not known yet is found from the widest of them.
-/
def emptyLinesFrom
    (width : Option Nat)
    (start : Mark) :
    (widest : Nat) → (breaks : List Char) → Mark → List Char →
      Except Problem (Nat × List Char × Cursor)
  | widest, breaks, mark, [] =>
      .ok (max widest mark.column, breaks.reverse, ⟨mark, []⟩)
  | widest, breaks, mark, c :: rest =>
      let inside := width.all fun width => mark.column < width
      let widest := max widest mark.column
      if c = ' ' && inside then
        emptyLinesFrom width start widest breaks (mark.next c) rest
      else if c = '\t' && inside then
        .error (Cursor.problem ⟨mark, c :: rest⟩
          "found a tab character where an indentation space is expected"
          blockContext start)
      else if isBreak c then
        emptyLinesFrom width start widest (c :: breaks) (mark.next c) rest
      else .ok (widest, breaks.reverse, ⟨mark, c :: rest⟩)

/-
  A block scalar up to some line: its text, the break of the last line, the
  breaks of the empty lines after it, and whether it starts with a blank.
-/
structure Block where
  text : List Char
  lineBreak : List Char
  emptyLines : List Char
  indented : Bool
deriving Inhabited

namespace Block

/- The breaks in front of a line, folded where that is asked for. -/
def breaks
    (block : Block)
    (literal indented : Bool) :
    List Char :=
  if !literal && block.lineBreak = ['\n'] && !block.indented &&
      !indented then
    if block.emptyLines.isEmpty then [' '] else block.emptyLines
  else block.lineBreak ++ block.emptyLines

/- The whole text. -/
def chomped
    (block : Block)
    (chomping : Chomping) :
    List Char :=
  match chomping with
  | .strip => block.text
  | .clip => block.text ++ block.lineBreak
  | .keep => block.text ++ block.lineBreak ++ block.emptyLines

end Block

/- The lines of a block scalar. -/
def blockLines
    (literal : Bool)
    (width : Nat)
    (start : Mark) :
    Nat → Block → Cursor → Except Problem (Block × Cursor)
  | 0, block, cursor => .ok (block, cursor)
  | fuel + 1, block, cursor =>
      if cursor.mark.column = width && !cursor.rest.isEmpty then
        let indented := cursor.nextIs isBlank
        let (line, after) := cursor.span fun c => !isBreak c
        let lineBreak := after.rest.take 1
        let after := after.skip lineBreak.length
        match
            emptyLinesFrom (some width) start 0 [] after.mark
              after.rest with
        | .error problem => .error problem
        | .ok (_, emptyLines, after) =>
            blockLines literal width start fuel
              ⟨block.text ++ block.breaks literal indented ++ line,
                lineBreak, emptyLines, indented⟩ after
      else .ok (block, cursor)

/-
  A block scalar, from its mark on.  Its lines are indented further than
  the block around it, whose width is given.
-/
def blockAt
    (literal : Bool)
    (outer : Option Nat)
    (cursor : Cursor) :
    Except Problem ScalarReading := do
  let start := cursor.mark
  let (header, cursor) ← headerAt start cursor.next
  let cursor ← headerEnd start cursor
  let width? := header.increment.map (outer.getD 0 + ·)
  let (widest, emptyLines, cursor) ←
    emptyLinesFrom width? start 0 [] cursor.mark cursor.rest
  let least := (outer.map (· + 1)).getD 1
  let width := width?.getD (max widest (max least 1))
  let (block, cursor) ←
    blockLines literal width start (cursor.rest.length + 1)
      ⟨[], [], emptyLines, false⟩ cursor
  return ⟨String.ofList (block.chomped header.chomping), cursor, true⟩

end Yaml

end Automation
