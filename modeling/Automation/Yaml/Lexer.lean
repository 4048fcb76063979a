import Automation.Yaml.Scalar
import Automation.Yaml.Token

/-
  A YAML text as a list of tokens.

  Indentation becomes tokens too: one where a block begins and one where it
  ends.  Whether a scalar is a key shows only when a colon follows it on
  the same line; until then it is a pending key, and the tokens that make
  it one are put in front of it later.

  Key definitions include:
    * `Yaml.Lexer`, a text that is taken apart up to some point
    * `Yaml.Lexer.step`, which reads one more token
    * `Yaml.tokens`, the tokens of a text
-/

namespace Automation

namespace Yaml

------------------------------------------------------------
-- States
------------------------------------------------------------

/-
  A token that may turn out to begin a key.  It has to be one if it stands
  where the surrounding block expects a key.
-/
structure PendingKey where
  required : Bool
  position : Nat
  mark : Mark
deriving DecidableEq, Inhabited

/-
  The columns of the open blocks stand with the innermost first, and so do
  the pending keys in front of the open brackets.
-/
structure Lexer where
  cursor : Cursor
  tokens : Array Token
  columns : List Nat
  key : Option PendingKey
  outerKeys : List (Option PendingKey)
  mayBeginKey : Bool
deriving Inhabited

namespace Lexer

def ofCursor
    (cursor : Cursor) :
    Lexer :=
  ⟨cursor, #[], [], none, [], true⟩

/- Whether a bracket is open. -/
def inFlow
    (lexer : Lexer) :
    Bool :=
  !lexer.outerKeys.isEmpty

def mark
    (lexer : Lexer) :
    Mark :=
  lexer.cursor.mark

------------------------------------------------------------
-- Tokens
------------------------------------------------------------

def push
    (lexer : Lexer)
    (kind : TokenKind)
    (start finish : Mark) :
    Lexer :=
  { lexer with tokens := lexer.tokens.push ⟨kind, start, finish⟩ }

/- Put a token in front of the one at a position. -/
def insertAt
    (lexer : Lexer)
    (position : Nat)
    (kind : TokenKind)
    (mark : Mark) :
    Lexer :=
  { lexer with
    tokens :=
      lexer.tokens.insertIdxIfInBounds position ⟨kind, mark, mark⟩ }

/- A token made of the next characters. -/
def take
    (lexer : Lexer)
    (kind : TokenKind)
    (length : Nat) :
    Lexer :=
  let cursor := lexer.cursor.skip length
  { lexer.push kind lexer.mark cursor.mark with cursor := cursor }

------------------------------------------------------------
-- Blocks
------------------------------------------------------------

/- End the blocks that are indented further than the given width. -/
def closeBlocks
    (lexer : Lexer)
    (width : Nat) :
    Lexer :=
  if lexer.inFlow then lexer
  else
    let closed := lexer.columns.takeWhile (width < ·)
    closed.foldl
      (fun lexer _ => lexer.push .blockEnd lexer.mark lexer.mark)
      { lexer with columns := lexer.columns.drop closed.length }

/- End all blocks. -/
def closeAllBlocks
    (lexer : Lexer) :
    Lexer :=
  if lexer.inFlow then lexer
  else
    lexer.columns.foldl
      (fun lexer _ => lexer.push .blockEnd lexer.mark lexer.mark)
      { lexer with columns := [] }

/- Whether a column lies further in than the innermost block. -/
def isInner
    (lexer : Lexer)
    (column : Nat) :
    Bool :=
  !lexer.inFlow && lexer.columns.head?.all (· < column)

/- Begin a block at a mark, in front of the token at a position. -/
def openBlock
    (lexer : Lexer)
    (kind : TokenKind)
    (position : Nat)
    (mark : Mark) :
    Lexer :=
  if lexer.isInner mark.column then
    { lexer.insertAt position kind mark with
      columns := mark.column :: lexer.columns }
  else lexer

------------------------------------------------------------
-- Pending Keys
------------------------------------------------------------

/- The problem of a key that has to be one and has no colon. -/
def missingColon
    (lexer : Lexer)
    (key : PendingKey) :
    Problem :=
  lexer.cursor.problem "could not find expected ':'"
    "while scanning a simple key" key.mark

/- Give up the pending key in front of the innermost bracket. -/
def dropKey
    (lexer : Lexer) :
    Except Problem Lexer :=
  match lexer.key with
  | some key =>
      if key.required then .error (lexer.missingColon key)
      else .ok { lexer with key := none }
  | none => .ok lexer

/- The next token may begin a key, if one can begin here. -/
def noteKey
    (lexer : Lexer) :
    Except Problem Lexer :=
  if lexer.mayBeginKey then
    let required :=
      !lexer.inFlow && lexer.columns.head? = some lexer.mark.column
    lexer.dropKey.map fun dropped =>
      { dropped with
        key := some ⟨required, lexer.tokens.size, lexer.mark⟩ }
  else .ok lexer

/- A key ends in its own line, and within 1024 characters. -/
def isStale
    (lexer : Lexer)
    (key : PendingKey) :
    Bool :=
  key.mark.line < lexer.mark.line ||
    key.mark.index + 1024 < lexer.mark.index

/- Whether a pending key still is one. -/
def fresh?
    (lexer : Lexer) :
    Option PendingKey → Except Problem (Option PendingKey)
  | none => .ok none
  | some key =>
      if !lexer.isStale key then .ok (some key)
      else if key.required then .error (lexer.missingColon key)
      else .ok none

/- Give up every pending key that is stale. -/
def dropStaleKeys
    (lexer : Lexer) :
    Except Problem Lexer := do
  let outer ← lexer.outerKeys.mapM lexer.fresh?
  let key ← lexer.fresh? lexer.key
  return { lexer with key := key, outerKeys := outer }

/-
  How many tokens come before every pending key.  A stale key is none any
  more, unless it has to be one.
-/
def settled
    (lexer : Lexer) :
    Nat :=
  (lexer.key :: lexer.outerKeys).foldl
    (fun n key =>
      match key with
      | some key =>
          if lexer.isStale key && !key.required then n
          else min n key.position
      | none => n)
    lexer.tokens.size

------------------------------------------------------------
-- White Space
------------------------------------------------------------

/-
  Skip white space and comments; a new line may begin a key.  A tab is not
  skipped where it could stand for indentation.
-/
def skipSpaceFrom
    (flow : Bool) :
    (mayBeginKey comment : Bool) → Mark → List Char → Bool × Cursor
  | mayBeginKey, _, mark, [] => (mayBeginKey, ⟨mark, []⟩)
  | mayBeginKey, comment, mark, c :: rest =>
      if isBreak c then
        skipSpaceFrom flow (mayBeginKey || !flow) false (mark.next c) rest
      else if comment || c = ' ' ||
          (c = '\t' && (flow || !mayBeginKey)) ||
          (c = '\ufeff' && mark.index = 0) then
        skipSpaceFrom flow mayBeginKey comment (mark.next c) rest
      else if c = '#' then
        skipSpaceFrom flow mayBeginKey true (mark.next c) rest
      else (mayBeginKey, ⟨mark, c :: rest⟩)

def skipSpace
    (lexer : Lexer) :
    Lexer :=
  let (mayBeginKey, cursor) :=
    skipSpaceFrom lexer.inFlow lexer.mayBeginKey false lexer.mark
      lexer.cursor.rest
  { lexer with mayBeginKey := mayBeginKey, cursor := cursor }

------------------------------------------------------------
-- Marks Of The Structure
------------------------------------------------------------

/- A token that no key goes on behind. -/
def separator
    (lexer : Lexer)
    (kind : TokenKind)
    (length : Nat)
    (mayBeginKey : Bool) :
    Except Problem Lexer :=
  lexer.dropKey.map fun lexer =>
    { lexer with mayBeginKey := mayBeginKey }.take kind length

def openBracket
    (lexer : Lexer)
    (kind : TokenKind) :
    Except Problem Lexer :=
  lexer.noteKey.map fun lexer =>
    { lexer with
      key := none
      outerKeys := lexer.key :: lexer.outerKeys
      mayBeginKey := true }.take kind 1

def closeBracket
    (lexer : Lexer)
    (kind : TokenKind) :
    Except Problem Lexer :=
  lexer.dropKey.map fun lexer =>
    let inner :=
      match lexer.outerKeys with
      | key :: outer => { lexer with key := key, outerKeys := outer }
      | [] => lexer
    { inner with mayBeginKey := false }.take kind 1

/- A problem with what stands here, whatever is around it. -/
def misplaced
    (lexer : Lexer)
    (reason : String) :
    Problem :=
  ⟨reason, lexer.mark, none⟩

/- A dash that begins an item. -/
def dash
    (lexer : Lexer) :
    Except Problem Lexer :=
  if lexer.inFlow then lexer.separator .dash 1 true
  else if lexer.mayBeginKey then
    (lexer.openBlock .blockSequence lexer.tokens.size
      lexer.mark).separator .dash 1 true
  else
    .error (lexer.misplaced
      "block sequence entries are not allowed in this context")

/- A question mark that begins a key. -/
def questionMark
    (lexer : Lexer) :
    Except Problem Lexer :=
  if lexer.inFlow then lexer.separator .key 1 false
  else if lexer.mayBeginKey then
    (lexer.openBlock .blockMapping lexer.tokens.size
      lexer.mark).separator .key 1 true
  else
    .error (lexer.misplaced "mapping keys are not allowed in this context")

/- A colon between a key and its value. -/
def colon
    (lexer : Lexer) :
    Except Problem Lexer :=
  match lexer.key with
  | some key =>
      let keyed :=
        (lexer.insertAt key.position .key key.mark).openBlock .blockMapping
          key.position key.mark
      .ok ({ keyed with key := none, mayBeginKey := false }.take .value 1)
  | none =>
      if lexer.inFlow then
        .ok ({ lexer with mayBeginKey := false }.take .value 1)
      else if lexer.mayBeginKey then
        let opened :=
          lexer.openBlock .blockMapping lexer.tokens.size lexer.mark
        .ok ({ opened with mayBeginKey := true }.take .value 1)
      else
        .error (lexer.misplaced
          "mapping values are not allowed in this context")

/- A line that begins or ends a document. -/
def documentLine
    (lexer : Lexer)
    (kind : TokenKind) :
    Except Problem Lexer :=
  lexer.closeAllBlocks.separator kind 3 false

------------------------------------------------------------
-- Names
------------------------------------------------------------

def isNameChar
    (c : Char) :
    Bool :=
  c.isAlphanum || c = '_' || c = '-'

/- Whether a name can end in front of some characters. -/
def endsName : List Char → Bool
  | [] => true
  | c :: _ =>
      isBlankOrBreak c ||
        ['?', ':', ',', ']', '\x7d', '%', '@', '\x60'].contains c

/- The name of a part, or a reference to such a name. -/
def name
    (lexer : Lexer)
    (kind : String → TokenKind)
    (context : String) :
    Except Problem Lexer := do
  let lexer ← lexer.noteKey
  let (name, after) := lexer.cursor.next.span isNameChar
  if name.isEmpty || !endsName after.rest then
    .error (after.problem
      "did not find expected alphabetic or numeric character" context
      lexer.mark)
  else
    return { lexer with mayBeginKey := false }.take
      (kind (String.ofList name)) (name.length + 1)

/- A tag; the ones that two marks begin belong to the language itself. -/
def tag
    (lexer : Lexer) :
    Except Problem Lexer := do
  let lexer ← lexer.noteKey
  let flow := lexer.inFlow
  let (written, after) := lexer.cursor.span fun c =>
    !isBlankOrBreak c && !(flow && isFlowMark c)
  if endsWord after.rest || after.nextIs (· = ',') then
    let name :=
      match written with
      | '!' :: '!' :: rest => "tag:yaml.org,2002:" ++ String.ofList rest
      | '!' :: '<' :: rest => String.ofList (rest.takeWhile (· ≠ '>'))
      | _ => String.ofList written
    return { lexer with mayBeginKey := false }.take (.tag name)
      written.length
  else
    .error (after.problem "did not find expected whitespace or line break"
      "while scanning a tag" lexer.mark)

/- A line with an instruction to the reader. -/
def directive
    (lexer : Lexer) :
    Except Problem Lexer := do
  let lexer ← lexer.closeAllBlocks.dropKey
  let (name, after) := lexer.cursor.next.span isNameChar
  if ["YAML", "TAG"].contains (String.ofList name) then
    let length := (lexer.cursor.rest.takeWhile fun c => !isBreak c).length
    return { lexer with mayBeginKey := false }.take .directive length
  else if name.isEmpty then
    .error (after.problem "could not find expected directive name"
      "while scanning a directive" lexer.mark)
  else
    .error (after.problem "found unknown directive name"
      "while scanning a directive" lexer.mark)

------------------------------------------------------------
-- Scalars
------------------------------------------------------------

/- Go on behind a scalar. -/
def behind
    (lexer : Lexer)
    (plain mayBeginKey : Bool)
    (reading : ScalarReading) :
    Lexer :=
  { lexer.push (.scalar plain reading.text) lexer.mark
      reading.cursor.mark with
    cursor := reading.cursor
    mayBeginKey := mayBeginKey }

def plain
    (lexer : Lexer) :
    Except Problem Lexer := do
  let lexer ← lexer.noteKey
  let width := (lexer.columns.head?.map (· + 1)).getD 0
  let reading ← plainAt lexer.inFlow width lexer.cursor
  return lexer.behind true reading.broken reading

def quoted
    (lexer : Lexer)
    (quote : Char) :
    Except Problem Lexer := do
  let lexer ← lexer.noteKey
  let reading ← quotedAt quote lexer.cursor
  return lexer.behind false false reading

def block
    (lexer : Lexer)
    (literal : Bool) :
    Except Problem Lexer := do
  let lexer ← lexer.dropKey
  let reading ← blockAt literal lexer.columns.head? lexer.cursor
  return lexer.behind false true reading

/- Whether a plain scalar begins with some characters. -/
def beginsPlain
    (flow : Bool) :
    List Char → Bool
  | [] => false
  | '-' :: rest => !(rest.head?.any isBlank)
  | '?' :: rest => !flow && !endsWord rest
  | ':' :: rest => !flow && !endsWord rest
  | c :: _ =>
      !isBlankOrBreak c && !isFlowMark c &&
        ['#', '&', '*', '!', '|', '>', '\'', '"', '%', '@',
          '\x60'].all (· ≠ c)

------------------------------------------------------------
-- Steps
------------------------------------------------------------

/- The end of the text, as if it were at the start of a line. -/
def finish
    (lexer : Lexer) :
    Except Problem Lexer :=
  let mark := lexer.mark
  let last : Mark :=
    if mark.column = 0 then mark else ⟨mark.index, mark.line + 1, 0⟩
  let atEnd := { lexer with cursor := ⟨last, []⟩ }
  atEnd.closeAllBlocks.dropKey.map fun lexer =>
    lexer.push .streamEnd last last

/- Read the token that begins with the next character. -/
def next
    (lexer : Lexer) :
    Except Problem Lexer :=
  let atLineStart := lexer.mark.column = 0
  let single := lexer.inFlow || endsWord (lexer.cursor.rest.drop 1)
  match lexer.cursor.rest with
  | [] => lexer.finish
  | c :: rest =>
      if atLineStart && c = '%' then lexer.directive
      else if lexer.cursor.startsWith ['-', '-', '-'] then
        lexer.documentLine .documentStart
      else if lexer.cursor.startsWith ['.', '.', '.'] then
        lexer.documentLine .documentEnd
      else if c = '[' then lexer.openBracket .openBracket
      else if c = '\x7b' then lexer.openBracket .openBrace
      else if c = ']' then lexer.closeBracket .closeBracket
      else if c = '\x7d' then lexer.closeBracket .closeBrace
      else if c = ',' then lexer.separator .comma 1 true
      else if c = '-' && endsWord rest then lexer.dash
      else if c = '?' && single then lexer.questionMark
      else if c = ':' && single then lexer.colon
      else if c = '*' then lexer.name .alias "while scanning an alias"
      else if c = '&' then lexer.name .anchor "while scanning an anchor"
      else if c = '!' then lexer.tag
      else if c = '|' && !lexer.inFlow then lexer.block true
      else if c = '>' && !lexer.inFlow then lexer.block false
      else if c = '\'' || c = '"' then lexer.quoted c
      else if beginsPlain lexer.inFlow (c :: rest) then lexer.plain
      else
        .error (lexer.cursor.problem
          "found character that cannot start any token"
          "while scanning for the next token" lexer.mark)

/- Read one more token, and those that indentation puts before it. -/
def step
    (lexer : Lexer) :
    Except Problem Lexer := do
  let lexer ← lexer.skipSpace.dropStaleKeys
  (lexer.closeBlocks lexer.mark.column).next

def isFinished
    (lexer : Lexer) :
    Bool :=
  match lexer.tokens.back? with
  | some token => token.kind = .streamEnd
  | none => false

/-
  The tokens of a text.  Where the text cannot be taken apart any further,
  the tokens from the first pending key on are not known either.
-/
def run :
    Nat → Lexer → List Token
  | 0, lexer => lexer.tokens.toList
  | fuel + 1, lexer =>
      if lexer.isFinished then lexer.tokens.toList
      else
        match lexer.step with
        | .ok lexer => run fuel lexer
        | .error problem =>
            lexer.tokens.toList.take lexer.settled ++
              [⟨.unreadable problem, problem.mark, problem.mark⟩]

end Lexer

/-
  The tokens of a text, which end in the end of the stream or in a fault.
-/
def tokens
    (s : String) :
    List Token :=
  match Cursor.ofText s with
  | .ok cursor => (Lexer.ofCursor cursor).run (s.length + 2)
  | .error problem =>
      [⟨.unreadable problem, problem.mark, problem.mark⟩]

end Yaml

end Automation
