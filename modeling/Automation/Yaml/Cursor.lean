/-
  Points of a YAML text, and what can be wrong at them.

  A text is taken apart into characters with every line end but the two
  separators of Unicode written as a line feed.  A mark counts characters.

  Key definitions include:
    * `Yaml.Mark` and `Yaml.Cursor`
    * `Yaml.Problem` and `Yaml.Problem.message`
    * `Yaml.Cursor.ofText`, the start of a text
-/

namespace Automation

namespace Yaml

------------------------------------------------------------
-- Kinds Of Characters
------------------------------------------------------------

def isBlank
    (c : Char) :
    Bool :=
  c = ' ' || c = '\t'

/- A line feed, or one of the separators of lines and of paragraphs. -/
def isBreak
    (c : Char) :
    Bool :=
  c = '\n' || c = '\u2028' || c = '\u2029'

def isBlankOrBreak
    (c : Char) :
    Bool :=
  isBlank c || isBreak c

/- Whether no more than white space comes next. -/
def endsWord : List Char → Bool
  | [] => true
  | c :: _ => isBlankOrBreak c

/- Write every line end as a line feed. -/
def unifyBreaks : List Char → List Char
  | [] => []
  | '\r' :: '\n' :: rest => '\n' :: unifyBreaks rest
  | '\r' :: rest => '\n' :: unifyBreaks rest
  | '\u0085' :: rest => '\n' :: unifyBreaks rest
  | c :: rest => c :: unifyBreaks rest

/- Characters that a text may hold. -/
def isPrintable
    (c : Char) :
    Bool :=
  let code := c.toNat
  code = 0x9 || code = 0xA || code = 0xD || code = 0x85 ||
    (0x20 ≤ code && code ≤ 0x7E) || (0xA0 ≤ code && code ≤ 0xFFFD) ||
    0x10000 ≤ code

------------------------------------------------------------
-- Marks
------------------------------------------------------------

/- How many characters come before, and the line and the column. -/
structure Mark where
  index : Nat
  line : Nat
  column : Nat
deriving DecidableEq, Inhabited

namespace Mark

def start : Mark := ⟨0, 0, 0⟩

/- The mark behind a character. -/
def next
    (mark : Mark)
    (c : Char) :
    Mark :=
  if isBreak c then ⟨mark.index + 1, mark.line + 1, 0⟩
  else ⟨mark.index + 1, mark.line, mark.column + 1⟩

def isStart
    (mark : Mark) :
    Bool :=
  mark.line = 0 && mark.column = 0

def text
    (mark : Mark) :
    String :=
  if mark.isStart then "position " ++ toString mark.index
  else
    "line " ++ toString (mark.line + 1) ++ " column " ++
      toString (mark.column + 1)

end Mark

------------------------------------------------------------
-- Problems
------------------------------------------------------------

/- What is wrong, where, and in which part of the text that began where. -/
structure Problem where
  reason : String
  mark : Mark
  context : Option (String × Option Mark)
deriving DecidableEq, Inhabited

namespace Problem

def message
    (problem : Problem) :
    String :=
  let place :=
    if problem.mark.isStart then "" else " at " ++ problem.mark.text
  let context :=
    match problem.context with
    | none => ""
    | some (part, none) => ", " ++ part
    | some (part, some mark) =>
        ", " ++ part ++
          (if mark.line = problem.mark.line ∧
              mark.column = problem.mark.column then ""
            else " at " ++ mark.text)
  problem.reason ++ place ++ context

end Problem

------------------------------------------------------------
-- Cursors
------------------------------------------------------------

structure Cursor where
  mark : Mark
  rest : List Char
deriving Inhabited

namespace Cursor

/- The point behind the next character. -/
def next
    (cursor : Cursor) :
    Cursor :=
  match cursor.rest with
  | [] => cursor
  | c :: rest => ⟨cursor.mark.next c, rest⟩

/- The point behind some characters that come next. -/
def skip
    (cursor : Cursor) :
    Nat → Cursor
  | 0 => cursor
  | n + 1 => cursor.next.skip n

/- The characters that come next and have a property. -/
def span
    (cursor : Cursor)
    (p : Char → Bool) :
    List Char × Cursor :=
  let taken := cursor.rest.takeWhile p
  (taken, cursor.skip taken.length)

/- The point where the line ends. -/
def lineEnd
    (cursor : Cursor) :
    Cursor :=
  (cursor.span fun c => !isBreak c).2

def nextIs
    (cursor : Cursor)
    (p : Char → Bool) :
    Bool :=
  match cursor.rest with
  | c :: _ => p c
  | [] => false

/- Whether a line starts here with a word of three marks. -/
def startsWith
    (cursor : Cursor)
    (indicator : List Char) :
    Bool :=
  cursor.mark.column = 0 && indicator.isPrefixOf cursor.rest &&
    endsWord (cursor.rest.drop indicator.length)

/- Whether a document begins or ends here. -/
def atDocument
    (cursor : Cursor) :
    Bool :=
  cursor.startsWith ['-', '-', '-'] || cursor.startsWith ['.', '.', '.']

/- A problem with the next character. -/
def problem
    (cursor : Cursor)
    (reason : String)
    (part : String)
    (start : Mark) :
    Problem :=
  ⟨reason, cursor.mark, some (part, some start)⟩

end Cursor

/- The bytes in front of the first character that a text may not hold. -/
def unprintableAt? :
    (bytes : Nat) → List Char → Option Nat
  | _, [] => none
  | bytes, c :: rest =>
      if isPrintable c then unprintableAt? (bytes + c.utf8Size) rest
      else some bytes

/- The start of a text, unless it holds a control character. -/
def Cursor.ofText
    (s : String) :
    Except Problem Cursor :=
  match unprintableAt? 0 s.toList with
  | none => .ok ⟨.start, unifyBreaks s.toList⟩
  | some 0 => .error ⟨"control characters are not allowed", .start, none⟩
  | some bytes =>
      .error
        ⟨"control characters are not allowed at position " ++
            toString bytes, .start, none⟩

end Yaml

end Automation
