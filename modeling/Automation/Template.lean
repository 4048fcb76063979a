import Automation.Context
import Automation.Document.Printer

/-
  Templates: texts with placeholders for the values of a context.

  A placeholder is a path in double braces; neither the path nor the white
  space around it holds a brace.  The value that the path names takes the
  place of the placeholder, and is not searched for placeholders again.  A
  placeholder whose path names nothing stays as it is.

  Key definitions include:
    * `Template.segments`, the parts of a template
    * `Template.replace`, a template with its placeholders replaced
    * `Template.fill`, the same, which leaves texts without two opening
      braces alone
    * `Document.fill`, the same for every string of a document
-/

namespace Automation

namespace Template

------------------------------------------------------------
-- Segments
------------------------------------------------------------

/- A placeholder keeps everything between its braces. -/
inductive Segment where
  | char (c : Char)
  | placeholder (inner : List Char)
deriving DecidableEq, Inhabited

def isBrace
    (c : Char) :
    Bool :=
  c = '\x7b' || c = '\x7d'

/- What a text that starts with a placeholder has between the braces. -/
def inner? : List Char → Option (List Char)
  | '\x7b' :: '\x7b' :: rest =>
      let inner := rest.takeWhile fun c => !isBrace c
      if ['\x7d', '\x7d'].isPrefixOf
          (rest.dropWhile fun c => !isBrace c) then
        some inner
      else none
  | _ => none

/-
  The segments of a text, from the left; `skip` counts the characters that
  still belong to the placeholder before.
-/
def segmentsFrom :
    (skip : Nat) → List Char → List Segment
  | _, [] => []
  | skip + 1, _ :: rest => segmentsFrom skip rest
  | 0, c :: rest =>
      match inner? (c :: rest) with
      | some inner =>
          .placeholder inner :: segmentsFrom (inner.length + 3) rest
      | none => .char c :: segmentsFrom 0 rest

def segments
    (s : String) :
    List Segment :=
  segmentsFrom 0 s.toList

/- Whether a text has a placeholder. -/
def isTemplate
    (s : String) :
    Bool :=
  (segments s).any fun
    | .placeholder _ => true
    | .char _ => false

------------------------------------------------------------
-- Filling
------------------------------------------------------------

/- The text of a segment. -/
def Segment.fill
    (context : Context) :
    Segment → List Char
  | .char c => [c]
  | .placeholder inner =>
      match context.resolve (String.ofList inner) with
      | some value => value.plain.toList
      | none => '\x7b' :: '\x7b' :: inner ++ ['\x7d', '\x7d']

/- A text with its placeholders replaced. -/
def replace
    (context : Context)
    (s : String) :
    String :=
  String.ofList ((segments s).flatMap (·.fill context))

/- Fill a template; a text without two opening braces is left alone. -/
def fill
    (context : Context)
    (s : String) :
    String :=
  if Text.occurs ['\x7b', '\x7b'] s.toList then replace context s else s

end Template

namespace Document

mutual

/- Fill the templates among the strings of a document. -/
def fill
    (context : Context) :
    Document → Document
  | .string s => .string (Template.fill context s)
  | .array items => .array (fillItems context items)
  | .object entries => .object (fillEntries context entries)
  | d => d

def fillItems
    (context : Context) :
    List Document → List Document
  | [] => []
  | x :: xs => fill context x :: fillItems context xs

def fillEntries
    (context : Context) :
    List (String × Document) → List (String × Document)
  | [] => []
  | (key, x) :: xs => (key, fill context x) :: fillEntries context xs

end

end Document

end Automation
