import Automation.Binary64.Shortest
import Automation.Document

/-
  Documents as text.

  The texts of a document differ in the white space between its parts: the
  compact text has none, and the spread text puts each entry on a line of
  its own.  Strings escape the quote, the backslash and the characters
  below the space, and no other.

  Key definitions include:
    * `Document.Spacing`, the white space of a text
    * `Document.printed`, the text with some white space
    * `Document.compact`, the text on one line
    * `Document.spread`, the text on many lines
    * `Document.plain`, the text of a document inside another text
    * `Document.byteSize`, the size of the compact text
-/

namespace Automation

------------------------------------------------------------
-- Numbers
------------------------------------------------------------

namespace Number

/-
  Numbers from 0.00001 up to ten to the sixteenth are written without an
  exponent, and a positive exponent shows its sign.
-/
def layout : Layout := ⟨-5, 16, "+"⟩

def digits : Number → List Char
  | .integer i =>
      if i < 0 then '-' :: Nat.toDigits 10 i.natAbs
      else Nat.toDigits 10 i.natAbs
  | .real x => layout.render x

end Number

------------------------------------------------------------
-- Strings
------------------------------------------------------------

namespace Document

/- A character inside a quoted string. -/
def escape
    (c : Char) :
    List Char :=
  if c = '"' then ['\\', '"']
  else if c = '\\' then ['\\', '\\']
  else if c.toNat = 8 then ['\\', 'b']
  else if c.toNat = 9 then ['\\', 't']
  else if c.toNat = 10 then ['\\', 'n']
  else if c.toNat = 12 then ['\\', 'f']
  else if c.toNat = 13 then ['\\', 'r']
  else if c.toNat < 32 then
    ['\\', 'u', '0', '0', Nat.digitChar (c.toNat / 16),
      Nat.digitChar (c.toNat % 16)]
  else [c]

def quote
    (s : String) :
    List Char :=
  '"' :: s.toList.flatMap escape ++ ['"']

------------------------------------------------------------
-- White Space
------------------------------------------------------------

/- White space between the parts of a text. -/
def isBlank
    (c : Char) :
    Bool :=
  c = ' ' || c = '\n' || c = '\t' || c = '\r'

/-
  What stands in front of the parts of a container at some level, and
  behind the colon of an entry.
-/
structure Spacing where
  gap : (level : Nat) → List Char
  colon : List Char
  gap_blank : ∀ level, (gap level).all isBlank = true
  colon_blank : colon.all isBlank = true

/- A new line, indented by two spaces for each level. -/
def newLine
    (level : Nat) :
    List Char :=
  '\n' :: List.replicate (2 * level) ' '

theorem newLine_blank
    (level : Nat) :
    (newLine level).all isBlank = true := by
  simp [newLine, isBlank]

def Spacing.tight : Spacing :=
  ⟨fun _ => [], [], fun _ => rfl, rfl⟩

def Spacing.wide : Spacing :=
  ⟨newLine, [' '], newLine_blank, rfl⟩

------------------------------------------------------------
-- Texts
------------------------------------------------------------

mutual

def write
    (spacing : Spacing)
    (level : Nat) :
    Document → List Char
  | .null => ['n', 'u', 'l', 'l']
  | .bool true => ['t', 'r', 'u', 'e']
  | .bool false => ['f', 'a', 'l', 's', 'e']
  | .number n => n.digits
  | .string s => quote s
  | .array [] => ['[', ']']
  | .array (x :: xs) =>
      '[' :: spacing.gap (level + 1) ++
        write spacing (level + 1) x ++ writeItems spacing level xs
  | .object [] => ['\x7b', '\x7d']
  | .object ((key, x) :: xs) =>
      '\x7b' :: spacing.gap (level + 1) ++ quote key ++
        ':' :: spacing.colon ++ write spacing (level + 1) x ++
          writeEntries spacing level xs

def writeItems
    (spacing : Spacing)
    (level : Nat) :
    List Document → List Char
  | [] => spacing.gap level ++ [']']
  | x :: xs =>
      ',' :: spacing.gap (level + 1) ++
        write spacing (level + 1) x ++ writeItems spacing level xs

def writeEntries
    (spacing : Spacing)
    (level : Nat) :
    List (String × Document) → List Char
  | [] => spacing.gap level ++ ['\x7d']
  | (key, x) :: xs =>
      ',' :: spacing.gap (level + 1) ++ quote key ++
        ':' :: spacing.colon ++ write spacing (level + 1) x ++
          writeEntries spacing level xs

end

def printed
    (spacing : Spacing)
    (d : Document) :
    String :=
  String.ofList (d.write spacing 0)

def compact
    (d : Document) :
    String :=
  d.printed .tight

/- The size of the compact text in bytes. -/
def byteSize
    (d : Document) :
    Nat :=
  d.compact.utf8ByteSize

/-
  The text that stands for a document inside another text: a string as it
  is, nothing for null, and the compact text for the rest.
-/
def plain : Document → String
  | .null => ""
  | .string s => s
  | d => d.compact

def spread
    (d : Document) :
    String :=
  d.printed .wide

end Document

end Automation
