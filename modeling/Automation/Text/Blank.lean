/-
  White space, as Unicode has it, and what is left of a text without it.

  Key definitions include:
    * `Text.isBlank`, the characters with the property White_Space
    * `Text.trim`, a text without white space at its ends
    * `Text.splitOn`, the parts of a text between separators
-/

namespace Automation

namespace Text

/- A character with the Unicode property White_Space. -/
def isBlank
    (c : Char) :
    Bool :=
  let n := c.toNat
  (0x09 ≤ n ∧ n ≤ 0x0D) ∨ n = 0x20 ∨ n = 0x85 ∨ n = 0xA0 ∨ n = 0x1680 ∨
    (0x2000 ≤ n ∧ n ≤ 0x200A) ∨ n = 0x2028 ∨ n = 0x2029 ∨ n = 0x202F ∨
    n = 0x205F ∨ n = 0x3000

------------------------------------------------------------
-- Trimming
------------------------------------------------------------

/- Drop white space at the end. -/
def trimEnd
    (cs : List Char) :
    List Char :=
  (cs.reverse.dropWhile isBlank).reverse

/- Drop white space at both ends. -/
def trimChars
    (cs : List Char) :
    List Char :=
  trimEnd (cs.dropWhile isBlank)

def trim
    (s : String) :
    String :=
  String.ofList (trimChars s.toList)

/- Nothing but white space. -/
def isBlankText
    (s : String) :
    Bool :=
  s.toList.all isBlank

------------------------------------------------------------
-- Splitting
------------------------------------------------------------

/- The parts between separators; always at least one. -/
def splitChars
    (separator : Char) :
    List Char → List (List Char)
  | [] => [[]]
  | c :: cs =>
      if c = separator then [] :: splitChars separator cs
      else
        match splitChars separator cs with
        | [] => [[c]]
        | part :: parts => (c :: part) :: parts

def splitOn
    (separator : Char)
    (s : String) :
    List String :=
  (splitChars separator s.toList).map String.ofList

/- Whether a text stands somewhere inside another. -/
def occurs
    (part : List Char) :
    List Char → Bool
  | [] => part.isEmpty
  | c :: cs => part.isPrefixOf (c :: cs) || occurs part cs

/- The parts between spaces, empty parts left out. -/
def splitWords
    (cs : List Char) :
    List (List Char) :=
  (splitChars ' ' cs).filter fun part => !part.isEmpty

end Text

end Automation
