import Automation.Binary64.Numeral
import Automation.Pattern

/-
  The written form of patterns.

  A pattern is read from left to right.  Flags set inside a group hold to
  the end of that group, and decide what letters, dots, edges and classes
  stand for.  A text that is no pattern has no reading; so has a pattern
  that is nested too deeply or weighs too much.

  Key definitions include:
    * `Pattern.Flags`
    * `Pattern.escape?`, what a backslash introduces
    * `Pattern.bracket?`, a class in brackets
    * `Pattern.ofText?`, the pattern that a text describes
    * `PatternLibrary`, what conditions know of patterns
-/

namespace Automation

namespace Pattern

------------------------------------------------------------
-- Flags
------------------------------------------------------------

structure Flags where
  caseless : Bool
  manyLines : Bool
  dotLines : Bool
  unicode : Bool
  anyLine : Bool
  spaced : Bool
deriving DecidableEq, Inhabited

namespace Flags

def initial : Flags := ⟨false, false, false, true, false, false⟩

/- Set the flag that a letter stands for. -/
def set?
    (flags : Flags)
    (letter : Char)
    (value : Bool) :
    Option Flags :=
  match letter with
  | 'i' => some { flags with caseless := value }
  | 'm' => some { flags with manyLines := value }
  | 's' => some { flags with dotLines := value }
  | 'u' => some { flags with unicode := value }
  | 'R' => some { flags with anyLine := value }
  | 'x' => some { flags with spaced := value }
  | 'U' => some flags
  | _ => none

/-
  Read flags up to the mark that ends them; gives the flags, the mark and
  what follows.  A flag is named once, and something follows a minus.
-/
def read? :
    Flags → (seen : List Char) → List Char →
      Option (Flags × List Char × Char × List Char)
  | _, _, [] => none
  | flags, seen, c :: rest =>
      if c = ':' ∨ c = ')' then
        if seen.head? = some '-' then none
        else some (flags, seen, c, rest)
      else if seen.contains c then none
      else if c = '-' then read? flags (c :: seen) rest
      else
        match flags.set? c (!seen.contains '-') with
        | some flags => read? flags (c :: seen) rest
        | none => none

end Flags

------------------------------------------------------------
-- Blanks
------------------------------------------------------------

/- Skip white space and comments. -/
def skipBlank :
    (comment : Bool) → List Char → List Char
  | _, [] => []
  | true, c :: rest => skipBlank (c ≠ '\n') rest
  | false, c :: rest =>
      if Text.isBlank c then skipBlank false rest
      else if c = '#' then skipBlank true rest
      else c :: rest

/- Skip what the flags let stand between the parts of a pattern. -/
def skip
    (flags : Flags)
    (cs : List Char) :
    List Char :=
  if flags.spaced then skipBlank false cs else cs

------------------------------------------------------------
-- Code Points
------------------------------------------------------------

def isHex
    (c : Char) :
    Bool :=
  ('0' ≤ c ∧ c ≤ '9') ∨ ('a' ≤ c ∧ c ≤ 'f') ∨ ('A' ≤ c ∧ c ≤ 'F')

/- The character with a code point, where there is one. -/
def charOfCode?
    (code : Nat) :
    Option Char :=
  if code.isValidChar then some (Char.ofNat code) else none

/- A number of hexadecimal digits. -/
def hexDigits? :
    Flags → Nat → (code : Nat) → List Char → Option (Nat × List Char)
  | _, 0, code, cs => some (code, cs)
  | flags, n + 1, code, cs =>
      match skip flags cs with
      | c :: rest =>
          if isHex c then
            hexDigits? flags n (code * 16 + CharSet.hexValue c) rest
          else none
      | [] => none

/- The part of a text before a closing brace, and the part after it. -/
def braced? :
    Flags → List Char → Option (List Char × List Char)
  | _, [] => none
  | flags, c :: rest =>
      if c = '\x7d' then some ([], rest)
      else
        match braced? flags rest with
        | some (inner, rest) =>
            if flags.spaced && Text.isBlank c then some (inner, rest)
            else some (c :: inner, rest)
        | none => none

/-
  A code point in hexadecimal, of a fixed number of digits or in braces.
  The flag says that the digits were fixed.
-/
def hexCode?
    (flags : Flags)
    (digits : Nat)
    (cs : List Char) :
    Option (Nat × Bool × List Char) :=
  match skip flags cs with
  | '\x7b' :: rest =>
      match braced? flags rest with
      | some (inner, rest) =>
          if inner.isEmpty || !inner.all isHex then none
          else some (CharSet.readCode inner, false, rest)
      | none => none
  | cs =>
      (hexDigits? flags digits 0 cs).map fun (code, rest) =>
        (code, true, rest)

------------------------------------------------------------
-- Escapes
------------------------------------------------------------

/- What a single part of a pattern or of a class stands for. -/
inductive Atom where
  | char (c : Char)
  | byte (code : Nat)
  | cls (cls : CharClass)
  | edge (edge : Edge)
deriving Inhabited

/- A class without the bytes that no character of its own has. -/
def plainOnly?
    (flags : Flags)
    (cls : CharClass) :
    Option CharClass :=
  if flags.unicode then some cls
  else if (List.range 128).any fun i => cls.containsCode (128 + i)
    then none
  else some cls

/- A class as the case flag has it. -/
def foldCase
    (flags : Flags)
    (cls : CharClass) :
    CharClass :=
  if flags.caseless then
    if flags.unicode then .folded cls else .foldedPlain cls
  else cls

/- A class with the case flag and a negation, in this order. -/
def finishClass?
    (flags : Flags)
    (negated : Bool)
    (cls : CharClass) :
    Option CharClass :=
  plainOnly? flags (CharClass.negateIf negated (foldCase flags cls))

/- Split a text at the first place where another text stands. -/
def splitAt? :
    List Char → List Char → Option (List Char × List Char)
  | _, [] => none
  | mark, c :: rest =>
      if mark.isPrefixOf (c :: rest) then
        some ([], (c :: rest).drop mark.length)
      else (splitAt? mark rest).map fun (before, after) =>
        (c :: before, after)

/-
  The class of a property that is named in braces, and whether the name
  asks for the characters that do not have it.
-/
def propertyClass?
    (name : List Char) :
    Option (Bool × CharClass) :=
  match splitAt? ['!', '='] name with
  | some (kind, value) =>
      (CharClass.valued? kind value).map fun cls => (true, cls)
  | none =>
      let parts :=
        match splitAt? [':'] name with
        | some parts => some parts
        | none => splitAt? ['='] name
      let found :=
        match parts with
        | some (kind, value) => CharClass.valued? kind value
        | none => CharClass.named? name
      found.map fun cls => (false, cls)

/- A class of characters that share a property. -/
def property?
    (flags : Flags)
    (negated : Bool)
    (cs : List Char) :
    Option (Atom × List Char) :=
  if !flags.unicode then none
  else
    let named :=
      match skip flags cs with
      | [] => none
      | '\x7b' :: rest => braced? flags rest
      | c :: rest => if c = '\\' then none else some ([c], rest)
    match named with
    | some (name, rest) =>
        (propertyClass? name).map fun (different, cls) =>
          (.cls (CharClass.negateIf (negated != different)
            (foldCase flags cls)), rest)
    | none => none

def isEdgeLetter
    (c : Char) :
    Bool :=
  ('a' ≤ c ∧ c ≤ 'z') ∨ ('A' ≤ c ∧ c ≤ 'Z') ∨ c = '-'

/-
  An edge of a word, with or without a name in braces.  Braces that do not
  start with a letter belong to what follows the edge.
-/
def wordEdge?
    (flags : Flags)
    (cs : List Char) :
    Option (Atom × List Char) :=
  let u := flags.unicode
  match cs with
  | '\x7b' :: rest =>
      match skip flags rest with
      | [] => none
      | c :: more =>
          if !isEdgeLetter c then some (.edge (.word u), cs)
          else
            match braced? flags (c :: more) with
            | some (name, rest) =>
                match String.ofList name with
                | "start" => some (.edge (.wordStart u), rest)
                | "end" => some (.edge (.wordEnd u), rest)
                | "start-half" => some (.edge (.wordStartHalf u), rest)
                | "end-half" => some (.edge (.wordEndHalf u), rest)
                | _ => none
            | none => none
  | _ => some (.edge (.word u), cs)

/- Marks that may follow a backslash and stand for themselves. -/
def isMark
    (c : Char) :
    Bool :=
  c.toNat < 0x80 && !(c.isAlphanum || c = '<' || c = '>')

/- A class of characters with a letter of its own. -/
def letterClass
    (flags : Flags)
    (letter : Char) :
    CharClass :=
  if letter = 'd' then CharClass.digit flags.unicode
  else if letter = 's' then CharClass.blank flags.unicode
  else CharClass.word flags.unicode

/- What a backslash introduces. -/
def escape?
    (flags : Flags) :
    List Char → Option (Atom × List Char)
  | [] => none
  | c :: rest =>
      let u := flags.unicode
      if c = 'x' ∨ c = 'u' ∨ c = 'U' then
        let digits := if c = 'x' then 2 else if c = 'u' then 4 else 8
        match hexCode? flags digits rest with
        | some (code, fixed, rest) =>
            if c = 'x' ∧ fixed ∧ !u ∧ 0x7F < code then
              some (.byte code, skip flags rest)
            else (charOfCode? code).map fun c => (.char c, skip flags rest)
        | none => none
      else if c = 'p' ∨ c = 'P' then property? flags (c = 'P') rest
      else if c = 'd' ∨ c = 's' ∨ c = 'w' then
        some (.cls (letterClass flags c), rest)
      else if c = 'D' ∨ c = 'S' ∨ c = 'W' then
        (plainOnly? flags (.complement (letterClass flags c.toLower))).map
          fun cls => (.cls cls, rest)
      else if isMark c then some (.char c, rest)
      else
        match c with
        | 'a' => some (.char (Char.ofNat 7), rest)
        | 'f' => some (.char (Char.ofNat 12), rest)
        | 't' => some (.char '\t', rest)
        | 'n' => some (.char '\n', rest)
        | 'r' => some (.char '\r', rest)
        | 'v' => some (.char (Char.ofNat 11), rest)
        | 'A' => some (.edge .textStart, rest)
        | 'z' => some (.edge .textEnd, rest)
        | 'b' => wordEdge? flags rest
        | 'B' => some (.edge (.notWord u), rest)
        | '<' => some (.edge (.wordStart u), rest)
        | '>' => some (.edge (.wordEnd u), rest)
        | _ => none

------------------------------------------------------------
-- Classes In Brackets
------------------------------------------------------------

/- A single member of a class. -/
def member?
    (flags : Flags) :
    List Char → Option (Atom × List Char)
  | [] => none
  | c :: rest =>
      if c = '\\' then escape? flags rest else some (.char c, rest)

/- The code point of a member that is a single character. -/
def memberCode?
    (flags : Flags) :
    Atom → Option Nat
  | .char c =>
      if !flags.unicode && 0x7F < c.toNat then none else some c.toNat
  | .byte code => some code
  | _ => none

/- A member by itself, as a class. -/
def memberClass?
    (flags : Flags)
    (atom : Atom) :
    Option CharClass :=
  match atom with
  | .cls cls => some cls
  | .edge _ => none
  | atom => (memberCode? flags atom).map fun code =>
      CharClass.range code code

/- A member of a class, or a range between two members. -/
def memberRange?
    (flags : Flags)
    (cs : List Char) :
    Option (CharClass × List Char) :=
  match member? flags cs with
  | none => none
  | some (first, rest) =>
      let alone := memberClass? flags first
      match skip flags rest with
      | [] => none
      | '-' :: more =>
          match skip flags more with
          | [] => none
          | c :: after =>
              if c = ']' ∨ c = '-' then
                alone.map fun cls => (cls, skip flags rest)
              else
                match member? flags (c :: after) with
                | none => none
                | some (second, rest) =>
                    match memberCode? flags first,
                        memberCode? flags second with
                    | some low, some high =>
                        if low ≤ high then
                          some (CharClass.range low high, rest)
                        else none
                    | _, _ => none
      | rest => alone.map fun cls => (cls, rest)

/- A class with a name, after its opening bracket. -/
def posixClass? : List Char → Option (CharClass × List Char)
  | ':' :: rest =>
      let (negated, rest) :=
        match rest with
        | '^' :: rest => (true, rest)
        | rest => (false, rest)
      let name := rest.takeWhile (· != ':')
      match rest.dropWhile (· != ':') with
      | ':' :: ']' :: rest =>
          (CharClass.posix? (String.ofList name)).map fun cls =>
            (CharClass.negateIf negated cls, rest)
      | _ => none
  | _ => none

/- The minus signs that a class starts with. -/
def leadingDashes
    (flags : Flags) :
    (found : Bool) → List Char → Bool × List Char
  | found, c :: rest =>
      if c = '-' then leadingDashes flags true rest
      else if flags.spaced && found && Text.isBlank c then
        leadingDashes flags found rest
      else (found, c :: rest)
  | found, [] => (found, [])

/-
  The start of a class after its bracket: whether it is negated, and the
  members that stand for themselves only there.
-/
def opening
    (flags : Flags)
    (cs : List Char) :
    Bool × CharClass × List Char :=
  let cs := skip flags cs
  let (negated, cs) :=
    match cs with
    | '^' :: rest => (true, skip flags rest)
    | cs => (false, cs)
  match leadingDashes flags false cs with
  | (true, rest) => (negated, CharClass.single '-', rest)
  | (false, ']' :: rest) => (negated, CharClass.single ']', rest)
  | (false, rest) => (negated, CharClass.nothing, rest)

/- An operation whose right-hand side is still to be read. -/
structure Pending where
  combine : CharClass → CharClass → CharClass
  left : CharClass

/- Complete an operation, if there is one. -/
def complete
    (flags : Flags)
    (pending : Option Pending)
    (right : CharClass) :
    CharClass :=
  match pending with
  | some ⟨combine, left⟩ =>
      combine (foldCase flags left) (foldCase flags right)
  | none => right

/-
  The rest of a class up to its closing bracket.  The operations are all
  of one rank, and are taken from left to right.
-/
def bracketBody? :
    Nat → Flags → Option Pending → (members : CharClass) → List Char →
      Option (CharClass × List Char)
  | 0, _, _, _, _ => none
  | fuel + 1, flags, pending, members, cs =>
      let operation combine rest :=
        bracketBody? fuel flags
          (some ⟨combine, complete flags pending members⟩)
          CharClass.nothing rest
      match skip flags cs with
      | [] => none
      | ']' :: rest => some (complete flags pending members, rest)
      | '&' :: '&' :: rest => operation .common rest
      | '-' :: '-' :: rest => operation .without rest
      | '~' :: '~' :: rest => operation .either rest
      | '[' :: rest =>
          match posixClass? rest with
          | some (cls, rest) =>
              match finishClass? flags false cls with
              | some cls =>
                  bracketBody? fuel flags pending (.union members cls) rest
              | none => none
          | none =>
              let (negated, first, rest) := opening flags rest
              match bracketBody? fuel flags none first rest with
              | none => none
              | some (inner, rest) =>
                  match finishClass? flags negated inner with
                  | some cls =>
                      bracketBody? fuel flags pending
                        (.union members cls) rest
                  | none => none
      | cs =>
          match memberRange? flags cs with
          | some (cls, rest) =>
              bracketBody? fuel flags pending (.union members cls) rest
          | none => none

/- A class in brackets, after the opening one. -/
def bracket?
    (flags : Flags)
    (cs : List Char) :
    Option (CharClass × List Char) :=
  let (negated, first, rest) := opening flags cs
  match bracketBody? (cs.length + 1) flags none first rest with
  | some (cls, rest) =>
      (finishClass? flags negated cls).map fun cls => (cls, rest)
  | none => none

------------------------------------------------------------
-- Pieces
------------------------------------------------------------

/- A part of a pattern, with the depth of what it is built from. -/
structure Piece where
  pattern : Pattern
  depth : Nat
  repeatable : Bool
deriving Inhabited

namespace Piece

def ofPattern
    (pattern : Pattern) :
    Piece :=
  ⟨pattern, 0, true⟩

/- Pieces one after the other; the last comes first. -/
def chain : List Piece → Piece
  | [] => ⟨.empty, 0, false⟩
  | [piece] => piece
  | pieces =>
      ⟨pieces.foldl (fun rest piece => .both piece.pattern rest) .empty,
        pieces.foldl (fun depth piece => max depth piece.depth) 0 + 1,
        true⟩

/- A choice between pieces; the last comes first. -/
def choice : List Piece → Piece
  | [] => ⟨.empty, 0, false⟩
  | [piece] => piece
  | piece :: pieces =>
      ⟨pieces.foldl (fun rest piece => .either piece.pattern rest)
          piece.pattern,
        (piece :: pieces).foldl
          (fun depth piece => max depth piece.depth) 0 + 1, true⟩

def group
    (piece : Piece) :
    Piece :=
  ⟨piece.pattern, piece.depth + 1, true⟩

/- Repeat the last piece, if it can be repeated. -/
def repeatLast?
    (least : Nat)
    (most : Option Nat) :
    List Piece → Option (List Piece)
  | [] => none
  | piece :: pieces =>
      if piece.repeatable then
        some
          (⟨.repeated piece.pattern least most, piece.depth + 1, true⟩ ::
            pieces)
      else none

end Piece

/- A character that stands for itself. -/
def literal
    (flags : Flags)
    (c : Char) :
    Pattern :=
  .one (foldCase flags (CharClass.single c))

/- The pattern of a part, where it matches whole characters. -/
def atomPattern?
    (flags : Flags) :
    Atom → Option Pattern
  | .char c => some (literal flags c)
  | .byte _ => none
  | .cls cls => some (.one cls)
  | .edge e => some (.edge e)

/- Any character, or any within a line. -/
def dot?
    (flags : Flags) :
    Option Pattern :=
  if !flags.unicode then none
  else if flags.dotLines then some (.one CharClass.everything)
  else if flags.anyLine then
    some (.one (.complement (.codes ⟨[(10, 10), (13, 13)]⟩)))
  else some (.one (.complement (CharClass.single '\n')))

def startEdge
    (flags : Flags) :
    Pattern :=
  if !flags.manyLines then .edge .textStart
  else if flags.anyLine then .edge .lineStartAny
  else .edge .lineStart

def endEdge
    (flags : Flags) :
    Pattern :=
  if !flags.manyLines then .edge .textEnd
  else if flags.anyLine then .edge .lineEndAny
  else .edge .lineEnd

------------------------------------------------------------
-- Repetitions
------------------------------------------------------------

/- The digits of a count, and what follows them. -/
def countDigits
    (flags : Flags) :
    List Char → List Char × List Char
  | [] => ([], [])
  | c :: rest =>
      if Numeral.isDigit c then
        let (digits, rest) := countDigits flags rest
        (c :: digits, rest)
      else if flags.spaced && Text.isBlank c then countDigits flags rest
      else ([], c :: rest)

/- A count with white space around it. -/
def count?
    (flags : Flags)
    (cs : List Char) :
    Option (Nat × List Char) :=
  let (digits, rest) := countDigits flags (cs.dropWhile Text.isBlank)
  match Numeral.digits? digits with
  | some n =>
      if n < UInt32.size then some (n, rest.dropWhile Text.isBlank)
      else none
  | none => none

/- The end of a repetition in braces; a question mark may follow. -/
def countEnd?
    (flags : Flags)
    (least : Nat)
    (most : Option Nat) :
    List Char → Option (Nat × Option Nat × List Char)
  | '\x7d' :: rest =>
      match skip flags rest with
      | '?' :: rest => some (least, most, rest)
      | rest => some (least, most, rest)
  | _ => none

/- A repetition in braces, after the opening one. -/
def counts?
    (flags : Flags)
    (cs : List Char) :
    Option (Nat × Option Nat × List Char) :=
  match count? flags cs with
  | none => none
  | some (least, ',' :: rest) =>
      match skip flags rest with
      | '\x7d' :: rest => countEnd? flags least none ('\x7d' :: rest)
      | rest =>
          match count? flags rest with
          | some (most, rest) =>
              if least ≤ most then countEnd? flags least (some most) rest
              else none
          | none => none
  | some (least, rest) => countEnd? flags least (some least) rest

/- A question mark after a repetition changes no occurrence. -/
def dropLazy : List Char → List Char
  | '?' :: rest => rest
  | rest => rest

------------------------------------------------------------
-- Groups
------------------------------------------------------------

def isNumeric
    (c : Char) :
    Bool :=
  ((Text.category? "n").getD ⟨[]⟩).contains c

def isAlphabetic
    (c : Char) :
    Bool :=
  ((Text.property? "alphabetic").getD ⟨[]⟩).contains c

/- The name of a group, after its opening bracket. -/
def groupName?
    (cs : List Char) :
    Option (List Char × List Char) :=
  let name := cs.takeWhile (· != '>')
  match name, cs.dropWhile (· != '>') with
  | first :: others, _ :: rest =>
      let good := (first = '_' || isAlphabetic first) &&
        others.all fun c =>
          c = '_' || c = '.' || c = '[' || c = ']' || isAlphabetic c ||
            isNumeric c
      if good then some (name, rest) else none
  | _, _ => none

/- How a group starts, after its opening parenthesis. -/
inductive Opening where
  | group (flags : Flags) (name : Option (List Char))
  | flags (flags : Flags)
deriving Inhabited

/- Groups that look around are not part of the language. -/
def groupOpening?
    (flags : Flags)
    (cs : List Char) :
    Option (Opening × List Char) :=
  let named rest :=
    (groupName? rest).map fun (name, rest) =>
      (Opening.group flags (some name), rest)
  match skip flags cs with
  | '?' :: '=' :: _ => none
  | '?' :: '!' :: _ => none
  | '?' :: '<' :: '=' :: _ => none
  | '?' :: '<' :: '!' :: _ => none
  | '?' :: 'P' :: '<' :: rest => named rest
  | '?' :: '<' :: rest => named rest
  | '?' :: rest =>
      match Flags.read? flags [] rest with
      | none => none
      | some (inner, seen, mark, rest) =>
          if mark = ':' then some (.group inner none, rest)
          else if seen.isEmpty then none
          else some (.flags inner, rest)
  | rest => some (.group flags none, rest)

/- What has been settled up to a point of a pattern. -/
structure Scan where
  flags : Flags
  names : List (List Char)
  rest : List Char
deriving Inhabited

/- Read a single part that is no group and no repetition. -/
def atom?
    (flags : Flags) :
    List Char → Option (Pattern × List Char)
  | [] => none
  | c :: rest =>
      if c = '[' then
        (bracket? flags rest).map fun (cls, rest) => (.one cls, rest)
      else if c = '\\' then
        match escape? flags rest with
        | some (atom, rest) =>
            (atomPattern? flags atom).map fun pattern => (pattern, rest)
        | none => none
      else if c = '.' then (dot? flags).map fun pattern => (pattern, rest)
      else if c = '^' then some (startEdge flags, rest)
      else if c = '$' then some (endEdge flags, rest)
      else some (literal flags c, rest)

/-
  The alternatives of a group up to its closing parenthesis or to the end
  of the text.
-/
def alternatives? :
    Nat → Scan → (earlier : List Piece) → (pieces : List Piece) →
      Option (Piece × Scan)
  | 0, _, _, _ => none
  | fuel + 1, ⟨flags, names, cs⟩, earlier, pieces =>
      let done rest :=
        some (Piece.choice (Piece.chain pieces :: earlier),
          Scan.mk flags names rest)
      let repeated least most rest :=
        match Piece.repeatLast? least most pieces with
        | some pieces =>
            alternatives? fuel ⟨flags, names, rest⟩ earlier pieces
        | none => none
      match skip flags cs with
      | [] => done []
      | ')' :: rest => done (')' :: rest)
      | '|' :: rest =>
          alternatives? fuel ⟨flags, names, rest⟩
            (Piece.chain pieces :: earlier) []
      | '?' :: rest => repeated 0 (some 1) (dropLazy rest)
      | '*' :: rest => repeated 0 none (dropLazy rest)
      | '+' :: rest => repeated 1 none (dropLazy rest)
      | '\x7b' :: rest =>
          match counts? flags rest with
          | some (least, most, rest) => repeated least most rest
          | none => none
      | '(' :: rest =>
          match groupOpening? flags rest with
          | none => none
          | some (.flags flags, rest) =>
              alternatives? fuel ⟨flags, names, rest⟩ earlier
                (⟨.empty, 0, false⟩ :: pieces)
          | some (.group inner name, rest) =>
              if name.any names.contains then none
              else
                match alternatives? fuel
                    ⟨inner, name.toList ++ names, rest⟩ [] [] with
                | some (piece, ⟨_, names, ')' :: rest⟩) =>
                    alternatives? fuel ⟨flags, names, rest⟩ earlier
                      (piece.group :: pieces)
                | _ => none
      | cs =>
          match atom? flags cs with
          | some (pattern, rest) =>
              alternatives? fuel ⟨flags, names, rest⟩ earlier
                (Piece.ofPattern pattern :: pieces)
          | none => none

------------------------------------------------------------
-- Whole Patterns
------------------------------------------------------------

/- How deeply the parts of a pattern may be nested. -/
def depthLimit : Nat := 250

/- The pattern that a text describes. -/
def ofText?
    (s : String) :
    Option Pattern :=
  let cs := s.toList
  match alternatives? (cs.length + 1) ⟨.initial, [], cs⟩ [] [] with
  | some (piece, ⟨_, _, []⟩) =>
      if piece.depth ≤ depthLimit ∧ piece.pattern.weight ≤ weightLimit then
        some piece.pattern
      else none
  | _ => none

end Pattern

------------------------------------------------------------
-- Libraries
------------------------------------------------------------

/-
  A library of patterns.  It makes a test of texts from a text that
  describes a pattern, and has something to say against any other.
-/
structure PatternLibrary where
  read : String → Except String (String → Bool)

/- The patterns that can be read here, with what is said against others. -/
def PatternLibrary.ofComplaints
    (complaint : String → String) :
    PatternLibrary where
  read text :=
    match Pattern.ofText? text with
    | some pattern => .ok pattern.occursIn
    | none => .error (complaint text)

/- The library that the program is run with. -/
def PatternLibrary.standard : PatternLibrary :=
  .ofComplaints fun _ => "regex parse error"

instance : Inhabited PatternLibrary := ⟨.standard⟩

end Automation
