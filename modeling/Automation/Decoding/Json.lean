import Automation.Binary64.Numeral
import Automation.Decoding.Decoder
import Automation.Text.CharSet

/-
  Documents in JSON text.

  A text is read into a node that knows the line and the column of each of
  its parts.  Columns count bytes.  Where the text is not JSON, the node is
  broken at that point and holds nothing of what follows.

  Key definitions include:
    * `Json.Cursor`, a point of a text
    * `Json.read`, the node that a text describes
    * `Json.decode`, a value from a text
-/

namespace Automation

namespace Json

------------------------------------------------------------
-- Points Of A Text
------------------------------------------------------------

structure Cursor where
  line : Nat
  column : Nat
  rest : List Char
deriving Inhabited

namespace Cursor

def ofText
    (s : String) :
    Cursor :=
  ⟨1, 0, s.toList⟩

def place
    (cursor : Cursor) :
    Place :=
  ⟨"", some (cursor.line, cursor.column)⟩

/- The point behind the next character. -/
def next
    (cursor : Cursor) :
    Cursor :=
  match cursor.rest with
  | [] => cursor
  | c :: rest =>
      if c = '\n' then ⟨cursor.line + 1, 0, rest⟩
      else ⟨cursor.line, cursor.column + c.utf8Size, rest⟩

/- The place of the next byte, for a fault that it causes. -/
def ahead
    (cursor : Cursor) :
    Place :=
  match cursor.rest with
  | [] => cursor.place
  | c :: _ =>
      if c = '\n' then ⟨"", some (cursor.line + 1, 0)⟩
      else ⟨"", some (cursor.line, cursor.column + 1)⟩

end Cursor

/- Skip white space, starting from the given place. -/
def skipFrom :
    (line column : Nat) → List Char → Cursor
  | line, column, [] => ⟨line, column, []⟩
  | line, column, c :: rest =>
      if c = '\n' then skipFrom (line + 1) 0 rest
      else if Document.isBlank c then skipFrom line (column + 1) rest
      else ⟨line, column, c :: rest⟩

def skip
    (cursor : Cursor) :
    Cursor :=
  skipFrom cursor.line cursor.column cursor.rest

/- A fault of the text, at a place. -/
def fault
    (reason : String)
    (place : Place) :
    Fault :=
  ⟨.malformed reason, some place⟩

/- A part of a text, and the point behind it. -/
abbrev Parsed (α : Type) := Except Fault (α × Cursor)

------------------------------------------------------------
-- Numbers
------------------------------------------------------------

def isDigit
    (c : Char) :
    Bool :=
  Numeral.isDigit c

def nextIs
    (p : Char → Bool)
    (cursor : Cursor) :
    Bool :=
  match cursor.rest with
  | c :: _ => p c
  | [] => false

/- The digits at a point. -/
def digitsAt
    (cursor : Cursor) :
    List Char × Cursor :=
  let digits := cursor.rest.takeWhile isDigit
  (digits,
    { cursor with
      column := cursor.column + digits.length
      rest := cursor.rest.drop digits.length })

/-
  Add digits to a number as long as it fits 64 bits; gives the number and
  how many digits were left out.
-/
def accumulate :
    (n : Nat) → List Char → Nat × Nat
  | n, [] => (n, 0)
  | n, c :: rest =>
      let more := n * 10 + Numeral.digitValue c
      if more < UInt64.size then accumulate more rest
      else (n, rest.length + 1)

/- Ten to a power, rounded. -/
def powerOfTen
    (n : Nat) :
    Finite64 :=
  match Binary64.ofDecimal false 1 n with
  | .finite x => x
  | _ => .zero false

/- A number times ten to a negative power, in steps of at most 308. -/
def scaleDown :
    Nat → Finite64 → (power : Nat) → Binary64
  | 0, x, _ => .finite x
  | fuel + 1, x, power =>
      if power ≤ 308 then Binary64.quotient x (powerOfTen power)
      else if x.isZero then .finite x
      else
        match Binary64.quotient x (powerOfTen 308) with
        | .finite y => scaleDown fuel y (power - 308)
        | other => other

/- The nearest number to digits times a power of ten, by parts. -/
def scaled
    (negative : Bool)
    (significand : Nat)
    (exponent : Int) :
    Option Finite64 :=
  let result :=
    match Binary64.ofInt significand with
    | .finite x =>
        if 308 < exponent then
          if x.isZero then Binary64.finite x else Binary64.infinite false
        else if 0 ≤ exponent then
          Binary64.product x (powerOfTen exponent.toNat)
        else scaleDown 4 x (min (-exponent).toNat 1232)
    | other => other
  match result with
  | .finite y => some { y with negative := negative }
  | _ => none

def outOfRange
    (cursor : Cursor) :
    Fault :=
  fault "number out of range" cursor.place

def invalidNumber
    (place : Place) :
    Fault :=
  fault "invalid number" place

/- A number that was rounded, unless it is out of range. -/
def rounded
    (cursor : Cursor) :
    Option Finite64 → Parsed Number
  | some x => .ok (.real x, cursor)
  | none => .error (outOfRange cursor)

def realNumber
    (negative : Bool)
    (significand : Nat)
    (exponent : Int)
    (cursor : Cursor) :
    Parsed Number :=
  rounded cursor (scaled negative significand exponent)

/- The power of ten behind its sign. -/
def powerAt
    (minus negative : Bool)
    (significand : Nat)
    (exponent : Int)
    (cursor : Cursor) :
    Parsed Number :=
  match cursor.rest with
  | [] => .error (fault "EOF while parsing a value" cursor.place)
  | c :: _ =>
      if isDigit c then
        let (digits, after) := digitsAt cursor
        let power := Numeral.value digits
        let total := if minus then exponent - power else exponent + power
        if power < 2147483648 then
          realNumber negative significand total after
        else if significand ≠ 0 ∧ !minus then .error (outOfRange after)
        else .ok (.real (.zero negative), after)
      else .error (invalidNumber cursor.next.place)

/- The power of ten behind the mark `e`. -/
def exponentAt
    (negative : Bool)
    (significand : Nat)
    (exponent : Int)
    (cursor : Cursor) :
    Parsed Number :=
  let cursor := cursor.next
  let minus := nextIs (· = '-') cursor
  powerAt minus negative significand exponent
    (if minus || nextIs (· = '+') cursor then cursor.next else cursor)

/- What may follow the digits of a number. -/
def numberTail
    (negative : Bool)
    (significand : Nat)
    (exponent : Int)
    (cursor : Cursor) :
    Parsed Number :=
  if nextIs (fun c => c = 'e' || c = 'E') cursor then
    exponentAt negative significand exponent cursor
  else realNumber negative significand exponent cursor

/- The digits behind a point. -/
def fractionAt
    (negative : Bool)
    (significand dropped : Nat)
    (cursor : Cursor) :
    Parsed Number :=
  let cursor := cursor.next
  let (digits, after) := digitsAt cursor
  if digits.isEmpty then
    match cursor.rest with
    | [] => .error (fault "EOF while parsing a value" cursor.place)
    | _ => .error (invalidNumber cursor.ahead)
  else
    let (significand, left) := accumulate significand digits
    numberTail negative significand
      ((dropped : Int) + left - digits.length) after

/- A number without a point or a power of ten. -/
def wholeNumber
    (negative : Bool)
    (significand dropped : Nat)
    (cursor : Cursor) :
    Parsed Number :=
  if dropped ≠ 0 then realNumber negative significand dropped cursor
  else if !negative then .ok (.integer significand, cursor)
  else if significand = 0 ∨ UInt64.size / 2 < significand then
    realNumber true significand 0 cursor
  else .ok (.integer (-(significand : Int)), cursor)

/- A number; a sign was read before. -/
def numberAt
    (negative : Bool)
    (cursor : Cursor) :
    Parsed Number :=
  match cursor.rest with
  | [] => .error (fault "EOF while parsing a value" cursor.place)
  | c :: _ =>
      if !isDigit c then .error (invalidNumber cursor.next.place)
      else
        let (digits, after) := digitsAt cursor
        if c = '0' ∧ 1 < digits.length then
          .error (invalidNumber cursor.next.ahead)
        else
          let (significand, dropped) := accumulate 0 digits
          if nextIs (· = '.') after then
            fractionAt negative significand dropped after
          else if nextIs (fun c => c = 'e' || c = 'E') after then
            exponentAt negative significand dropped after
          else wholeNumber negative significand dropped after

/- A character that a number starts with. -/
def startsNumber
    (c : Char) :
    Bool :=
  c = '-' || isDigit c

/- A number with its sign. -/
def numberFrom
    (cursor : Cursor) :
    Parsed Number :=
  if nextIs (· = '-') cursor then numberAt true cursor.next
  else numberAt false cursor

------------------------------------------------------------
-- Strings
------------------------------------------------------------

/- The character that a letter after a backslash stands for. -/
def escaped? : Char → Option Char
  | '"' => some '"'
  | '\\' => some '\\'
  | '/' => some '/'
  | 'b' => some (Char.ofNat 8)
  | 'f' => some (Char.ofNat 12)
  | 'n' => some '\n'
  | 'r' => some '\r'
  | 't' => some '\t'
  | _ => none

def isHex
    (c : Char) :
    Bool :=
  isDigit c || ('a' ≤ c ∧ c ≤ 'f') || ('A' ≤ c ∧ c ≤ 'F')

/- The bytes of some characters. -/
def byteLength
    (cs : List Char) :
    Nat :=
  cs.foldl (fun n c => n + c.utf8Size) 0

/- Four hexadecimal digits. -/
def hexAt
    (cursor : Cursor) :
    Parsed Nat :=
  let digits := cursor.rest.take 4
  if byteLength cursor.rest < 4 then
    .error (fault "EOF while parsing a string"
      ⟨"", some (cursor.line, cursor.column + byteLength cursor.rest)⟩)
  else if digits.length = 4 ∧ digits.all isHex then
    .ok (CharSet.readCode digits,
      ⟨cursor.line, cursor.column + 4, cursor.rest.drop 4⟩)
  else
    .error (fault "invalid escape"
      ⟨"", some (cursor.line, cursor.column + 4)⟩)

def endOfString
    (cursor : Cursor) :
    Fault :=
  fault "EOF while parsing a string" cursor.place

/- A character that is expected to follow the first half of a pair. -/
def expectPair
    (c : Char)
    (cursor : Cursor) :
    Except Fault Cursor :=
  match cursor.rest with
  | [] => .error (endOfString cursor)
  | d :: _ =>
      if d = c then .ok cursor.next
      else
        .error (fault "unexpected end of hex escape"
          ⟨"", some (cursor.line, cursor.column + 1)⟩)

def loneSurrogate
    (cursor : Cursor) :
    Fault :=
  fault "lone leading surrogate in hex escape" cursor.place

/- A character written by its code, or by a pair of codes. -/
def codeAt
    (cursor : Cursor) :
    Parsed Char :=
  match hexAt cursor with
  | .error fault => .error fault
  | .ok (first, cursor) =>
      if 0xDC00 ≤ first ∧ first ≤ 0xDFFF then
        .error (loneSurrogate cursor)
      else if first < 0xD800 ∨ 0xDBFF < first then
        .ok (Char.ofNat first, cursor)
      else
        match expectPair '\\' cursor with
        | .error fault => .error fault
        | .ok cursor =>
            match expectPair 'u' cursor with
            | .error fault => .error fault
            | .ok cursor =>
                match hexAt cursor with
                | .error fault => .error fault
                | .ok (second, cursor) =>
                    if second < 0xDC00 ∨ 0xDFFF < second then
                      .error (loneSurrogate cursor)
                    else
                      .ok (Char.ofNat
                        ((first - 0xD800) * 0x400 + (second - 0xDC00) +
                          0x10000), cursor)

/- The rest of a string up to its closing quote. -/
def stringAt :
    Nat → (before : List Char) → Cursor → Parsed String
  | 0, _, cursor => .error (endOfString cursor)
  | fuel + 1, before, cursor =>
      match cursor.rest with
      | [] => .error (endOfString cursor)
      | c :: _ =>
          if c = '"' then
            .ok (String.ofList before.reverse, cursor.next)
          else if c = '\\' then
            let cursor := cursor.next
            match cursor.rest with
            | [] => .error (endOfString cursor)
            | d :: _ =>
                if d = 'u' then
                  match codeAt cursor.next with
                  | .error fault => .error fault
                  | .ok (c, cursor) => stringAt fuel (c :: before) cursor
                else
                  match escaped? d with
                  | some c => stringAt fuel (c :: before) cursor.next
                  | none =>
                      .error (fault "invalid escape"
                        ⟨"", some (cursor.line, cursor.column + 1)⟩)
          else if c.toNat < 32 then
            .error (fault
              ("control character (\\u0000-\\u001F) found while " ++
                "parsing a string") cursor.ahead)
          else stringAt fuel (c :: before) cursor.next

/- A string, after its opening quote. -/
def string
    (cursor : Cursor) :
    Parsed String :=
  stringAt (cursor.rest.length + 1) [] cursor

------------------------------------------------------------
-- Values
------------------------------------------------------------

/- The rest of a word. -/
def wordAt :
    List Char → Cursor → Except Fault Cursor
  | [], cursor => .ok cursor
  | c :: expected, cursor =>
      match cursor.rest with
      | [] => .error (fault "EOF while parsing a value" cursor.place)
      | d :: _ =>
          if d = c then wordAt expected cursor.next
          else .error (fault "expected ident" cursor.ahead)

/- A node, and the point behind it unless the node is broken. -/
abbrev Reading := Node × Option Cursor

def broken
    (fault : Fault) :
    Reading :=
  (.broken fault, none)

/- A scalar between two points. -/
def scalar
    (start : Cursor)
    (value : Except Fault (Scalar × Cursor)) :
    Reading :=
  match value with
  | .error fault => broken fault
  | .ok (value, cursor) =>
      (.scalar start.place cursor.place value none, some cursor)

/- A word that stands for a value. -/
def word
    (start : Cursor)
    (rest : String)
    (value : Scalar) :
    Reading :=
  scalar start
    ((wordAt rest.toList start.next).map fun cursor => (value, cursor))

/- Where a sequence reports a fault of an item that ends at a point. -/
def itemPlace
    (cursor : Cursor) :
    Place :=
  let cursor := skip cursor
  match cursor.rest with
  | ']' :: _ => cursor.next.place
  | ',' :: _ => (skip cursor.next).place
  | _ => cursor.place

/- Where a mapping reports a fault of a value that ends at a point. -/
def entryPlace
    (cursor : Cursor) :
    Place :=
  let cursor := skip cursor
  match cursor.rest with
  | '\x7d' :: _ => cursor.next.place
  | _ => cursor.place

/- The items of a sequence, and the point behind it. -/
abbrev ItemsReading := List Item × Option Cursor

abbrev EntriesReading := List Entry × Option Cursor

/- A fault between the items of a sequence. -/
def brokenItems
    (fault : Fault) :
    ItemsReading :=
  ([(.nowhere, .broken fault)], none)

/- A fault between the entries of a mapping. -/
def brokenEntries
    (fault : Fault) :
    EntriesReading :=
  ([(("", .nowhere), (.nowhere, .broken fault))], none)

/- An item, and what follows it. -/
def itemAt
    (value : Cursor → Reading)
    (more : Cursor → ItemsReading)
    (cursor : Cursor) :
    ItemsReading :=
  match value cursor with
  | (node, none) => ([(.nowhere, node)], none)
  | (node, some after) =>
      let (xs, last) := more after
      ((itemPlace after, node) :: xs, last)

def keyFault
    (cursor : Cursor) :
    Fault :=
  fault "key must be a string" cursor.ahead

/- An entry with its key, and what follows it. -/
def entryAt
    (value : Cursor → Reading)
    (more : Cursor → EntriesReading)
    (cursor : Cursor) :
    EntriesReading :=
  match string cursor.next with
  | .error fault => brokenEntries fault
  | .ok (key, cursor) =>
      let cursor := skip cursor
      let keyPlace := cursor.place
      match cursor.rest with
      | [] =>
          ([((key, keyPlace), (.nowhere, .broken
            (fault "EOF while parsing an object" cursor.place)))], none)
      | ':' :: _ =>
          match value cursor.next with
          | (node, none) => ([((key, keyPlace), (.nowhere, node))], none)
          | (node, some after) =>
              let (xs, last) := more after
              (((key, keyPlace), (entryPlace after, node)) :: xs, last)
      | _ =>
          ([((key, keyPlace), (.nowhere, .broken
            (fault "expected `:`" cursor.ahead)))], none)

mutual

/- A value, with the number of containers that may still be opened. -/
def value :
    Nat → (depth : Nat) → Cursor → Reading
  | 0, _, cursor => broken (fault "expected value" cursor.ahead)
  | fuel + 1, depth, cursor =>
      let start := skip cursor
      match start.rest with
      | [] => broken (fault "EOF while parsing a value" start.place)
      | 'n' :: _ => word start "ull" .null
      | 't' :: _ => word start "rue" (.bool true)
      | 'f' :: _ => word start "alse" (.bool false)
      | '"' :: _ =>
          scalar start
            ((string start.next).map fun (s, cursor) =>
              (.string s, cursor))
      | '[' :: _ =>
          if depth ≤ 1 then
            broken (fault "recursion limit exceeded" start.ahead)
          else
            let (xs, after) := items fuel (depth - 1) true start.next
            (.sequence start.place xs
              ((after.map (·.place)).getD .nowhere), after)
      | '\x7b' :: _ =>
          if depth ≤ 1 then
            broken (fault "recursion limit exceeded" start.ahead)
          else
            let (xs, after) := entries fuel (depth - 1) true start.next
            (.mapping start.place xs
              ((after.map (·.place)).getD .nowhere), after)
      | c :: _ =>
          if startsNumber c then
            scalar start
              ((numberFrom start).map fun (n, cursor) =>
                (.number n, cursor))
          else broken (fault "expected value" start.ahead)

def items :
    Nat → (depth : Nat) → (first : Bool) → Cursor → ItemsReading
  | 0, _, _, cursor => brokenItems (fault "expected value" cursor.ahead)
  | fuel + 1, depth, first, cursor =>
      let cursor := skip cursor
      match cursor.rest with
      | [] => brokenItems (fault "EOF while parsing a list" cursor.place)
      | ']' :: _ => ([], some cursor.next)
      | c :: _ =>
          if first then
            itemAt (value fuel depth) (items fuel depth false) cursor
          else if c = ',' then
            let cursor := skip cursor.next
            match cursor.rest with
            | [] =>
                brokenItems
                  (fault "EOF while parsing a value" cursor.place)
            | ']' :: _ => brokenItems (fault "trailing comma" cursor.ahead)
            | _ =>
                itemAt (value fuel depth) (items fuel depth false) cursor
          else brokenItems (fault "expected `,` or `]`" cursor.ahead)

def entries :
    Nat → (depth : Nat) → (first : Bool) → Cursor → EntriesReading
  | 0, _, _, cursor => brokenEntries (fault "expected value" cursor.ahead)
  | fuel + 1, depth, first, cursor =>
      let cursor := skip cursor
      match cursor.rest with
      | [] =>
          brokenEntries
            (fault "EOF while parsing an object" cursor.place)
      | '\x7d' :: _ => ([], some cursor.next)
      | c :: _ =>
          if first then
            if c = '"' then
              entryAt (value fuel depth) (entries fuel depth false) cursor
            else brokenEntries (keyFault cursor)
          else if c = ',' then
            let cursor := skip cursor.next
            match cursor.rest with
            | [] =>
                brokenEntries
                  (fault "EOF while parsing a value" cursor.place)
            | '"' :: _ =>
                entryAt (value fuel depth) (entries fuel depth false)
                  cursor
            | '\x7d' :: _ =>
                brokenEntries (fault "trailing comma" cursor.ahead)
            | _ => brokenEntries (keyFault cursor)
          else brokenEntries (fault "expected `,` or `\x7d`" cursor.ahead)

end

------------------------------------------------------------
-- Texts
------------------------------------------------------------

/- How many containers may lie inside one another, and one more. -/
def depthLimit : Nat := 128

/- The node that a text starts with, and the point behind it. -/
def read
    (depth : Nat)
    (s : String) :
    Reading :=
  value (s.length + 2) depth (.ofText s)

/- Nothing but white space may follow a value. -/
def atEnd
    (cursor : Option Cursor) :
    Except Fault Unit :=
  match cursor.map skip with
  | some ⟨line, column, c :: rest⟩ =>
      .error (fault "trailing characters"
        (Cursor.ahead ⟨line, column, c :: rest⟩))
  | _ => .ok ()

/- A value from a text. -/
def decodeWithin
    {α : Type}
    (depth : Nat)
    (decode : Decoder α)
    (s : String) :
    Except Fault α :=
  let (node, cursor) := read depth s
  match decode .json node with
  | .error fault => .error fault
  | .ok a =>
      match atEnd cursor with
      | .error fault => .error fault
      | .ok () => .ok a

def decode
    {α : Type}
    (decoder : Decoder α)
    (s : String) :
    Except Fault α :=
  decodeWithin depthLimit decoder s

/- The document in a text, however deeply it is nested. -/
def document
    (s : String) :
    Except Fault Document :=
  decodeWithin (s.length + 2) Decoder.document s

end Json

end Automation
