import Automation.Binary64.Numeral
import Automation.Text.Blank
import Automation.Text.CharSet

/-
  Addresses of resources.

  An address is brought into one normal form as it is read: the scheme and
  the host in small letters, no number behind the host that the scheme
  implies, no dots among the segments of the path, and an escape for every
  character that has no place where it stands.

  Key definitions include:
    * `Url`, and `Url.text`, its written form
    * `Url.ofText?`, the address that a text names
-/

namespace Automation

structure Url where
  scheme : String
  credentials? : Option String
  host? : Option String
  portNumber? : Option Nat
  path : String
  query? : Option String
  fragment? : Option String
deriving DecidableEq, Inhabited

namespace Url

------------------------------------------------------------
-- Writing
------------------------------------------------------------

/- A part with a mark before it, if there is one. -/
def marked
    (mark : String) :
    Option String → String
  | some part => mark ++ part
  | none => ""

def text
    (url : Url) :
    String :=
  let authority :=
    match url.host? with
    | some host =>
        "//" ++ (url.credentials?.map (· ++ "@")).getD "" ++ host ++
          marked ":" (url.portNumber?.map toString)
    | none => ""
  url.scheme ++ ":" ++ authority ++ url.path ++ marked "?" url.query? ++
    marked "#" url.fragment?

------------------------------------------------------------
-- Escapes
------------------------------------------------------------

def hexDigit
    (n : Nat) :
    Char :=
  (Nat.digitChar n).toUpper

/- The bytes of a character, each as an escape. -/
def escapeChar
    (c : Char) :
    List Char :=
  (String.ofList [c]).toUTF8.toList.flatMap fun byte =>
    ['%', hexDigit (byte.toNat / 16), hexDigit (byte.toNat % 16)]

/- Escape controls, other than plain characters, and the given ones. -/
def escape
    (special : List Char)
    (cs : List Char) :
    List Char :=
  cs.flatMap fun c =>
    if c.toNat < 32 || 126 < c.toNat || special.contains c then
      escapeChar c
    else [c]

def inFragment : List Char := [' ', '"', '<', '>', '\x60']

def inPath : List Char := inFragment ++ ['#', '?', '\x7b', '\x7d']

def inCredentials : List Char :=
  inPath ++ ['/', ':', ';', '=', '@', '[', '\\', ']', '^', '|']

def inQuery
    (special : Bool) :
    List Char :=
  [' ', '"', '#', '<', '>'] ++ (if special then ['\''] else [])

def isHex
    (c : Char) :
    Bool :=
  ('0' ≤ c ∧ c ≤ '9') || ('a' ≤ c ∧ c ≤ 'f') || ('A' ≤ c ∧ c ≤ 'F')

/- Replace escapes of plain characters by the characters. -/
def unescape :
    List Char → List Char
  | '%' :: a :: b :: rest =>
      let code := CharSet.readCode [a, b]
      if isHex a && isHex b && code < 128 then
        Char.ofNat code :: unescape rest
      else '%' :: unescape (a :: b :: rest)
  | c :: rest => c :: unescape rest
  | [] => []

------------------------------------------------------------
-- Schemes
------------------------------------------------------------

/- The number behind a host that a scheme with hosts implies. -/
def impliedPort? : String → Option Nat
  | "http" => some 80
  | "https" => some 443
  | "ws" => some 80
  | "wss" => some 443
  | "ftp" => some 21
  | _ => none

def isSchemeChar
    (c : Char) :
    Bool :=
  c.isAlphanum || c = '+' || c = '-' || c = '.'

/- The scheme before the first colon, and what follows. -/
def scheme?
    (cs : List Char) :
    Option (String × List Char) :=
  let name := cs.takeWhile isSchemeChar
  match name, cs.dropWhile isSchemeChar with
  | first :: _, ':' :: rest =>
      if first.isAlpha then
        some (String.ofList (name.map Char.toLower), rest)
      else none
  | _, _ => none

------------------------------------------------------------
-- Hosts
------------------------------------------------------------

/- Characters that no host may have. -/
def isForbidden
    (c : Char) :
    Bool :=
  c.toNat ≤ 32 || c.toNat = 127 ||
    ['#', '/', ':', '<', '>', '?', '@', '[', '\\', ']', '^', '|',
      '%'].contains c

/-
  A number of an address of four numbers: decimal, octal or hexadecimal.
-/
def hostNumber? : List Char → Option Nat
  | [] => none
  | '0' :: x :: digits =>
      if x = 'x' ∨ x = 'X' then
        if digits.all isHex then some (CharSet.readCode digits) else none
      else if (x :: digits).all fun c => '0' ≤ c ∧ c ≤ '7' then
        some ((x :: digits).foldl
          (fun n c => n * 8 + Numeral.digitValue c) 0)
      else none
  | cs => Numeral.digits? cs

/-
  The numbers of an address, the last one standing for all that is left.
-/
def addressOf?
    (numbers : List Nat) :
    Option Nat :=
  match numbers.reverse with
  | [] => none
  | last :: others =>
      if 3 < others.length || others.any (255 < ·) ||
          Nat.pow 256 (4 - others.length) ≤ last then none
      else
        some (others.reverse.zipIdx.foldl
          (fun n (part, i) => n + part * Nat.pow 256 (3 - i)) last)

def dotted
    (address : Nat) :
    String :=
  String.intercalate "."
    ([3, 2, 1, 0].map fun i => toString (address / Nat.pow 256 i % 256))

/- Whether a host has to be an address of numbers. -/
def endsInNumber
    (parts : List (List Char)) :
    Bool :=
  match parts.getLast? with
  | some part => (Numeral.digits? part).isSome || (hostNumber? part).isSome
  | none => false

/- The parts of a host; a single dot at its end counts for nothing. -/
def hostParts
    (cs : List Char) :
    List (List Char) :=
  let parts := Text.splitChars '.' cs
  if 1 < parts.length ∧ parts.getLast? = some [] then parts.dropLast
  else parts

/- The normal form of a host. -/
def readHost?
    (special : Bool)
    (cs : List Char) :
    Option String :=
  if cs.head? = some '[' then
    let inner := (cs.drop 1).dropLast
    if cs.getLast? = some ']' ∧ inner.contains ':' ∧
        inner.all fun c => isHex c || c = ':' || c = '.' then
      some (String.ofList (cs.map Char.toLower))
    else none
  else if !special then
    if cs.any fun c => isForbidden c && c ≠ '%' then none
    else some (String.ofList (escape [] cs))
  else
    let name := (unescape cs).map Char.toLower
    if name.isEmpty || name.any isForbidden then none
    else
      let parts := hostParts name
      if endsInNumber parts then
        ((parts.mapM hostNumber?).bind addressOf?).map dotted
      else some (String.ofList name)

/- The number behind a host, without the one that the scheme implies. -/
def readPort?
    (scheme : String)
    (cs : List Char) :
    Option (Option Nat) :=
  if cs.isEmpty then some none
  else
    match Numeral.digits? cs with
    | some n =>
        if 65535 < n then none
        else some (if impliedPort? scheme = some n then none else some n)
    | none => none

/- Credentials before a host; empty ones are left out. -/
def credentials
    (cs : List Char) :
    Option String :=
  let name := cs.takeWhile (· ≠ ':')
  let password := (cs.dropWhile (· ≠ ':')).drop 1
  if name.isEmpty && password.isEmpty then none
  else
    some (String.ofList
      (escape inCredentials name ++
        (if password.isEmpty then []
          else ':' :: escape inCredentials password)))

/- Split at the last place where a character stands. -/
def splitLast
    (mark : Char)
    (cs : List Char) :
    Option (List Char × List Char) :=
  if cs.contains mark then
    let after := (cs.reverse.takeWhile (· ≠ mark)).reverse
    some (cs.take (cs.length - after.length - 1), after)
  else none

/- The host of an authority and the number behind it. -/
def hostAndPort
    (cs : List Char) :
    List Char × List Char :=
  if cs.head? = some '[' then
    let host := cs.takeWhile (· ≠ ']') ++ [']']
    (host, (cs.drop host.length).drop 1)
  else (cs.takeWhile (· ≠ ':'), (cs.dropWhile (· ≠ ':')).drop 1)

------------------------------------------------------------
-- Paths
------------------------------------------------------------

def isDot
    (segment : List Char) :
    Bool :=
  ["." , "%2e"].contains (String.ofList (segment.map Char.toLower))

def isDoubleDot
    (segment : List Char) :
    Bool :=
  ["..", ".%2e", "%2e.", "%2e%2e"].contains
    (String.ofList (segment.map Char.toLower))

/- The segments of a path without dots; `kept` has the last one first. -/
def withoutDots :
    (kept : List (List Char)) → List (List Char) → List (List Char)
  | kept, [] => kept.reverse
  | kept, [segment] =>
      if isDoubleDot segment then ([] :: kept.drop 1).reverse
      else if isDot segment then ([] :: kept).reverse
      else (segment :: kept).reverse
  | kept, segment :: rest =>
      if isDoubleDot segment then withoutDots (kept.drop 1) rest
      else if isDot segment then withoutDots kept rest
      else withoutDots (segment :: kept) rest

/- The normal form of a path that starts with a slash, or is empty. -/
def pathText
    (special : Bool)
    (cs : List Char) :
    String :=
  let cs := if special then cs.map fun c => if c = '\\' then '/' else c
    else cs
  match cs with
  | [] => if special then "/" else ""
  | _ =>
      let cs := if cs.head? = some '/' then cs.drop 1 else cs
      let segments :=
        withoutDots [] ((Text.splitChars '/' cs).map (escape inPath))
      "/" ++ String.intercalate "/" (segments.map String.ofList)

------------------------------------------------------------
-- Whole Addresses
------------------------------------------------------------

/- Drop what is not part of an address. -/
def cleaned
    (s : String) :
    List Char :=
  let isEdge (c : Char) := decide (c.toNat ≤ 32)
  let cs := s.toList.dropWhile isEdge
  let cs := (cs.reverse.dropWhile isEdge).reverse
  cs.filter fun c => c ≠ '\t' && c ≠ '\n' && c ≠ '\r'

/- Split off a part that starts with a mark. -/
def splitMark
    (mark : Char)
    (cs : List Char) :
    List Char × Option (List Char) :=
  match cs.dropWhile (· ≠ mark) with
  | [] => (cs, none)
  | _ :: part => (cs.takeWhile (· ≠ mark), some part)

/- The address that a text names. -/
def ofText?
    (s : String) :
    Option Url :=
  match scheme? (cleaned s) with
  | none => none
  | some (scheme, rest) =>
      let special := (impliedPort? scheme).isSome
      let (rest, fragment?) := splitMark '#' rest
      let (rest, query?) := splitMark '?' rest
      let query? := query?.map fun cs =>
        String.ofList (escape (inQuery special) cs)
      let fragment? := fragment?.map fun cs =>
        String.ofList (escape inFragment cs)
      let isSlash c := c = '/' || (special && c = '\\')
      let hasHost := special || ['/', '/'].isPrefixOf rest
      if hasHost && scheme ≠ "file" then
        let rest := if special then rest.dropWhile isSlash else rest.drop 2
        let authority := rest.takeWhile fun c => !isSlash c
        let path := rest.dropWhile fun c => !isSlash c
        let (user, address) :=
          match splitLast '@' authority with
          | some (user, address) => (credentials user, address)
          | none => (none, authority)
        let (hostText, portText) := hostAndPort address
        match readHost? special hostText, readPort? scheme portText with
        | some host, some portNumber? =>
            some ⟨scheme, user, some host, portNumber?,
              pathText special path, query?, fragment?⟩
        | _, _ => none
      else if scheme = "file" || rest.head? = some '/' then
        let rest :=
          if ['/', '/'].isPrefixOf rest then rest.drop 2 else rest
        some ⟨scheme, none, none, none,
          (if scheme = "file" then "//" else "") ++ pathText true rest,
          query?, fragment?⟩
      else
        some ⟨scheme, none, none, none, String.ofList (escape [] rest),
          query?, fragment?⟩

end Url

end Automation
