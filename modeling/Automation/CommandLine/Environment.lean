import Automation.Table
import Automation.Text.Blank

/-
  Named values, and texts that give them.

  A line of such a text is a name, an equals sign and a value.  Values may
  be quoted, and stand for other values behind a dollar sign.  Names that
  have a value keep it.  Lines behind one that cannot be read are not read.

  Key definitions include:
    * `Environment`, a table of named values
    * `Environment.load`, an environment with the values of a text
-/

namespace Automation

abbrev Environment := Table String

namespace Environment

------------------------------------------------------------
-- Values
------------------------------------------------------------

inductive Quoting where
  | bare
  | single
  | double
deriving DecidableEq, Inhabited

/- The name of another value, as far as it is read; in braces or not. -/
structure Reference where
  name : List Char
  braced : Bool
deriving DecidableEq, Inhabited

/- A value as far as it is read, last character first. -/
structure ValueState where
  text : List Char
  quoting : Quoting
  escaped : Bool
  ended : Bool
  reference? : Option Reference
deriving Inhabited

namespace ValueState

def start : ValueState := ⟨[], .bare, false, false, none⟩

def push
    (state : ValueState)
    (c : Char) :
    ValueState :=
  { state with text := c :: state.text }

/- Put the value of a reference in its place. -/
def resolved
    (environment : Environment)
    (state : ValueState) :
    ValueState :=
  match state.reference? with
  | none => state
  | some reference =>
      let name := String.ofList reference.name.reverse
      let value := (environment.find? name).getD ""
      { state with
        text := value.toList.reverse ++ state.text
        reference? := none }

/- The character that an escape stands for. -/
def escaped?
    (c : Char) :
    Option Char :=
  if c = 'n' then some '\n'
  else if ['\\', '\'', '"', '$', ' '].contains c then some c
  else none

/- Go on with a reference. -/
def refer
    (environment : Environment)
    (state : ValueState)
    (reference : Reference)
    (c : Char) :
    ValueState :=
  if c.isAlphanum || (reference.braced && c ≠ '\x7d') then
    { state with
      reference? := some { reference with name := c :: reference.name } }
  else if reference.braced then state.resolved environment
  else if c = '\x7b' && reference.name.isEmpty then
    { state with reference? := some ⟨[], true⟩ }
  else if c = '$' then
    { state.resolved environment with reference? := some ⟨[], false⟩ }
  else (state.resolved environment).push c

/- Go on with a character outside of quotes. -/
def bare
    (state : ValueState)
    (c : Char) :
    ValueState :=
  if c = '\'' then { state with quoting := .single }
  else if c = '"' then { state with quoting := .double }
  else if c = '\\' then { state with escaped := true }
  else if c = ' ' || c = '\t' then { state with ended := true }
  else state.push c

/- Go on with a character; behind the end only a comment may follow. -/
def step
    (environment : Environment)
    (state : ValueState)
    (c : Char) :
    Option ValueState :=
  if state.escaped then
    (escaped? c).map fun c => { state with escaped := false }.push c
  else
    match state.quoting, state.reference? with
    | .single, _ =>
        if c = '\'' then some { state with quoting := .bare }
        else some (state.push c)
    | _, some reference => some (state.refer environment reference c)
    | quoting, none =>
        if c = '$' then
          some { state with reference? := some ⟨[], false⟩ }
        else if quoting = .bare then some (state.bare c)
        else if c = '"' then some { state with quoting := .bare }
        else if c = '\\' then some { state with escaped := true }
        else some (state.push c)

/- The value, unless a quote or a brace is still open. -/
def finish?
    (environment : Environment)
    (state : ValueState) :
    Option String :=
  let openBrace := state.reference?.any (·.braced)
  if openBrace || state.quoting ≠ .bare then none
  else some (String.ofList (state.resolved environment).text.reverse)

end ValueState

/- The value that some characters are. -/
def valueFrom
    (environment : Environment) :
    ValueState → List Char → Option String
  | state, [] => state.finish? environment
  | state, c :: rest =>
      if state.ended then
        if c = ' ' || c = '\t' then valueFrom environment state rest
        else if c = '#' then state.finish? environment
        else none
      else
        (state.step environment c).bind fun state =>
          valueFrom environment state rest

------------------------------------------------------------
-- Lines
------------------------------------------------------------

/- A name, and the characters behind it. -/
def nameAt
    (cs : List Char) :
    Option (String × List Char) :=
  match cs with
  | c :: _ =>
      if c.isAlpha || c = '_' then
        let isName := fun c : Char => c.isAlphanum || c = '_' || c = '.'
        some (String.ofList (cs.takeWhile isName), cs.dropWhile isName)
      else none
  | [] => none

def skipBlank
    (cs : List Char) :
    List Char :=
  cs.dropWhile Text.isBlank

/- What stands behind an equals sign. -/
def afterEquals : List Char → Option (List Char)
  | '=' :: rest => some (skipBlank rest)
  | _ => none

/- The name and the value in a line; the word `export` may come first. -/
def assignmentIn
    (cs : List Char) :
    Option (String × List Char) := do
  let (name, rest) ← nameAt cs
  let rest := skipBlank rest
  match afterEquals rest with
  | some value => return (name, value)
  | none =>
      if name = "export" then
        let (name, rest) ← nameAt rest
        return (name, ← afterEquals (skipBlank rest))
      else none

/- Whether a line is empty or a comment. -/
def isIdle
    (cs : List Char) :
    Bool :=
  cs.isEmpty || cs.head? = some '#'

/-
  The environment with the values of some lines.  References see the
  values that earlier lines gave.
-/
def loadLines :
    Environment → List (List Char) → Environment
  | environment, [] => environment
  | environment, line :: rest =>
      let line := skipBlank (Text.trimEnd line)
      if isIdle line then loadLines environment rest
      else
        let entry? := do
          let (name, written) ← assignmentIn line
          if isIdle written then return (name, "")
          else return (name, ← valueFrom environment .start written)
        match entry? with
        | none => environment
        | some (name, value) =>
            let kept := (environment.find? name).isSome
            loadLines
              (if kept then environment else environment.insert name value)
              rest

def load
    (environment : Environment)
    (text : String) :
    Environment :=
  loadLines environment (Text.splitChars '\n' text.toList)

end Environment

end Automation
