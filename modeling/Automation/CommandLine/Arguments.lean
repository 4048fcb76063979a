import Automation.Rule.Written

/-
  The arguments of the program.

  The first argument names a command; options follow it, as `--name value`
  or `--name=value`, or with a letter as `-n value`, `-n=value` or
  `-nvalue`.  Every option is given at most once.

  Key definitions include:
    * `Command` and `Request`
    * `Request.ofArguments`, what a list of arguments asks for
-/

namespace Automation

namespace CommandLine

------------------------------------------------------------
-- Commands
------------------------------------------------------------

/- Where a rule is found, and the rules that it may start. -/
structure RuleSource where
  rule : String
  directory? : Option String
deriving DecidableEq, Inhabited

/- Where the input of a run comes from. -/
inductive PayloadSource where
  | nothing
  | file (path : String)
  | text (json : String)
deriving DecidableEq, Inhabited

inductive Command where
  | run
      (source : RuleSource)
      (payload : PayloadSource)
      (trigger : TriggerKind)
  | webhook
      (source : RuleSource)
      (payload : PayloadSource)
      (token : String)
  | validate (rule : String)
deriving DecidableEq, Inhabited

namespace PayloadSource

def file? : PayloadSource → Option String
  | .file path => some path
  | _ => none

end PayloadSource

namespace Command

/- The files that a command names. -/
def files : Command → List String
  | .run source payload _ => source.rule :: payload.file?.toList
  | .webhook source payload _ => source.rule :: payload.file?.toList
  | .validate rule => [rule]

/- The directory that a command names. -/
def directory? : Command → Option String
  | .run source _ _ => source.directory?
  | .webhook source _ _ => source.directory?
  | .validate _ => none

end Command

/- What the program is asked for. -/
inductive Request where
  | command (command : Command)
  | version
  | help
  | misuse
deriving DecidableEq, Inhabited

------------------------------------------------------------
-- Options
------------------------------------------------------------

/- An option that takes a value, or one that is a mere flag. -/
structure OptionForm where
  name : String
  letter? : Option Char
  hasValue : Bool
deriving DecidableEq, Inhabited

/- An option as it was given; a flag has an empty value. -/
abbrev Given := String × String

/- Whether an argument can be the value of the option before it. -/
def isValue
    (argument : String) :
    Bool :=
  argument = "-" || argument.toList.head? ≠ some '-'

/-
  An option, with a value that is part of the same argument or the next.
-/
def attach
    (form : OptionForm)
    (attached? : Option String)
    (rest : List String) :
    Option (Given × List String) :=
  match form.hasValue, attached?, rest with
  | false, none, _ => some ((form.name, ""), rest)
  | false, some _, _ => none
  | true, some value, _ => some ((form.name, value), rest)
  | true, none, value :: rest =>
      if isValue value then some ((form.name, value), rest) else none
  | true, none, [] => none

/- The value behind a letter, if there is any. -/
def valueBehindLetter : List Char → Option String
  | [] => none
  | '=' :: rest => some (String.ofList rest)
  | rest => some (String.ofList rest)

/- The option that some arguments start with. -/
def optionAt
    (forms : List OptionForm)
    (argument : String)
    (rest : List String) :
    Option (Given × List String) :=
  match argument.toList with
  | '-' :: '-' :: cs =>
      let name := String.ofList (cs.takeWhile (· ≠ '='))
      let attached? :=
        match cs.dropWhile (· ≠ '=') with
        | [] => none
        | _ :: value => some (String.ofList value)
      (forms.find? fun form => form.name = name).bind fun form =>
        attach form attached? rest
  | '-' :: letter :: cs =>
      (forms.find? fun form => form.letter? = some letter).bind fun form =>
        attach form (valueBehindLetter cs) rest
  | _ => none

/- Arguments that are all options, none of them given twice. -/
def optionsOf
    (forms : List OptionForm) :
    Nat → (before : List Given) → List String → Option (List Given)
  | 0, _, _ => none
  | _ + 1, before, [] => some before
  | _ + 1, before, ["--"] => some before
  | fuel + 1, before, argument :: rest =>
      match optionAt forms argument rest with
      | none => none
      | some ((name, value), rest) =>
          if (before.lookup name).isSome then none
          else optionsOf forms fuel ((name, value) :: before) rest

------------------------------------------------------------
-- Commands From Options
------------------------------------------------------------

def logForm : OptionForm := ⟨"log-json", none, false⟩

def ruleForm : OptionForm := ⟨"rule", some 'r', true⟩

def directoryForm : OptionForm := ⟨"rules-dir", none, true⟩

def inputForm : OptionForm := ⟨"input", some 'i', true⟩

def payloadForm : OptionForm := ⟨"payload", none, true⟩

def triggerForm : OptionForm := ⟨"trigger", some 't', true⟩

def tokenForm : OptionForm := ⟨"token", none, true⟩

/- A path that was given; an empty path is none. -/
def path?
    (given : List Given)
    (form : OptionForm) :
    Option (Option String) :=
  match given.lookup form.name with
  | none => some none
  | some path => if path.isEmpty then none else some (some path)

def source?
    (given : List Given) :
    Option RuleSource := do
  let rule ← ← path? given ruleForm
  let directory? ← path? given directoryForm
  return ⟨rule, directory?⟩

/- An input is given in a file or in the arguments, but not in both. -/
def payload?
    (given : List Given) :
    Option PayloadSource := do
  let file? ← path? given inputForm
  match file?, given.lookup payloadForm.name with
  | none, none => some .nothing
  | some path, none => some (.file path)
  | none, some json => some (.text json)
  | some _, some _ => none

def trigger?
    (given : List Given) :
    Option TriggerKind :=
  match given.lookup triggerForm.name with
  | none => some .manual
  | some name => (TriggerKind.ofName? name).toOption

namespace Command

def run?
    (given : List Given) :
    Option Command := do
  return .run (← source? given) (← payload? given) (← trigger? given)

def webhook?
    (given : List Given) :
    Option Command := do
  let token ← given.lookup tokenForm.name
  return .webhook (← source? given) (← payload? given) token

def validate?
    (given : List Given) :
    Option Command := do
  let rule ← ← path? given ruleForm
  return .validate rule

/- A command with a name, from the arguments behind the name. -/
def ofName?
    (name : String)
    (arguments : List String) :
    Option Command :=
  let options (forms : List OptionForm) :=
    optionsOf (logForm :: forms) (arguments.length + 1) [] arguments
  match name with
  | "run" =>
      (options [ruleForm, directoryForm, inputForm, payloadForm,
        triggerForm]).bind run?
  | "webhook" =>
      (options [ruleForm, directoryForm, inputForm, payloadForm,
        tokenForm]).bind webhook?
  | "validate" => (options [ruleForm]).bind validate?
  | _ => none

end Command

namespace Request

/-
  What arguments ask for; the flag says that logs were asked for before.
-/
def ofArgumentsAfter :
    (logged : Bool) → List String → Request
  | _, [] => .misuse
  | logged, "--log-json" :: rest =>
      if logged then .misuse else ofArgumentsAfter true rest
  | _, "--version" :: _ => .version
  | _, "-V" :: _ => .version
  | _, "--help" :: _ => .help
  | _, "-h" :: _ => .help
  | _, "help" :: _ => .help
  | _, name :: rest =>
      match Command.ofName? name rest with
      | some asked => .command asked
      | none =>
          if rest.contains "--help" || rest.contains "-h" then .help
          else .misuse

def ofArguments
    (arguments : List String) :
    Request :=
  ofArgumentsAfter false arguments

end Request

end CommandLine

end Automation
