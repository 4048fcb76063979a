import Automation.CommandLine.Arguments
import Automation.CommandLine.Environment
import Automation.CommandLine.Files
import Automation.Decoding.Json
import Automation.Decoding.Yaml
import Automation.Document.Printer
import Automation.Engine.Run
import Automation.RuleStore
import Automation.Webhook

/-
  The program: runs and checks of rules that are kept in files.

  Rules are read as JSON where their file name ends so, and as YAML
  otherwise.  What the program reports is the report of the run, or else
  what it failed at and the causes of that.  A crash that no report
  contains ends the program.

  Key definitions include:
    * `Failure`, with its causes
    * `CommandLine.loadRule` and `CommandLine.loadDirectory`
    * `CommandLine.execute`, the output for a list of arguments
-/

namespace Automation

namespace CommandLine

------------------------------------------------------------
-- Failures
------------------------------------------------------------

/- What could not be done, and why, the nearest cause first. -/
structure Failure where
  message : String
  causes : List String
deriving DecidableEq, Inhabited

namespace Failure

/- A failure as the cause of another. -/
def within
    (failure : Failure)
    (message : String) :
    Failure :=
  ⟨message, failure.message :: failure.causes⟩

/- The lines of a text, those behind the first indented. -/
def indented
    (width : Nat)
    (s : String) :
    String :=
  String.ofList
    (s.toList.flatMap fun c =>
      if c = '\n' then c :: List.replicate width ' ' else [c])

/- The causes, numbered if there are more than one. -/
def causeLines : List String → List String
  | [cause] => ["    " ++ indented 4 cause]
  | causes =>
      causes.zipIdx.map fun (cause, n) =>
        "    " ++ toString n ++ ": " ++ indented 7 cause

def text
    (failure : Failure) :
    String :=
  let causes :=
    if failure.causes.isEmpty then []
    else "" :: "Caused by:" :: causeLines failure.causes
  let lines := ("Error: " ++ failure.message) :: causes
  String.intercalate "\n" lines ++ "\n"

end Failure

/- The value of a step, whose fault is the cause of a failure. -/
def orFail
    {α ε : Type}
    (message : String)
    (cause : ε → String) :
    Except ε α → Except Failure α
  | .ok a => .ok a
  | .error fault => .error ⟨message, [cause fault]⟩

------------------------------------------------------------
-- Rules In Files
------------------------------------------------------------

/- A rule from a text, and a check that it is fit. -/
def parseRule
    (isJson : Bool)
    (text : String) :
    Except Failure Rule := do
  let rule ←
    if isJson then
      orFail "Invalid rule JSON" (Fault.message .null)
        (Json.decode Rule.decoder text)
    else
      orFail "Invalid rule YAML" (Fault.message .unit)
        (Yaml.decode Rule.decoder text)
  orFail ("Rule " ++ rule.id ++ " is invalid")
    (fun fault => (Rejection.invalidRule fault).message) rule.validate
  return rule

/- The rule in a file. -/
def loadRule
    (files : Files)
    (path : String) :
    Except Failure Rule := do
  let text ←
    orFail ("Failed to read rule file " ++ path) FileFault.message
      (files.read path)
  match parseRule (Files.extension? path = some "json") text with
  | .ok rule => .ok rule
  | .error failure =>
      .error (failure.within ("Failed to load rule " ++ path))

/- Whether a file name is one of a rule. -/
def isRuleFile
    (name : String) :
    Bool :=
  [some "json", some "yaml", some "yml"].contains (Files.extension? name)

/- The rules in the files of a directory. -/
def loadDirectory
    (files : Files)
    (directory : String) :
    Except Failure (List Rule) :=
  match files.names? directory with
  | none => .error ⟨"Rules directory not found: " ++ directory, []⟩
  | some names =>
      (names.filter isRuleFile).mapM fun name =>
        loadRule files (Files.join directory name)

/- The rules that a run can start, its own rule among them. -/
def loadStore
    (files : Files)
    (rule : Rule)
    (directory? : Option String) :
    Except Failure RuleStore := do
  let rules ←
    match directory? with
    | none => pure []
    | some directory => loadDirectory files directory
  return (RuleStore.ofRules rules).insert rule

------------------------------------------------------------
-- Payloads
------------------------------------------------------------

def parsePayload
    (origin text : String) :
    Except Failure Document :=
  orFail ("Invalid JSON in " ++ origin) (Fault.message .null)
    (Json.decode Decoder.document text)

def loadPayload
    (files : Files) :
    PayloadSource → Except Failure Document
  | .nothing => .ok (.object [])
  | .text json => parsePayload "--payload" json
  | .file path => do
      let text ←
        orFail ("Failed to read input file " ++ path) FileFault.message
          (files.read path)
      parsePayload path text

------------------------------------------------------------
-- Commands
------------------------------------------------------------

/- What the program leaves behind. -/
structure Output where
  code : Nat
  stdout : String
  stderr : String
deriving DecidableEq, Inhabited

namespace Output

def success
    (text : String) :
    Output :=
  ⟨0, text ++ "\n", ""⟩

def failure
    (failure : Failure) :
    Output :=
  ⟨1, "", failure.text⟩

def crash
    (crash : Crash) :
    Output :=
  ⟨101, "",
    "thread 'main' panicked:\n" ++ crash.message?.getD "" ++ "\n"⟩

end Output

/- What a program is run in, and the present time of its clock. -/
structure Surroundings where
  files : Files
  settings : Settings
  present : Nat
  stamp : Stamp
  patterns : PatternLibrary
  network : Webhook.Network

/- A setup for the rules of a store, without any models. -/
def setupOf
    (surroundings : Surroundings)
    (store : RuleStore) :
    Setup where
  settings := surroundings.settings
  stamp := surroundings.stamp
  patterns := surroundings.patterns
  collaborators :=
    { model := Collaborators.noModel
      notify := fun _ _ => .answer ()
      webhook := fun _ => Webhook.call surroundings.network
      rule := fun id => .ok (Table.find? store id) }

/- The report of a run that was let through, or the crash of the run. -/
def reportOf
    (present : Nat)
    (run : Except Rejection (Activity Report)) :
    Except Failure (Ending String) :=
  match run with
  | .error rejection => .error ⟨rejection.message, []⟩
  | .ok activity =>
      match (activity present).ending with
      | .returned report => .ok (.returned report.document.spread)
      | .crashed crash => .ok (.crashed crash)

/- What is said of a rule that is fit. -/
def approval
    (rule : Rule) :
    String :=
  "Rule '" ++ rule.name ++ "' (" ++ rule.id ++ ") is valid: " ++
    toString rule.logic.actions.length ++ " action(s), " ++
    rule.mode.name ++ " mode"

/- The text that a command answers, unless it crashes. -/
def answer
    (surroundings : Surroundings) :
    Command → Except Failure (Ending String)
  | .run source payload trigger => do
      let files := surroundings.files
      let rule ← loadRule files source.rule
      let store ← loadStore files rule source.directory?
      let input ← loadPayload files payload
      reportOf surroundings.present
        ((setupOf surroundings store).run rule input trigger)
  | .webhook source payload token => do
      let files := surroundings.files
      let rule ← loadRule files source.rule
      let store ← loadStore files rule source.directory?
      let input ← loadPayload files payload
      reportOf surroundings.present
        ((setupOf surroundings store).runHook rule.id token input)
  | .validate path => do
      let rule ← loadRule surroundings.files path
      return .returned (approval rule)

def version : String := "ruleflow 0.3.0"

def usage : String :=
  "Usage: ruleflow [--log-json] run|webhook|validate --rule RULE [OPTIONS]"

/-
  The settings that the environment names; a file `.env` adds to it what it
  does not have.
-/
def settingsIn
    (files : Files)
    (environment : Environment) :
    Settings :=
  let full :=
    match files.read ".env" with
    | .ok text => environment.load text
    | .error _ => environment
  Settings.ofEnvironment full.find?

/- The output for a list of arguments, at a time. -/
def execute
    (files : Files)
    (environment : Environment)
    (present : Nat)
    (stamp : Stamp)
    (patterns : PatternLibrary)
    (network : Webhook.Network)
    (arguments : List String) :
    Output :=
  match Request.ofArguments arguments with
  | .misuse => ⟨2, "", usage ++ "\n"⟩
  | .version => .success version
  | .help => .success usage
  | .command command =>
      let settings := settingsIn files environment
      let surroundings : Surroundings :=
        ⟨files, settings, present, stamp, patterns, network⟩
      match answer surroundings command with
      | .ok (.returned text) => .success text
      | .ok (.crashed crash) => .crash crash
      | .error failure => .failure failure

end CommandLine

end Automation
