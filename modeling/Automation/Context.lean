import Automation.Document
import Automation.Decoding.Record

/-
  The values that a run can refer to.

  A context has a fixed scope, given when the run starts, and variables,
  which actions write as the run goes on.  A dotted path names a value: its
  first segment is looked up in the fixed scope, then among the variables,
  and then as the name of one of the two scopes; the other segments lead
  into objects and arrays.

  Key definitions include:
    * `Context`, `Context.setVariable` and `Context.input`
    * `Document.descend`, which follows segments into a document
    * `Context.resolve`, the value a path names
-/

namespace Automation

------------------------------------------------------------
-- Paths Into A Document
------------------------------------------------------------

namespace Document

/- One step: by key into an object, by position into an array. -/
def step? : Document → String → Option Document
  | .object entries, segment => Table.find? entries segment
  | .array items, segment =>
      match Numeral.natural? UInt64.size segment.toList with
      | some index => items[index]?
      | none => none
  | _, _ => none

/- Follow segments into a document. -/
def descend
    (d : Document) :
    List String → Option Document
  | [] => some d
  | segment :: rest =>
      match d.step? segment with
      | some inner => inner.descend rest
      | none => none

end Document

------------------------------------------------------------
-- Contexts
------------------------------------------------------------

structure Context where
  fixed : Entries
  /- The values of the variables. -/
  assigned : Entries
deriving Inhabited

namespace Context

/- A context without variables. -/
def ofFixed
    (fixed : Entries) :
    Context :=
  ⟨fixed, []⟩

def setVariable
    (context : Context)
    (name : String)
    (value : Document) :
    Context :=
  { context with
    assigned := Table.insert name value context.assigned }

def valueOf?
    (context : Context)
    (name : String) :
    Option Document :=
  Table.find? context.assigned name

/- The input that started the run; null when there is none. -/
def input
    (context : Context) :
    Document :=
  (Table.find? context.fixed "input").getD .null

------------------------------------------------------------
-- Resolution
------------------------------------------------------------

/- The scope that goes by a name. -/
def scope?
    (context : Context)
    (name : String) :
    Option Entries :=
  if name = "variables" then some context.assigned
  else if name = "context" then some context.fixed
  else none

/- The value that a list of segments names. -/
def lookup
    (context : Context) :
    List String → Option Document
  | [] => none
  | head :: rest =>
      match Table.find? context.fixed head with
      | some root => root.descend rest
      | none =>
          match Table.find? context.assigned head with
          | some root => root.descend rest
          | none =>
              match context.scope? head, rest with
              | some scope, key :: more =>
                  match Table.find? scope key with
                  | some root => root.descend more
                  | none => none
              | _, _ => none

/- The value that a path names.  A path never fails, it only misses. -/
def resolve
    (context : Context)
    (path : String) :
    Option Document :=
  let path := Text.trim path
  if path.isEmpty then none
  else context.lookup (Text.splitOn '.' path)

------------------------------------------------------------
-- Written Form
------------------------------------------------------------

def record : Record Context :=
  Context.mk
    <$> Record.required ["context"] (Decoder.tableOf Decoder.document)
    <*> Record.defaulted ["variables"]
      (Decoder.tableOf Decoder.document) []

def decoder : Decoder Context :=
  record.decoder "struct ExecutionContext"

def document
    (context : Context) :
    Document :=
  .record
    [("context", .object context.fixed),
      ("variables", .object context.assigned)]

end Context

end Automation
