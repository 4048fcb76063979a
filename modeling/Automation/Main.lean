import Automation.CommandLine

/-
  The program as it is run: what it reads before it decides anything, and
  what it writes afterwards.

  Key definitions include:
    * `main`
-/

namespace Automation

namespace CommandLine

------------------------------------------------------------
-- Reading
------------------------------------------------------------

def faultOf : IO.Error → FileFault
  | .noFileOrDirectory .. => .missing
  | .inappropriateType .. => .isDirectory
  | e => .other (toString e)

def readFile
    (path : String) :
    IO (Except FileFault String) := do
  try return .ok (← IO.FS.readFile path)
  catch e => return .error (faultOf e)

/- The names in a directory, in their order, if it is one. -/
def readNames
    (path : String) :
    IO (Option (List String)) := do
  try
    let directory ← IO.FS.realPath path
    let entries ← directory.readDir
    let names := entries.toList.map (·.fileName)
    return some (names.mergeSort (· ≤ ·))
  catch _ => return none

/- The files that a request names, as they are at present. -/
def snapshot
    (request : Request) :
    IO Files := do
  let (named, directory?) :=
    match request with
    | .command command => (command.files, command.directory?)
    | _ => ([], none)
  let names? ←
    match directory? with
    | some directory => readNames directory
    | none => pure none
  let listed :=
    match directory?, names? with
    | some directory, some names =>
        (names.filter isRuleFile).map (Files.join directory)
    | _, _ => []
  let texts ← (".env" :: named ++ listed).mapM fun path => do
    return (path, ← readFile path)
  return {
    read := fun path => (texts.lookup path).getD (.error .missing)
    names? := fun path => if directory? = some path then names? else none }

/- The limits that are set where the program is run. -/
def readEnvironment : IO Environment := do
  let values ← Settings.names.mapM fun name => do
    return (← IO.getEnv name).map fun value => (name, value)
  return Table.ofList (values.filterMap id)

/- The present time, which is the time of a file that was just made. -/
def readClock : IO Timestamp :=
  IO.FS.withTempFile fun _ path => do
    let time := (← path.metadata).modified
    return (Timestamp.ofSeconds? time.sec time.nsec.toNat).getD default

/- An identifier chosen at random. -/
def readIdentifier : IO Identifier := do
  let bytes := (← IO.getRandomBytes (.ofNat 16)).toList.map (·.toNat)
  return .ofRandom fun i =>
    let byte := bytes.getD (i / 2) 0
    if i % 2 = 0 then byte / 16 else byte

end CommandLine

end Automation

------------------------------------------------------------
-- The Program
------------------------------------------------------------

open Automation CommandLine in
def main
    (arguments : List String) :
    IO UInt32 := do
  let files ← snapshot (Request.ofArguments arguments)
  let environment ← readEnvironment
  let stamp : Stamp := ⟨← readIdentifier, ← readClock, 0⟩
  let present ← IO.monoMsNow
  let output :=
    execute files environment present stamp .standard Webhook.noNetwork
      arguments
  IO.print output.stdout
  IO.eprint output.stderr
  return output.code.toUInt32
