import Automation.Table
import Automation.Text.Blank

/-
  Files that can be read, and directories that can be listed.

  Key definitions include:
    * `Files` and `FileFault`
    * `Files.ofTable`, files held in memory
    * `Files.extension?`, the ending of a file name
-/

namespace Automation

inductive FileFault where
  | missing
  | notDirectory
  | isDirectory
  | other (reason : String)
deriving DecidableEq, Inhabited

def FileFault.message : FileFault → String
  | .missing => "No such file or directory (os error 2)"
  | .notDirectory => "Not a directory (os error 20)"
  | .isDirectory => "Is a directory (os error 21)"
  | .other reason => reason

/- The text under a path, and the names in a directory if it is one. -/
structure Files where
  read : String → Except FileFault String
  names? : String → Option (List String)

namespace Files

------------------------------------------------------------
-- Paths
------------------------------------------------------------

/- The names that a path is made of. -/
def partsOf
    (path : String) :
    List String :=
  (Text.splitOn '/' path).filter fun part => !part.isEmpty && part ≠ "."

/- The path to a name in a directory. -/
def join
    (directory name : String) :
    String :=
  if directory.isEmpty || directory.toList.getLast? = some '/' then
    directory ++ name
  else directory ++ "/" ++ name

/-
  What stands behind the last point of a file name, unless the name starts
  with that point.
-/
def extension?
    (path : String) :
    Option String :=
  match (partsOf path).getLast? with
  | none => none
  | some ".." => none
  | some name =>
      let cs := name.toList.reverse
      let ending := (cs.takeWhile (· ≠ '.')).reverse
      match cs.dropWhile (· ≠ '.') with
      | [] => none
      | [_] => none
      | _ => some (String.ofList ending)

------------------------------------------------------------
-- Files In Memory
------------------------------------------------------------

/- What a path leads to; a directory is known by the names on the way. -/
inductive Destination where
  | file (text : String)
  | directory (path : List String)
  | nowhere (fault : FileFault)
deriving Inhabited

/- What stands at a path without detours. -/
def destination
    (files : List (List String × String))
    (path : List String) :
    Destination :=
  match files.lookup path with
  | some text => .file text
  | none =>
      if path.isEmpty ||
          files.any fun (other, _) => path.isPrefixOf other then
        .directory path
      else if files.any fun (other, _) => other.isPrefixOf path then
        .nowhere .notDirectory
      else .nowhere .missing

/- Follow a path, whose part `..` leads back out of a directory. -/
def walk
    (files : List (List String × String)) :
    (before : List String) → List String → Destination
  | before, [] => destination files before
  | before, ".." :: rest =>
      match destination files before with
      | .directory path => walk files path.dropLast rest
      | .file _ => .nowhere .notDirectory
      | .nowhere fault => .nowhere fault
  | before, part :: rest => walk files (before ++ [part]) rest

/-
  What a path leads to; no file lies behind a slash or from the root on.
-/
def find
    (files : List (List String × String))
    (path : String) :
    Destination :=
  if path.isEmpty || path.toList.head? = some '/' then .nowhere .missing
  else
    match walk files [] (partsOf path) with
    | .file text =>
        if path.toList.getLast? = some '/' then .nowhere .notDirectory
        else .file text
    | other => other

/- The names in a directory, each of them once. -/
def namesIn
    (files : List (List String × String))
    (directory : List String) :
    List String :=
  (files.filterMap fun (path, _) =>
    if directory.isPrefixOf path then path[directory.length]?
    else none).eraseDups

/- Files with the given texts, by their paths. -/
def ofTable
    (table : Table String) :
    Files :=
  let files := table.map fun (path, text) => (partsOf path, text)
  { read := fun path =>
      match find files path with
      | .file text => .ok text
      | .directory _ => .error .isDirectory
      | .nowhere fault => .error fault
    names? := fun path =>
      match find files path with
      | .directory path => some (namesIn files path)
      | _ => none }

end Files

end Automation
