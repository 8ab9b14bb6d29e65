import Fixtures.Command

/-!
# `Fixtures.Main`: the command line

Reads what a command needs from the environment and the disk, executes it, and puts its files and
its text where they belong.
-/

set_option autoImplicit false

namespace Fixtures

/-- The variables of the environment. -/
def environmentVariables : IO (NameMap String) := do
  try
    let text ← IO.FS.readFile "/proc/self/environ"
    let pairs := (text.splitOn "\x00").filterMap fun pair =>
      match pair.splitOn "=" with
      | name :: first :: rest => some (name, "=".intercalate (first :: rest))
      | _ => none
    return NameMap.ofList pairs
  catch _ => return .empty

/-- Whether there is a folder at a path: only from a folder can a step be taken. -/
def isFolderAt (path : String) : IO Bool := do
  try
    let _ ← IO.FS.realPath (path ++ "/.")
    return true
  catch _ => return false

/-- The files that there are among some paths, and the folders along them. -/
def filesAt (paths : List String) : IO FileTree := do
  let mut tree := .empty
  for path in paths do
    for place in Place.along path do
      if ← isFolderAt place.toText then tree := { tree with folders := place :: tree.folders }
    try
      let text ← IO.FS.readFile path
      tree := { tree with files := tree.files.insert (Place.ofPath path).toText text }
    catch _ => pure ()
  return tree

/-- The paths that a command reads. -/
def Arguments.inputPaths (a : Arguments) : List String :=
  a.catalog :: (a.config.map Settings.filePaths).getD []

/-- Writes a file and makes the folders above it. -/
def writeText (path text : String) : IO Unit := do
  let folder := "/".intercalate (path.splitOn "/").dropLast
  if !folder.isEmpty then IO.FS.createDirAll folder
  IO.FS.writeFile path text

/-- A source of random UUIDs for each type. -/
def randomSource : IO (String → UuidSource) := do
  let bytes ← IO.getRandomBytes 8
  return UuidSource.forPass (bytes.toList.foldl (fun n b => n * 256 + b.toUInt64) 0)

/-- How a command is called. -/
def usage : String :=
  "usage: fixturegen [--config FILE] [--output table|json|yaml] generate|check --catalog FILE "
    ++ "[--type NAME]... [--seed N] [--workers N] [--out DIR] [--no-header] [--dry-run]"

end Fixtures

open Fixtures in
/-- Runs a command. The exit code is 1 when it fails and 2 when it cannot be understood. -/
def main (arguments : List String) : IO UInt32 := do
  let environment ← environmentVariables
  match Arguments.ofList? environment arguments with
  | none =>
    IO.eprintln usage
    return 2
  | some a =>
    let files ← filesAt a.inputPaths
    let done := a.execute (← randomSource) environment files
    for (path, text) in done.files.files.entries do
      if files.files.get? path != some text then writeText path text
    IO.print done.stdout
    match done.result with
    | .ok () => return 0
    | .error e =>
      IO.eprintln ("Error: " ++ e.message)
      return 1
