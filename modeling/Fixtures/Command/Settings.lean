import Fixtures.Command.Error
import Fixtures.Config
import Fixtures.FileTree
import Fixtures.Setting.Environment
import Fixtures.Setting.Path
import Fixtures.Setting.Toml

/-!
# `Fixtures.Command.Settings`: the settings of a command

Settings come in layers: the defaults, a file, and the environment over both. A key that no
setting has is passed over.
-/

set_option autoImplicit false

namespace Fixtures

/-- A field of a record, or a default when there is none. -/
def Setting.field? {α : Type} (fields : String → Option Setting) (key : String)
    (read : Setting → Option α) (default : α) : Option α :=
  match fields key with
  | none => some default
  | some value => read value

/-- Settings of a run out of loosely typed ones. -/
def Config.ofSetting? (s : Setting) : Option Config := do
  let fields ← s.fields? keys
  let default : Config := {}
  let includeTransient ← Setting.field? fields "include_transient" Setting.toBool?
    default.includeTransient
  let emitHeader ← Setting.field? fields "emit_header" Setting.toBool? default.emitHeader
  let workers ← Setting.field? fields "workers" Setting.toWord? default.workers
  let uuidSeed ← Setting.field? fields "uuid_seed" (Setting.optional? Setting.toWord?) none
  let providers ← Setting.field? fields "providers" Setting.toTexts? default.providers
  let nullToken ← Setting.field? fields "null_token" Setting.toText? default.nullToken
  return { includeTransient, emitHeader, workers, uuidSeed := uuidSeed.map Nat.toUInt64,
           providers, nullToken }

/-- The settings of a command. -/
structure Settings where
  /-- The folder that sources are written below. -/
  outDir : String := "generated"
  /-- The settings of the run. -/
  generation : Config := {}
deriving DecidableEq

namespace Settings

/-- Settings out of loosely typed ones. -/
def ofSetting? (s : Setting) : Option Settings := do
  let fields ← s.fields? ["out_dir", "generation"]
  let default : Settings := {}
  let outDir ← Setting.field? fields "out_dir" Setting.toText? default.outDir
  let generation ← Setting.field? fields "generation" Config.ofSetting? default.generation
  return { outDir, generation }

/-- Writes settings. -/
def toJson (s : Settings) : Json :=
  .obj [("out_dir", .str s.outDir), ("generation", s.generation.toJson)]

/-- The paths where a settings file is looked for: its name may be given without the ending. -/
def filePaths (path : String) : List String := path :: (Path.withEnding? path ".toml").toList

/-- The text of a settings file. -/
def fileText? (files : FileTree) (path : String) : Option String :=
  (filePaths path).findSome? files.read?

/-- The settings of a file and of the environment. The file has to be there if one is given. -/
def load (files : FileTree) (environment : NameMap String) (path : Option String) :
    Except CommandError Settings :=
  let file := match path with
    | none => some []
    | some path => (fileText? files path).bind Setting.ofToml?
  let settings := file.bind fun layer =>
    ofSetting? (((Setting.table []).overlay layer).overlay (Setting.ofEnvironment environment))
  match settings with
  | some s => .ok s
  | none => .error .settings

end Settings

end Fixtures
