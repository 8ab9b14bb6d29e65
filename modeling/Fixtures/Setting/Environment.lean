import Fixtures.Setting
import Fixtures.Text.Search

/-!
# `Fixtures.Setting.Environment`: settings from environment variables

A variable whose name starts with `FIXTUREGEN_` gives a setting. The rest of its name, in lower
case, is the key; two underscores lead into a table. The value is a truth value, an integer or a
number if it reads as one, and else a text.

    FIXTUREGEN_OUT_DIR=src                  out_dir = "src"
    FIXTUREGEN_GENERATION__UUID_SEED=7      generation.uuid_seed = 7
-/

set_option autoImplicit false

namespace Fixtures.Setting

open Text

/-- How the names of all variables of settings start, in lower case. -/
def variableStart : String := "fixturegen_"

/-- The key that a variable gives a value to, if its name is one of a setting. -/
def variableKey? (name : String) : Option String :=
  let lower := (LetterCase.lowerText name).toList
  if variableStart.toList.isPrefixOf lower then
    some (String.ofList (replaceAll ['_', '_'] ['.'] (lower.drop variableStart.length)))
  else
    none

/-- The setting that a value means. -/
def ofVariable (value : String) : Setting :=
  match LetterCase.lowerText value with
  | "true" => bool true
  | "false" => bool false
  | _ =>
    match Integer.ofText? value with
    | some n => int n
    | none =>
      match Double.ofText? value with
      | some x => real x
      | none => text value

/-- The settings of the environment by their keys. -/
def ofEnvironment (environment : NameMap String) : List (String × Setting) :=
  environment.entries.filterMap fun e => (variableKey? e.1).map (·, ofVariable e.2)

end Fixtures.Setting
