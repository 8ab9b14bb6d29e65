import Fixtures.Decimal
import Fixtures.Report.Overview

/-!
# `Fixtures.Command.Arguments`: the arguments of the command line

    generate --catalog FILE [--type NAME]… [--seed N] [--workers N] [--out DIR] [--no-header]
             [--dry-run]
    check    --catalog FILE [--type NAME]… [--seed N] [--workers N]

Both take `--config FILE`, `--output FORMAT`, `--log-level LEVEL` and `--log-json`, before or
after the word; what stands after the word wins. A value follows its option as the next argument or
behind an equals sign. The seed, the output folder and the settings file may also come from the
environment.
-/

set_option autoImplicit false

namespace Fixtures

/-- What a command is to do. -/
structure Arguments where
  /-- Whether sources are generated; otherwise they are only checked. -/
  generates : Bool
  catalog : String
  types : List String
  seed : Option UInt64
  workers : Option Nat
  /-- The folder that sources are written below. -/
  out : Option String
  noHeader : Bool
  dryRun : Bool
  /-- The settings file. -/
  config : Option String
  format : OutputFormat
deriving DecidableEq

namespace Arguments

/-! ### Words and options -/

/-- An argument of the command line with its value. -/
inductive Item where
  | word (text : String)
  | flag (name : String)
  | option (name value : String)
deriving DecidableEq

/-- The options without a value. -/
def flagNames : List String := ["log-json", "no-header", "dry-run"]

/-- The options with a value. -/
def optionNames : List String :=
  ["config", "output", "log-level", "catalog", "type", "seed", "workers", "out"]

/-- The option that a letter is short for. -/
def shortOption? : Char → Option String
  | 'c' => some "config"
  | 'o' => some "output"
  | _ => none

/-- A text without the equals sign at its front. -/
def afterEquals : List Char → List Char
  | '=' :: rest => rest
  | s => s

/-- Puts an option in front of the items that follow it. An option without a value takes the next
argument. -/
def withValue (name : String) (value : Option String) (rest : List String)
    (items : List String → Option (List Item)) : Option (List Item) :=
  match value, rest with
  | some value, rest => (items rest).map (.option name value :: ·)
  | none, value :: rest => (items rest).map (.option name value :: ·)
  | none, [] => none

/-- The items of the arguments; `fuel` bounds their number. -/
def items? : Nat → List String → Option (List Item)
  | _, [] => some []
  | _, ["--"] => some []
  | 0, _ :: _ => none
  | fuel + 1, argument :: rest =>
    match argument.toList with
    | '-' :: '-' :: body =>
      let name := String.ofList (body.takeWhile (· != '='))
      let value := body.dropWhile (· != '=')
      if flagNames.contains name && value.isEmpty then (items? fuel rest).map (.flag name :: ·)
      else if optionNames.contains name then
        withValue name (if value.isEmpty then none else some (String.ofList (value.drop 1))) rest
          (items? fuel)
      else none
    | '-' :: letter :: value =>
      match shortOption? letter with
      | some name =>
        withValue name
          (if value.isEmpty then none else some (String.ofList (afterEquals value))) rest
          (items? fuel)
      | none => none
    | _ => (items? fuel rest).map (.word argument :: ·)

/-! ### Reading -/

/-- The items of a command line: those before the command word, the word, and those after it. -/
structure Layout where
  before : List Item
  word : String
  after : List Item

/-- Finds the command word. There is just one word. -/
def layout? : List Item → Option Layout
  | [] => none
  | .word word :: rest =>
    if rest.any fun | .word _ => true | _ => false then none
    else some { before := [], word, after := rest }
  | item :: rest => (layout? rest).map fun l => { l with before := item :: l.before }

/-- Whether an item may stand before the command word. -/
def isGlobal : Item → Bool
  | .flag name => name == "log-json"
  | .option name _ => name == "config" || name == "output" || name == "log-level"
  | .word _ => false

/-- Whether an option is one of `generate` only. -/
def isForGenerate : Item → Bool
  | .flag name => name == "no-header" || name == "dry-run"
  | .option name _ => name == "out"
  | .word _ => false

/-- The values of an option. -/
def values (name : String) (items : List Item) : List String :=
  items.filterMap fun
    | .option other value => if other = name then some value else none
    | _ => none

/-- The value of an option that may be given once. -/
def single? (name : String) (items : List Item) : Option (Option String) :=
  match values name items with
  | [] => some none
  | [value] => some (some value)
  | _ => none

/-- The value of an option that may be given once on each side of the command word. -/
def Layout.global? (l : Layout) (name : String) : Option (Option String) := do
  let before ← single? name l.before
  return (← single? name l.after).or before

/-- The number of an option that may be given once. -/
def number? (value : Option String) : Option (Option Nat) :=
  match value with
  | none => some none
  | some text => (Integer.wordOfText? text).map some

/-- The name of an output format. -/
def format? : String → Option OutputFormat
  | "table" => some .table
  | "json" => some .json
  | "yaml" => some .yaml
  | _ => none

/-- Whether the command word asks to generate. -/
def generates? : String → Option Bool
  | "generate" => some true
  | "check" => some false
  | _ => none

/-- Reads the command line. -/
def ofList? (environment : NameMap String) (arguments : List String) : Option Arguments := do
  let l ← layout? (← items? arguments.length arguments)
  let generates ← generates? l.word
  if !l.before.all isGlobal || (!generates && l.after.any isForGenerate) then none
  let catalog ← (← single? "catalog" l.after)
  let seed ← number? ((← single? "seed" l.after).or (environment.get? "FIXTUREGEN_SEED"))
  let workers ← number? (← single? "workers" l.after)
  let out := (← single? "out" l.after).or (environment.get? "FIXTUREGEN_OUT")
  let config := (← l.global? "config").or (environment.get? "FIXTUREGEN_CONFIG")
  let _ ← l.global? "log-level"
  let format ← format? ((← l.global? "output").getD "table")
  return {
    generates
    catalog
    types := values "type" l.after
    seed := seed.map Nat.toUInt64
    workers
    out := if generates then out else none
    noHeader := l.after.contains (.flag "no-header")
    dryRun := l.after.contains (.flag "dry-run")
    config
    format }

end Arguments

end Fixtures
