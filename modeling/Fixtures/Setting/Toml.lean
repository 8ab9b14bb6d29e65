import Fixtures.Setting.Toml.Value

/-!
# `Fixtures.Setting.Toml`: settings files

A settings file is TOML: lines with a key and a value, and headers of tables, which the lines
behind them belong to. A header in two brackets adds a table to a list.
-/

set_option autoImplicit false

namespace Fixtures.Setting.Toml

/-- What a line says. -/
inductive Statement where
  | blank
  /-- The header of a table. -/
  | header (path : List String) (key : String)
  /-- The header of one more table of a list. -/
  | listHeader (path : List String) (key : String)
  | entry (path : List String) (key : String) (value : Setting)

/-! ### Lines -/

/-- Two readings one after another, with what the first one gives. -/
def Reading.then? {α β : Type} {s : List Char} (r : Reading s α)
    (next : (t : List Char) → Option (Reading t β)) : Option (Reading s (α × β)) :=
  (next r.rest).map fun r₁ => (r₁.map fun b => (r.value, b)).widen r.rest_le

/-- The header of a table from behind its first bracket. -/
def headerAt? (s : List Char) : Option (Reading s Statement) := do
  let key ← keyAt? s
  let line ← Reading.then? (← Reading.then? key (behind? ']')) lineEndAt?
  return line.map fun _ => .header key.value.1 key.value.2

/-- The header of one more table of a list from behind its brackets. -/
def listHeaderAt? (s : List Char) : Option (Reading s Statement) := do
  let key ← keyAt? s
  let closed ← Reading.then? (← Reading.then? key (behind? ']')) (behind? ']')
  let line ← Reading.then? closed lineEndAt?
  return line.map fun _ => .listHeader key.value.1 key.value.2

/-- A value behind spaces. -/
def spacedValueAt? (s : List Char) : Option (Reading s Setting) :=
  (valueAt? maxDepth (skipSpaces s)).map (·.widen (length_skipSpaces_le s))

/-- A key and its value. -/
def entryAt? (s : List Char) : Option (Reading s Statement) := do
  let key ← keyAt? s
  let value ← Reading.then? (← Reading.then? key (behind? '=')) spacedValueAt?
  let line ← Reading.then? value lineEndAt?
  return line.map fun _ => .entry key.value.1 key.value.2 value.value.2

/-- What the next line says. A value may take several lines. -/
def statementAt? (s : List Char) : Option (Reading s Statement) :=
  match s with
  | '[' :: '[' :: rest => (listHeaderAt? rest).map (·.after.after)
  | '[' :: rest => (headerAt? rest).map (·.after)
  | s =>
    match lineEndAt? s with
    | some r => some (r.map fun _ => .blank)
    | none => entryAt? s

/-- What all lines say. Each takes characters, so that they come to an end. -/
def statements? (s : List Char) : Option (List Statement) :=
  let line := skipSpaces s
  if line.isEmpty then some []
  else
    match statementAt? line with
    | none => none
    | some r =>
      if _h : r.rest.length < s.length then (statements? r.rest).map (r.value :: ·) else none
termination_by s.length

/-! ### Documents -/

/-- A document up to some line: the tables that are finished, and the open one with its place. -/
structure Document where
  root : Table := {}
  current : Table := {}
  /-- The path and the key of the open table; the table of the document has none. -/
  place : Option (List String × String) := none
  /-- Whether the open table is one of a list. -/
  inList : Bool := false

namespace Document

/-- Puts a finished table at its key. -/
def close? (current : Table) (inList : Bool) (key : String) (parent : Table) : Option Table :=
  match parent.get? key, inList with
  | none, true => some (parent.set key (.tables [current.entries]))
  | some (.tables ts), true => some (parent.set key (.tables (ts ++ [current.entries])))
  | none, false => some (parent.set key current.toEntry)
  | _, _ => none

/-- The tables of a document when the open one is finished. -/
def finished? (d : Document) : Option Table :=
  match d.place with
  | none => some d.current
  | some (path, key) =>
    (d.root.atHeader? (fun parent => (close? d.current d.inList key parent).map (·, ())) path).map
      (·.1)

/-- Opens a table. One that is implicit keeps its entries, and no other may be opened again. -/
def opened? (key : String) (parent : Table) : Option (Table × Table) :=
  match parent.get? key with
  | none => some (parent, {})
  | some (.table true false entries) =>
    some ({ parent with entries := parent.entries.filter fun e => e.1 != key }, { entries })
  | _ => none

/-- Whether a key may stand for a list of tables. -/
def mayBeList (key : String) (parent : Table) : Bool :=
  match parent.get? key with
  | none | some (.tables _) => true
  | _ => false

/-- Adds a line to a document. -/
def add? (d : Document) : Statement → Option Document
  | .blank => some d
  | .header path key => do
    let (root, current) ← (← d.finished?).atHeader? (opened? key) path
    return { root, current, place := some (path, key), inList := false }
  | .listHeader path key => do
    let (root, _) ← (← d.finished?).atHeader?
      (fun parent => if mayBeList key parent then some (parent, ()) else none) path
    return { root, place := some (path, key), inList := true }
  | .entry path key value => do
    return { d with current := ← d.current.insert? path key value }

end Document

/-- A text without the mark that may stand before it, also twice. -/
def withoutMark (s : List Char) : List Char :=
  match s with
  | '\ufeff' :: '\ufeff' :: rest => rest
  | '\ufeff' :: rest => rest
  | s => s

end Toml

/-- Reads a settings file. -/
def ofToml? (text : String) : Option (List (String × Setting)) := do
  let statements ← Toml.statements? (Toml.withoutMark text.toList)
  let document ← statements.foldlM Toml.Document.add? {}
  return Toml.settingsOf (← document.finished?).entries

end Fixtures.Setting
