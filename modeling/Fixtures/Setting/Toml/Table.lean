import Fixtures.Setting

/-!
# `Fixtures.Setting.Toml.Table`: how the tables of a settings file grow

A table comes to be in one of several ways, and what may be added to it later depends on that. One
that only lies on the path of a header is implicit and can have a header of its own later. One
that lies on the path of a dotted key is implicit too, can be added to by other dotted keys, but
has no header of its own. One that has a header or is written in braces is finished when it ends.
-/

set_option autoImplicit false

namespace Fixtures.Setting.Toml

/-- What stands under a key. -/
inductive Entry where
  | value (setting : Setting)
  | table (isImplicit isDotted : Bool) (entries : List (String × Entry))
  /-- Tables under one header, one for each time that it occurs. -/
  | tables (tables : List (List (String × Entry)))

/-- A table. -/
structure Table where
  /-- Whether it only lies on a path so far. -/
  isImplicit : Bool := false
  /-- Whether that path is one of a dotted key. -/
  isDotted : Bool := false
  entries : List (String × Entry) := []

namespace Table

/-- What stands under a key. -/
def get? (t : Table) (key : String) : Option Entry := t.entries.lookup key

/-- Puts something under a key, in place of what stands there. -/
def set (t : Table) (key : String) (entry : Entry) : Table :=
  { t with entries := t.entries.filter (fun e => e.1 != key) ++ [(key, entry)] }

/-- A table as an entry. -/
def toEntry (t : Table) : Entry := .table t.isImplicit t.isDotted t.entries

variable {α : Type}

/-- Changes the table at a path, which may be one of a dotted key. Tables on the path that are not
there come to be; of tables under one header the last one is meant. A dotted key does not lead into
a finished table. -/
def atPath? (byDots : Bool) (change : Table → Option (Table × α)) :
    List String → Table → Option (Table × α)
  | [], t => change t
  | key :: path, t =>
    match t.get? key with
    | none =>
      (atPath? byDots change path { isImplicit := true, isDotted := byDots }).map fun r =>
        (t.set key r.1.toEntry, r.2)
    | some (.table isImplicit isDotted entries) =>
      if byDots && !isImplicit then none
      else
        (atPath? byDots change path { isImplicit, isDotted, entries }).map fun r =>
          (t.set key r.1.toEntry, r.2)
    | some (.tables ts) =>
      ts.getLast?.bind fun entries =>
        (atPath? byDots change path { entries }).map fun r =>
          (t.set key (.tables (ts.dropLast ++ [r.1.entries])), r.2)
    | some (.value _) => none

/-- Changes the table at the path of a header. -/
def atHeader? (change : Table → Option (Table × α)) (path : List String) (t : Table) :
    Option (Table × α) :=
  t.atPath? false change path

/-- Adds a value under a dotted key. Only a table that is on the path of a dotted key itself is
added to from outside, and no value takes the place of another. -/
def insert? (path : List String) (key : String) (value : Setting) (t : Table) : Option Table :=
  (t.atPath? true (fun inner =>
    if inner.isDotted = path.isEmpty ∨ (inner.get? key).isSome then none
    else some (inner.set key (.value value), ())) path).map (·.1)

end Table

/-! ### As settings -/

mutual

/-- What stands under a key as a setting. -/
def Entry.toSetting : Entry → Setting
  | .value setting => setting
  | .table _ _ entries => .table (settingsOf entries)
  | .tables ts => .list (tableSettings ts)

/-- Entries as those of a setting. -/
def settingsOf : List (String × Entry) → List (String × Setting)
  | [] => []
  | (key, entry) :: rest => (key, entry.toSetting) :: settingsOf rest

/-- Tables as settings. -/
def tableSettings : List (List (String × Entry)) → List Setting
  | [] => []
  | entries :: rest => .table (settingsOf entries) :: tableSettings rest

end

end Fixtures.Setting.Toml
