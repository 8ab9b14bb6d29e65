/-!
# `Fixtures.Path`: paths

A path is a text with slashes between its steps. `Place.ofPath` follows the steps to the place
they lead to; `Place.along` are the places before each step, which all have to be folders for the
path to lead anywhere. So `a/../b` and `b` are the same place, but only the first needs a folder
`a`, and a slash behind a file leads nowhere.
-/

set_option autoImplicit false

namespace Fixtures

/-! ### The text of a path -/

namespace Path

/-- The parts of a text between slashes. -/
def cut : List Char → List (List Char)
  | [] => [[]]
  | c :: rest =>
    if c = '/' then [] :: cut rest
    else
      match cut rest with
      | [] => [[c]]
      | step :: steps => (c :: step) :: steps

/-- The steps of a path. Two slashes have an empty step between them. -/
def steps (path : String) : List String := (cut path.toList).map String.ofList

/-- Whether a step stays where it is. -/
def isIdle (step : String) : Bool := step == "" || step == "."

/-- Whether a path starts at the root. -/
def isAbsolute (path : String) : Bool := path.toList.head? == some '/'

/-- A path below a folder. A path that starts at the root stays what it is. -/
def join (folder path : String) : String :=
  if folder.isEmpty || isAbsolute path then path else folder ++ "/" ++ path

/-- The part of a file name behind its last dot, if the name does not start with that dot. -/
def extension? (path : String) : Option String :=
  match ((steps path).filter fun step => !isIdle step).getLast? with
  | none => none
  | some name =>
    let reversed := name.toList.reverse
    let ending := reversed.takeWhile (· != '.')
    match reversed.dropWhile (· != '.') with
    | [] => none
    | [_] => none
    | _ => if name = ".." then none else some (String.ofList ending.reverse)

/-- A path with a text behind the name of the file. What follows the name is dropped; a path that
ends with a step back has no name. -/
def withEnding? (path ending : String) : Option String :=
  match (steps path).reverse.dropWhile isIdle with
  | [] => none
  | name :: before =>
    if name = ".." then none
    else some ("/".intercalate ((name ++ ending) :: before).reverse)

/-- The most bytes of a step. -/
def maxStep : Nat := 255

/-- The most bytes of a path. -/
def maxLength : Nat := 4095

/-- Whether a path is one that a disk can take: not too long, and without the character that ends
a text. -/
def isSound (path : String) : Bool :=
  path.utf8ByteSize ≤ maxLength && path.toList.all (· != '\x00')
    && (steps path).all fun step => step.utf8ByteSize ≤ maxStep

end Path

/-! ### Places -/

/-- A place among files and folders: the names that lead to it from the root or from the working
folder. Only in front may there be steps back, which lead out of the working folder. -/
structure Place where
  isAbsolute : Bool
  /-- The names, the last first. -/
  names : List String
deriving DecidableEq

namespace Place

/-- The place where a path starts. -/
def start (path : String) : Place := ⟨Path.isAbsolute path, []⟩

/-- Takes a step back. There is none at the root. -/
def back (p : Place) : Place :=
  match p.names with
  | [] => if p.isAbsolute then p else { p with names := [".."] }
  | last :: before => { p with names := if last = ".." then ".." :: p.names else before }

/-- Takes a step. -/
def step (p : Place) (step : String) : Place :=
  if Path.isIdle step then p
  else if step = ".." then p.back
  else { p with names := step :: p.names }

/-- The place that a path leads to. It is found by the path alone, whether or not there is
anything. -/
def ofPath (path : String) : Place := (Path.steps path).foldl step (start path)

/-- The places before each of some steps. -/
def before (p : Place) : List String → List Place
  | [] => []
  | s :: steps => p :: before (p.step s) steps

/-- The places before each step of a path. A step that stays has one too, so a slash behind a file
asks for a folder in its place. -/
def along (path : String) : List Place := (start path).before (Path.steps path)

/-- Whether a place is the root, the working folder, or above it. -/
def isTop (p : Place) : Bool := p.names.all (· == "..")

/-- Whether a place is inside the working folder. -/
def isInside (p : Place) : Bool := !p.isAbsolute && p.names.getLast? != some ".."

/-- The shortest path to a place. -/
def toText (p : Place) : String :=
  (if p.isAbsolute then "/" else "") ++ "/".intercalate p.names.reverse

end Place

end Fixtures
