import Fixtures.NameMap
import Fixtures.Path

/-!
# `Fixtures.FileTree`: files by path

The files and folders that a command can see. A file is known by the shortest path to its place,
so all ways to write a path mean the same file. Reading takes a path whose every place before the
end is a folder; writing makes the folders that are missing, and fails where a file is in the way.
-/

set_option autoImplicit false

namespace Fixtures

/-- Files and folders. The root, the working folder and what is above it are always there and need
not be among the folders. -/
structure FileTree where
  /-- The texts of the files by the shortest paths to them. -/
  files : NameMap String
  folders : List Place
deriving DecidableEq

namespace FileTree

/-- No files and no folders. -/
def empty : FileTree := ⟨.empty, []⟩

/-- Whether a place is a folder. -/
def isFolder (t : FileTree) (p : Place) : Bool := p.isTop || t.folders.contains p

/-- Whether a place is a file. -/
def isFile (t : FileTree) (p : Place) : Bool := t.files.contains p.toText

/-- Makes all places along a path folders. -/
def makeFolders (t : FileTree) (path : String) : FileTree :=
  { t with folders := Place.along path ++ t.folders }

/-- Puts a file where a path leads. -/
def put (t : FileTree) (path text : String) : FileTree :=
  let t := t.makeFolders path
  { t with files := t.files.insert (Place.ofPath path).toText text }

/-- The tree of a list of paths and texts. -/
def ofList (files : List (String × String)) : FileTree :=
  files.foldl (fun t file => t.put file.1 file.2) empty

/-- The text of a file. A path that only passes through a folder needs this to be there. -/
def read? (t : FileTree) (path : String) : Option String :=
  if Path.isSound path && (Place.along path).all t.isFolder then
    t.files.get? (Place.ofPath path).toText
  else none

/-- Whether a file can be at the end of a path: nothing along the path is a file, and the end is
no folder, also when those along the path are made. -/
def hasRoom (t : FileTree) (path : String) : Bool :=
  Path.isSound path && (Place.along path).all (fun p => !t.isFile p)
    && !(t.makeFolders path).isFolder (Place.ofPath path)

/-- Writes a file and makes the folders along its path. A file that is there already is replaced.
-/
def write? (t : FileTree) (path text : String) : Option FileTree :=
  if t.hasRoom path then some (t.put path text) else none

/-- The files inside the working folder, by the shortest paths to them. -/
def entries (t : FileTree) : List (String × String) :=
  t.files.entries.filter fun file => (Place.ofPath file.1).isInside

end FileTree

end Fixtures
