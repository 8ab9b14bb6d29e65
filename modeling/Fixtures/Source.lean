import Fixtures.Fixture
import Fixtures.Model
import Fixtures.Render

/-!
# `Fixtures.Source`: the source text of a fixture

A fixture is one public class with its constants first and its creation methods behind them. It
stands in the package of its type and repeats the type parameters of its type.
-/

set_option autoImplicit false

namespace Fixtures.Source

/-- The first line of a generated file. -/
def header : String := "// Generated by fixturegen. Do not edit."

/-- A text one step deeper. -/
def indented (line : String) : String := "    " ++ line

/-- The line of a constant. -/
def constantLine (c : Constant) : String :=
  indented ("public static final " ++ c.declaredType ++ " " ++ c.name ++ " = " ++ c.value ++ ";")

/-- The lines of a creation method, with an empty one before it. -/
def methodLines (m : CreationMethod) : List String :=
  ["", indented ("public static " ++ m.returnType ++ " " ++ m.name ++ "() \x7b"),
    indented (indented ("return " ++ m.body ++ ";")), indented "\x7d"]

/-- The lines before the class. -/
def preamble (package : String) (withHeader : Bool) : List String :=
  (if withHeader then [header] else [])
    ++ (if package.isEmpty then [] else ["package " ++ package ++ ";", ""])

/-- The lines of a fixture. -/
def lines (c : Catalog) (m : Model) (constants : List Constant) (methods : List CreationMethod)
    (withHeader : Bool) : List String :=
  preamble m.package withHeader
    ++ ["public class " ++ m.type.fixtureSimpleName ++ Render.typeParameters c m.description
      ++ " \x7b"]
    ++ (if constants.isEmpty then [] else "" :: constants.map constantLine)
    ++ methods.flatMap methodLines
    ++ ["\x7d"]

/-- The source text of a fixture, each line ended by a line feed. -/
def text (c : Catalog) (m : Model) (constants : List Constant) (methods : List CreationMethod)
    (withHeader : Bool) : String :=
  String.join ((lines c m constants methods withHeader).map (· ++ "\n"))

end Fixtures.Source
