import Fixtures.Description.Json
import Fixtures.Fixture

/-!
# `Fixtures.Fixture.Json`: fixtures in JSON

Fixtures and their parts are records with camel-case keys, all of them required. The place of a
constant in its type is a pair: the index of the field, then that of the directive.
-/

set_option autoImplicit false

namespace Fixtures

open Document

/-- A pair of indices. -/
def Json.indices? : Json → Option (Nat × Nat)
  | .arr [first, second] => do return (← first.word?, ← second.word?)
  | _ => none

def Constant.ofJson? (j : Json) : Option Constant := do
  let r ← record? ["name", "declaredType", "value", "sourceOrder", "fieldName"] j
  let name ← r.required "name" text?
  let declaredType ← r.required "declaredType" text?
  let value ← r.required "value" text?
  let (fieldIndex, directiveIndex) ← r.required "sourceOrder" Json.indices?
  let fieldName ← r.required "fieldName" text?
  return { name, declaredType, value, fieldIndex, directiveIndex, fieldName }

def Constant.toJson (c : Constant) : Json :=
  .obj [("name", .str c.name), ("declaredType", .str c.declaredType), ("value", .str c.value),
    ("sourceOrder", .arr [.int c.fieldIndex, .int c.directiveIndex]),
    ("fieldName", .str c.fieldName)]

def CreationMethod.ofJson? (j : Json) : Option CreationMethod := do
  let r ← record? ["methodName", "returnType", "body", "sourceKind"] j
  let name ← r.required "methodName" text?
  let returnType ← r.required "returnType" text?
  let body ← r.required "body" text?
  let kind ← r.required "sourceKind" (choice? CreatorKind.ofWord?)
  return { name, returnType, body, kind }

def CreationMethod.toJson (m : CreationMethod) : Json :=
  .obj [("methodName", .str m.name), ("returnType", .str m.returnType), ("body", .str m.body),
    ("sourceKind", .str m.kind.word)]

def Fixture.ofJson? (j : Json) : Option Fixture := do
  let r ← record? ["typeName", "fixtureName", "relativePath", "constants", "methods", "source"] j
  let typeName ← r.required "typeName" text?
  let fixtureName ← r.required "fixtureName" text?
  let path ← r.required "relativePath" text?
  let constants ← r.required "constants" (list? Constant.ofJson?)
  let methods ← r.required "methods" (list? CreationMethod.ofJson?)
  let source ← r.required "source" text?
  return { typeName, fixtureName, path, constants, methods, source }

def Fixture.toJson (f : Fixture) : Json :=
  .obj [("typeName", .str f.typeName), ("fixtureName", .str f.fixtureName),
    ("relativePath", .str f.path), ("constants", .arr (f.constants.map Constant.toJson)),
    ("methods", .arr (f.methods.map CreationMethod.toJson)), ("source", .str f.source)]

def Summary.ofJson? (j : Json) : Option Summary := do
  let r ← record? ["typeName", "fixtureName", "constants", "defaultMethod"] j
  let typeName ← r.required "typeName" text?
  let fixtureName ← r.required "fixtureName" text?
  let constants ← r.required "constants" (list? text?)
  let defaultMethod ← r.required "defaultMethod" text?
  return { typeName, fixtureName, constants, defaultMethod }

def Summary.toJson (s : Summary) : Json :=
  .obj [("typeName", .str s.typeName), ("fixtureName", .str s.fixtureName),
    ("constants", Json.ofStrings s.constants), ("defaultMethod", .str s.defaultMethod)]

end Fixtures
