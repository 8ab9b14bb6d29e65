import Fixtures.Description
import Fixtures.Document
import Fixtures.TypeRef.Parser

/-!
# `Fixtures.Description.Reading`: reading descriptions and requests

Descriptions are records with camel-case keys, whatever their format. Types are written as texts.
What has a default may be missing. A creator is told by its `kind`; as a list the kind comes
first.
-/

set_option autoImplicit false

namespace Fixtures

open Document

variable {ν : Type} [Document ν]

/-- A type from its text. -/
def TypeRef.read? (v : ν) : Option TypeRef :=
  (text? v).bind fun s => (TypeRef.parse s).toOption

def TypeKind.ofWord? : String → Option TypeKind
  | "class" => some .classKind
  | "enum" => some .enumKind
  | _ => none

def TypeParameter.read? (v : ν) : Option TypeParameter := do
  let r ← record? ["name", "bound"] v
  let name ← r.required "name" text?
  let bound ← optional r "bound" TypeRef.read?
  return { name, bound }

def ConstantDirective.read? (v : ν) : Option ConstantDirective := do
  let r ← record? ["name", "value", "reference"] v
  let name ← r.required "name" text?
  let value ← optional r "value" text?
  let reference ← optional r "reference" text?
  return { name, value, reference }

def FieldDescription.read? (v : ν) : Option FieldDescription := do
  let r ← record? ["name", "type", "static", "transient", "constants"] v
  let name ← r.required "name" text?
  let type ← r.required "type" TypeRef.read?
  let isStatic ← r.withDefault "static" truth? false
  let isTransient ← r.withDefault "transient" truth? false
  let constants ← r.withDefault "constants" (list? ConstantDirective.read?) []
  return { name, type, isStatic, isTransient, constants }

def CreatorKind.ofWord? : String → Option CreatorKind
  | "constructor" => some .constructor
  | "builder" => some .builder
  | _ => none

/-- What a creator of a kind holds beside its kind. -/
def Creator.ofContent? : CreatorKind → Content → Option Creator
  | .constructor, c => do
    let r ← record? ["parameters", "name"] c
    let parameters ← r.withDefault "parameters" (list? text?) []
    let name ← optional r "name" text?
    return .constructor parameters name
  | .builder, c => do
    let r ← record? ["setters", "builderMethod", "buildMethod", "setterPrefix", "name"] c
    let setters ← r.withDefault "setters" (list? text?) []
    let builderMethod ← r.withDefault "builderMethod" text? "builder"
    let buildMethod ← r.withDefault "buildMethod" text? "build"
    let setterPrefix ← optional r "setterPrefix" text?
    let name ← optional r "name" text?
    return .builder setters builderMethod buildMethod setterPrefix name

def Creator.read? (v : ν) : Option Creator := do
  let (word, rest) ← tagged? "kind" v
  Creator.ofContent? (← CreatorKind.ofWord? word) rest

def TypeDescription.read? (v : ν) : Option TypeDescription := do
  let r ← record? ["package", "name", "kind", "typeParameters", "fields", "enumConstants",
    "fixture", "providers", "creators"] v
  let package ← r.withDefault "package" text? ""
  let name ← r.required "name" text?
  let kind ← r.withDefault "kind" (choice? TypeKind.ofWord?) .classKind
  let typeParameters ← r.withDefault "typeParameters" (list? TypeParameter.read?) []
  let fields ← r.withDefault "fields" (list? FieldDescription.read?) []
  let enumConstants ← r.withDefault "enumConstants" (list? text?) []
  let fixture ← r.withDefault "fixture" truth? false
  let providers ← r.withDefault "providers" texts? .empty
  let creators ← r.withDefault "creators" (list? Creator.read?) []
  return { package, name, kind, typeParameters, fields, enumConstants, fixture, providers,
           creators }

def Request.read? (v : ν) : Option Request := do
  let r ← record? ["typeName", "typeArguments"] v
  let typeName ← r.required "typeName" text?
  let typeArguments ← optional r "typeArguments" (list? TypeRef.read?)
  return { typeName, typeArguments }

end Fixtures
