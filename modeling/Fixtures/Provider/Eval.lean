import Fixtures.Provider.Basic
import Fixtures.Provider.Value
import Fixtures.Uuid.Source

/-!
# `Fixtures.Provider.Eval`: evaluating providers

Operands are evaluated from left to right; `&&`, `||` and `?:` leave out what they do not need.
Only the built-in `uuid` draws from the UUID source, one UUID a call, and what was drawn before
a failure stays drawn. A provider that yields `null` or a blank text declines.
-/

set_option autoImplicit false

namespace Fixtures.Provider

/-- The field and the type that a provider is evaluated for. Nothing else can be seen from a
provider. -/
structure Scope where
  field : ModelField
  owner : TypeMetadata

/-- A computation of an evaluation. -/
abbrev Eval := Drawing EvalFault

/-- The value of an input. -/
def Scope.input (scope : Scope) : Input → Value
  | .field => .field scope.field
  | .type => .type scope.owner

/-- The value of a built-in. Its arguments are counted when it is read, so the last case does not
come up for a provider that was compiled. -/
def callBuiltin (function : Builtin) (arguments : List Value) : Eval Value :=
  match function, arguments with
  | .uuid, _ => do return .text (← drawUuid).toText
  | .quote, v :: _ => return .text (Text.Literal.encode v.toText)
  | .str, v :: _ => return .text v.toText
  | .constantName, v :: _ =>
    liftExcept (((Naming.constantName? v.toText).mapError .identifier).map .text)
  | function, [] => throw (.missingArgument function.name)

mutual

/-- The value of an expression. Operands come before the operation, so what they draw is drawn even
if the operation fails. -/
def evaluate (scope : Scope) : Expr → Eval Value
  | .text s => return .text s
  | .int n => return .int n
  | .bool b => return .bool b
  | .null => return .null
  | .input which => return scope.input which
  | .call function arguments => do
    let values ← evaluateAll scope arguments
    callBuiltin function values
  | .property target p => do
    let v ← evaluate scope target
    liftExcept (v.property p)
  | .method target method arguments => do
    let v ← evaluate scope target
    let values ← evaluateAll scope arguments
    liftExcept (v.call method values)
  | .index target position => do
    let v ← evaluate scope target
    let i ← evaluate scope position
    liftExcept (v.index i)
  | .not operand => do
    let v ← evaluate scope operand
    return .bool !(← liftExcept (v.toBool? "!"))
  | .binary .and left right => do
    let l ← evaluate scope left
    if ← liftExcept (l.toBool? "&&") then
      let r ← evaluate scope right
      return .bool (← liftExcept (r.toBool? "&&"))
    else
      return .bool false
  | .binary .or left right => do
    let l ← evaluate scope left
    if ← liftExcept (l.toBool? "||") then
      return .bool true
    else
      let r ← evaluate scope right
      return .bool (← liftExcept (r.toBool? "||"))
  | .binary .equal left right => do
    let l ← evaluate scope left
    let r ← evaluate scope right
    return .bool (l.same r)
  | .binary .notEqual left right => do
    let l ← evaluate scope left
    let r ← evaluate scope right
    return .bool !(l.same r)
  | .binary .add left right => do
    let l ← evaluate scope left
    let r ← evaluate scope right
    liftExcept (l.add r)
  | .conditional condition yes no => do
    let v ← evaluate scope condition
    if ← liftExcept (v.toBool? "?:") then evaluate scope yes else evaluate scope no

/-- The values of expressions in order, up to the first that fails. -/
def evaluateAll (scope : Scope) : List Expr → Eval (List Value)
  | [] => return []
  | e :: es => do
    let v ← evaluate scope e
    let vs ← evaluateAll scope es
    return v :: vs

end

/-- The text that a value provides; `null` and blank texts provide none. All other values provide
their text, whatever their kind is. -/
def Value.provided? : Value → Option String
  | .null => none
  | v => if Text.isBlankText v.toText then none else some v.toText

end Provider

/-- The text that a provider gives, or nothing when it declines. -/
def Provider.provide (p : Provider) (scope : Provider.Scope) : Provider.Eval (Option String) := do
  let v ← Provider.evaluate scope p.body
  return v.provided?

end Fixtures
