import Fixtures.Pipeline
import Fixtures.Proofs.Failing

/-!
# `Fixtures.Proofs.Provider.Places`: the value of a field does not show its place

A field knows its place among all fields of its owner, and a provider gets the whole field. But no
property reads the place, and fields are compared by owner and name. So nothing changes when the
place is taken away (`ModelField.unplaced`): on an unplaced field an expression has the same value
up to places, and draws the same (`evaluate_unplaced`), a provider gives the same text, and so does
the pipeline (`Pipeline.resolve_unplaced`).
-/

set_option autoImplicit false

namespace Fixtures

/-- A field without its place. All fields get the same place, so two fields that differ in nothing
else become one. -/
def ModelField.unplaced (f : ModelField) : ModelField := { f with index := 0 }

namespace Provider

/-! ### Values -/

namespace Value

mutual

/-- A value in which all fields are without their places. There may be fields in lists, so this
goes down into them. -/
def unplaced : Value → Value
  | list items => list (allUnplaced items)
  | field f => field f.unplaced
  | null => null
  | bool b => bool b
  | int n => int n
  | text s => text s
  | type t => type t

/-- Values in which all fields are without their places. -/
def allUnplaced : List Value → List Value
  | [] => []
  | v :: vs => v.unplaced :: allUnplaced vs

end

/-- Each of the values loses its places. -/
theorem allUnplaced_eq (vs : List Value) : allUnplaced vs = vs.map unplaced := by
  induction vs with
  | nil => rfl
  | cons v vs ih => rw [allUnplaced, ih, List.map_cons]

mutual

/-- The text of a value does not show places. -/
@[simp] theorem toText_unplaced : ∀ v : Value, v.unplaced.toText = v.toText
  | list items => by rw [unplaced, toText, toText, allToText_unplaced items]
  | field f => rfl
  | null => rfl
  | bool b => rfl
  | int n => rfl
  | text s => rfl
  | type t => rfl

/-- The texts of values do not show places. -/
theorem allToText_unplaced : ∀ vs : List Value, allToText (allUnplaced vs) = allToText vs
  | [] => rfl
  | v :: vs => by rw [allUnplaced, allToText, allToText, toText_unplaced v, allToText_unplaced vs]

end

mutual

/-- Values are compared without places: two fields are the same when owner and name are. -/
@[simp] theorem same_unplaced : ∀ v w : Value, v.unplaced.same w.unplaced = v.same w
  | list vs, w => by
    cases w with
    | list ws => rw [unplaced, unplaced, same, same, allSame_unplaced vs ws]
    | _ => rfl
  | field f, w => by cases w <;> rfl
  | null, w => by cases w <;> rfl
  | bool b, w => by cases w <;> rfl
  | int n, w => by cases w <;> rfl
  | text s, w => by cases w <;> rfl
  | type t, w => by cases w <;> rfl

/-- Lists of values are compared without places. -/
theorem allSame_unplaced : ∀ vs ws : List Value,
    allSame (allUnplaced vs) (allUnplaced ws) = allSame vs ws
  | [], [] => rfl
  | [], _ :: _ => rfl
  | _ :: _, [] => rfl
  | v :: vs, w :: ws => by
    rw [allUnplaced, allUnplaced, allSame, allSame, same_unplaced v w, allSame_unplaced vs ws]

end

/-! ### Operations -/

/-- A field is no truth value, with its place or without it. -/
@[simp] theorem toBool?_unplaced (operation : String) (v : Value) :
    v.unplaced.toBool? operation = v.toBool? operation := by
  cases v <;> rfl

/-- Nor is it a position. -/
@[simp] theorem toIndex?_unplaced (operation : String) (v : Value) :
    v.unplaced.toIndex? operation = v.toIndex? operation := by
  cases v <;> rfl

/-- Nor is it a text. -/
@[simp] theorem toText?_unplaced (m : Method) (v : Value) :
    v.unplaced.toText? m = v.toText? m := by
  cases v <;> rfl

/-- A sum is a number or a text. A text may be made of a field, but its place is not in there. -/
theorem add_unplaced (v w : Value) : v.unplaced.add w.unplaced = (v.add w).map unplaced := by
  cases v with
  | int a =>
    cases w with
    | int b =>
      -- Two numbers have a sum unless it is out of range.
      simp only [unplaced, add]
      split
      · rfl
      · rfl
    | _ => rfl
  | text a =>
    show Except.ok (text (a ++ w.unplaced.toText)) = _
    rw [toText_unplaced]
    rfl
  | list items =>
    cases w with
    | text b =>
      show Except.ok (text ((list items).unplaced.toText ++ b)) = _
      rw [toText_unplaced]
      rfl
    | _ => rfl
  | _ => cases w <;> rfl

/-- An item is the same item without places. -/
theorem item_unplaced (items : List Value) (position : Value) :
    item (items.map unplaced) position.unplaced = (item items position).map unplaced := by
  unfold item
  rw [toIndex?_unplaced, List.length_map]
  cases position.toIndex? "[]" with
  | error err => rfl
  | ok i =>
    simp only [bind, Except.bind, List.getElem?_map]
    cases items[i]? with
    | none => rfl
    | some v => rfl

/-- Only a list has items. Taking places away from the list and from the item comes to the same. -/
theorem index_unplaced (v position : Value) :
    v.unplaced.index position.unplaced = (v.index position).map unplaced := by
  cases v with
  | list items =>
    show item (allUnplaced items) position.unplaced = (item items position).map unplaced
    rw [allUnplaced_eq, item_unplaced]
  | _ => rfl

/-- No property of a field is its place. What they give is a text, a truth value or a type, and
these have no places. -/
theorem property_unplaced (v : Value) (p : Property) :
    v.unplaced.property p = (v.property p).map unplaced := by
  cases v with
  | field f =>
    cases p with
    -- The name may have no constant name; that fault has no places either.
    | constantName =>
      show ((Naming.constantName? f.name).mapError EvalFault.identifier).map text
        = (((Naming.constantName? f.name).mapError EvalFault.identifier).map text).map unplaced
      cases Naming.constantName? f.name with
      | error err => rfl
      | ok name => rfl
    | _ => rfl
  | type t =>
    cases p with
    | typeArguments =>
      show Except.ok (list (t.parameters.map fun p => type p.2))
        = Except.ok (list (allUnplaced (t.parameters.map fun p => type p.2)))
      rw [allUnplaced_eq, List.map_map]
      rfl
    | enumConstants =>
      show Except.ok (list (t.enumConstants.map text))
        = Except.ok (list (allUnplaced (t.enumConstants.map text)))
      rw [allUnplaced_eq, List.map_map]
      rfl
    | _ => rfl
  | _ => rfl

/-- An argument is read off a value as a text, so it does not show places. -/
theorem argument_unplaced (m : Method) (arguments : List Value) (i : Nat) :
    argument m (arguments.map unplaced) i = argument m arguments i := by
  unfold argument
  rw [List.getElem?_map]
  cases arguments[i]? with
  | none => rfl
  | some v => exact toText?_unplaced m v

/-- A text or a number that is made of something is without places. Most methods of texts end so.
-/
theorem map_unplaced_bind {α : Type} (x : Except EvalFault α) {g : α → Value}
    (hg : ∀ a, (g a).unplaced = g a) :
    (x >>= fun a => pure (g a)) = (x >>= fun a => pure (g a)).map unplaced := by
  cases x with
  | error err => rfl
  | ok a => exact congrArg Except.ok (hg a).symm

/-- A part of a text is a text, and positions are numbers. -/
theorem substring_unplaced (s : String) (arguments : List Value) :
    substring s (arguments.map unplaced) = (substring s arguments).map unplaced := by
  -- With one argument the part goes to the end, with more the second one is its end.
  match arguments with
  | [] => rfl
  | [v] =>
    simp only [substring, List.map_cons, List.map_nil, toIndex?_unplaced]
    cases v.toIndex? Method.substring.word with
    | error err => rfl
    | ok first =>
      simp only [bind, Except.bind, pure, Except.pure]
      split
      · rfl
      · rfl
  | v :: w :: rest =>
    simp only [substring, List.map_cons, toIndex?_unplaced]
    cases v.toIndex? Method.substring.word with
    | error err => rfl
    | ok first =>
      cases w.toIndex? Method.substring.word with
      | error err => rfl
      | ok last =>
        simp only [bind, Except.bind]
        split
        · rfl
        · rfl

/-- What a method makes of a text has no places, and none are read off its arguments. -/
theorem textMethod_unplaced (s : String) (m : Method) (arguments : List Value) :
    textMethod s m (arguments.map unplaced) = (textMethod s m arguments).map unplaced := by
  cases m with
  | contains | startsWith | endsWith | concat =>
    simp only [textMethod, argument_unplaced]
    exact map_unplaced_bind _ fun _ => rfl
  | replace =>
    simp only [textMethod, argument_unplaced]
    cases argument Method.replace arguments 0 with
    | error err => rfl
    | ok old => exact map_unplaced_bind _ fun _ => rfl
  | substring => exact substring_unplaced s arguments
  | _ => rfl

/-- Items of an unplaced list are unplaced items, and it has as many of them. -/
theorem listMethod_unplaced (items : List Value) (m : Method) (arguments : List Value) :
    listMethod (items.map unplaced) m (arguments.map unplaced)
      = (listMethod items m arguments).map unplaced := by
  cases m with
  | size => simp [listMethod, Except.map, unplaced, ofCount]
  | isEmpty => simp [listMethod, Except.map, unplaced]
  | first =>
    cases items with
    | nil => rfl
    | cons v rest => rfl
  | get =>
    cases arguments with
    | nil => rfl
    | cons position rest => exact item_unplaced items position
  | _ => rfl

/-- No method is called on a field. So the receiver is a text, or a list that may hold fields. -/
theorem call_unplaced (v : Value) (m : Method) (arguments : List Value) :
    v.unplaced.call m (arguments.map unplaced) = (v.call m arguments).map unplaced := by
  cases v with
  | text s => exact textMethod_unplaced s m arguments
  | list items =>
    show listMethod (allUnplaced items) m (arguments.map unplaced) = _
    rw [allUnplaced_eq]
    exact listMethod_unplaced items m arguments
  | _ => rfl

/-- What a value provides does not show places. -/
theorem provided?_unplaced (v : Value) : v.unplaced.provided? = v.provided? := by
  have htext := toText_unplaced v
  cases v with
  | null => rfl
  | list items =>
    show (if Text.isBlankText (list items).unplaced.toText then none
      else some (list items).unplaced.toText) = _
    rw [htext]
    rfl
  | _ => rfl

end Value

/-! ### Expressions -/

/-- The scope of an unplaced field. -/
def Scope.unplaced (scope : Scope) : Scope := { scope with field := scope.field.unplaced }

/-- In the scope of an unplaced field the inputs are unplaced. -/
theorem input_unplaced (scope : Scope) (which : Input) :
    scope.unplaced.input which = (scope.input which).unplaced := by
  cases which <;> rfl

/-- The built-ins look at the texts of their arguments only. -/
theorem callBuiltin_unplaced (function : Builtin) (arguments : List Value) :
    callBuiltin function (arguments.map Value.unplaced)
      = Value.unplaced <$> callBuiltin function arguments := by
  cases function with
  | uuid => simp only [callBuiltin, map_bind, map_pure, Value.unplaced]
  | quote | str =>
    cases arguments with
    | nil => rfl
    | cons v rest =>
      simp only [callBuiltin, List.map_cons, map_pure, Value.toText_unplaced, Value.unplaced]
  | constantName =>
    cases arguments with
    | nil => rfl
    | cons v rest =>
      simp only [callBuiltin, List.map_cons, Value.toText_unplaced]
      cases Naming.constantName? v.toText with
      | error err => rfl
      | ok name => rfl

mutual

/-- On an unplaced field an expression has the same value without places, and draws the same. The
equation is between computations, so it covers faults, and the values and the sources they leave,
at once. -/
theorem evaluate_unplaced (scope : Scope) :
    ∀ e : Expr, evaluate scope.unplaced e = Value.unplaced <$> evaluate scope e
  | .text s => by rw [evaluate, evaluate, map_pure]; rfl
  | .int n => by rw [evaluate, evaluate, map_pure]; rfl
  | .bool b => by rw [evaluate, evaluate, map_pure]; rfl
  | .null => by rw [evaluate, evaluate, map_pure]; rfl
  | .input which => by rw [evaluate, evaluate, map_pure, input_unplaced]
  | .call function arguments => by
    rw [evaluate, evaluate, evaluateAll_unplaced scope arguments, map_bind, bind_map_left]
    simp only [callBuiltin_unplaced]
  | .property target p => by
    rw [evaluate, evaluate, evaluate_unplaced scope target, map_bind, bind_map_left]
    simp only [Value.property_unplaced, liftExcept_map]
  | .method target m arguments => by
    rw [evaluate, evaluate, evaluate_unplaced scope target, map_bind, bind_map_left]
    simp only [evaluateAll_unplaced scope arguments, map_bind, bind_map_left, Value.call_unplaced,
      liftExcept_map]
  | .index target position => by
    rw [evaluate, evaluate, evaluate_unplaced scope target, map_bind, bind_map_left]
    simp only [evaluate_unplaced scope position, map_bind, bind_map_left, Value.index_unplaced,
      liftExcept_map]
  | .not operand => by
    rw [evaluate, evaluate, evaluate_unplaced scope operand, map_bind, bind_map_left]
    simp only [Value.toBool?_unplaced, map_bind, map_pure, Value.unplaced]
  | .binary .and left right => by
    rw [evaluate, evaluate, evaluate_unplaced scope left, map_bind, bind_map_left]
    simp only [Value.toBool?_unplaced, evaluate_unplaced scope right, map_bind, bind_map_left]
    refine bind_congr fun l => bind_congr fun b => ?_
    -- The right operand is evaluated only where the left one leaves it open.
    split
    · simp only [map_bind, map_pure, Value.unplaced]
    · rfl
  | .binary .or left right => by
    rw [evaluate, evaluate, evaluate_unplaced scope left, map_bind, bind_map_left]
    simp only [Value.toBool?_unplaced, evaluate_unplaced scope right, map_bind, bind_map_left]
    refine bind_congr fun l => bind_congr fun b => ?_
    split
    · rfl
    · simp only [map_bind, map_pure, Value.unplaced]
  | .binary .equal left right => by
    rw [evaluate, evaluate, evaluate_unplaced scope left, map_bind, bind_map_left]
    simp only [evaluate_unplaced scope right, map_bind, bind_map_left, map_pure,
      Value.same_unplaced, Value.unplaced]
  | .binary .notEqual left right => by
    rw [evaluate, evaluate, evaluate_unplaced scope left, map_bind, bind_map_left]
    simp only [evaluate_unplaced scope right, map_bind, bind_map_left, map_pure,
      Value.same_unplaced, Value.unplaced]
  | .binary .add left right => by
    rw [evaluate, evaluate, evaluate_unplaced scope left, map_bind, bind_map_left]
    simp only [evaluate_unplaced scope right, map_bind, bind_map_left, Value.add_unplaced,
      liftExcept_map]
  -- Only one of the branches is evaluated, and both are unplaced alike.
  | .conditional condition yes no => by
    rw [evaluate, evaluate, evaluate_unplaced scope condition, map_bind, bind_map_left]
    simp only [Value.toBool?_unplaced, map_bind]
    refine bind_congr fun v => bind_congr fun b => ?_
    split
    · exact evaluate_unplaced scope yes
    · exact evaluate_unplaced scope no

/-- On an unplaced field expressions have the same values without places, and draw the same. -/
theorem evaluateAll_unplaced (scope : Scope) : ∀ es : List Expr,
    evaluateAll scope.unplaced es = List.map Value.unplaced <$> evaluateAll scope es
  | [] => by rw [evaluateAll, evaluateAll, map_pure]; rfl
  | e :: es => by
    rw [evaluateAll, evaluateAll, evaluate_unplaced scope e, map_bind, bind_map_left]
    simp only [evaluateAll_unplaced scope es, map_bind, bind_map_left, map_pure, List.map_cons]

end

/-- A provider gives the same text for an unplaced field, because texts have no places. -/
theorem provide_unplaced (p : Provider) (scope : Scope) :
    p.provide scope.unplaced = p.provide scope := by
  unfold provide
  rw [evaluate_unplaced, bind_map_left]
  simp only [Value.provided?_unplaced]

end Provider

namespace Pipeline

/-- The providers give the same text for an unplaced field. -/
theorem custom_unplaced (p : Pipeline) (f : ModelField) : p.custom f.unplaced = p.custom f := by
  have hconsult : ∀ key, p.consult f.unplaced key = p.consult f key := by
    intro key
    unfold consult
    split
    · rfl
    · next provider _ =>
      have hprovide := provider.provide_unplaced ⟨f, p.owner⟩
      unfold Provider.Scope.unplaced at hprovide
      rw [hprovide]
  unfold custom
  rw [hconsult, hconsult]
  rfl

/-- The pipeline gives the same text for an unplaced field. So the order of the fields of a type
has no part in the text for one of them. -/
theorem resolve_unplaced (p : Pipeline) (f : ModelField) : p.resolve f.unplaced = p.resolve f := by
  unfold resolve
  rw [custom_unplaced]
  rfl

end Pipeline

end Fixtures
