import Fixtures.Proofs.Failing
import Fixtures.Proofs.Provider.Text
import Fixtures.Provider.Eval

/-!
# `Fixtures.Proofs.Provider.Supplied`: no evaluation misses an argument

The parser counts the arguments of a call by the name alone: by `Builtin.arity`, and for methods by
`Method.arities`, before anything is known of the receiver. The evaluator has no such tables. It
looks at the kind of the receiver first, then takes the arguments it needs one by one, and has a
fault ready for each that is not there (`EvalFault.isMissing`).

Here the tables are shown to be enough. A built-in or a method with a number of arguments from its
table finds each argument it looks for, whatever the arguments and the receiver are
(`supplied_callBuiltin`, `Value.supplied_call`). The evaluation of arguments gives as many values as
there are expressions (`length_evaluateAll`), so a well-formed expression never has such a fault
(`Expr.IsWellFormed.supplied_evaluate`); and what the compiler returns is well formed.
-/

set_option autoImplicit false

namespace Fixtures.Provider

variable {α β : Type}

/-- Whether an argument was not there, of a built-in or of a method. -/
def EvalFault.isMissing : EvalFault → Bool
  | .missingArgument _ | .missingMethodArgument _ | .missingIndex _ => true
  | _ => false

/-- If there is a fault, it is not that of a missing argument. All other faults may come: they tell
of the values, and the parser knows no values. -/
abbrev Supplied (x : Except EvalFault α) : Prop :=
  FailsWith (fun fault => fault.isMissing = false) x

/-- A name without a constant name is no missing argument. Both the property `constantName` and the
built-in of this name end so. -/
theorem supplied_identifier (x : Except IdentifierFault α) (g : α → β) :
    Supplied ((x.mapError EvalFault.identifier).map g) := by
  have h : Supplied (x.mapError EvalFault.identifier) := .mapError fun fault => rfl
  exact h.map g

/-! ### Operands and operators -/

namespace Value

theorem supplied_toBool? (operation : String) (v : Value) : Supplied (v.toBool? operation) := by
  cases v with
  | bool b => exact .ok b
  | _ => exact .error rfl

theorem supplied_toIndex? (operation : String) (v : Value) : Supplied (v.toIndex? operation) := by
  cases v with
  | int n =>
    show Supplied (if n < 0 then _ else _)
    split
    · exact .error rfl
    · exact .ok _
  | _ => exact .error rfl

theorem supplied_toText? (m : Method) (v : Value) : Supplied (v.toText? m) := by
  cases v with
  | text s => exact .ok s
  | _ => exact .error rfl

theorem supplied_add (l r : Value) : Supplied (l.add r) := by
  unfold add
  split
  · split
    · exact .ok _
    · exact .error rfl
  · exact .ok _
  · exact .ok _
  · exact .error rfl

theorem supplied_item (items : List Value) (position : Value) : Supplied (item items position) := by
  refine (supplied_toIndex? "[]" position).bind fun i => ?_
  cases items[i]? with
  | none => exact .error rfl
  | some v => exact .ok v

theorem supplied_index (target position : Value) : Supplied (target.index position) := by
  cases target with
  | list items => exact supplied_item items position
  | _ => exact .error rfl

theorem supplied_property (target : Value) (p : Property) : Supplied (target.property p) := by
  cases target with
  | field f =>
    show Supplied (fieldProperty f p)
    cases p with
    -- The name of the field need not have a constant name.
    | constantName => exact supplied_identifier _ text
    | name | type | declaredType | isTransient | owner => exact .ok _
    | _ => exact .error rfl
  | type t =>
    show Supplied (typeProperty t p)
    cases p with
    | name | constantName | type | declaredType | isTransient | owner => exact .error rfl
    | _ => exact .ok _
  | _ => exact .error rfl

/-! ### Methods -/

/-- An argument is there at each place before the number of arguments. -/
theorem supplied_argument (m : Method) {arguments : List Value} {i : Nat}
    (hi : i < arguments.length) : Supplied (argument m arguments i) := by
  unfold argument
  rw [List.getElem?_eq_getElem hi]
  exact supplied_toText? m arguments[i]

/-- The part of a text between two positions, as `substring` makes it when it has read them. With
one argument and with two it is the same step, and only the reading before it differs. -/
def cut (s : String) (first last : Nat) : Except EvalFault Value :=
  if last < first ∨ s.toList.length < last then
    .error (.substringRange first last s.toList.length)
  else .ok (text (String.ofList ((s.toList.take last).drop first)))

/-- With one argument the part goes to the end of the text. -/
theorem substring_singleton (s : String) (v : Value) :
    substring s [v] = v.toIndex? Method.substring.word >>= fun first =>
      cut s first s.toList.length := rfl

/-- With two arguments both positions are read, the first one first. -/
theorem substring_cons_cons (s : String) (v v' : Value) (rest : List Value) :
    substring s (v :: v' :: rest) = v.toIndex? Method.substring.word >>= fun first =>
      v'.toIndex? Method.substring.word >>= cut s first := rfl

theorem supplied_cut (s : String) (first last : Nat) : Supplied (cut s first last) := by
  unfold cut
  split
  · exact .error rfl
  · exact .ok _

/-- One argument is enough for a part of a text: the second position is the end of the text by
itself. -/
theorem supplied_substring (s : String) {arguments : List Value} (h : arguments ≠ []) :
    Supplied (substring s arguments) := by
  rcases arguments with _ | ⟨v, _ | ⟨v', rest⟩⟩
  · exact absurd rfl h
  · rw [substring_singleton]
    refine (supplied_toIndex? _ v).bind ?_
    intro first
    exact supplied_cut s first _
  · rw [substring_cons_cons]
    refine (supplied_toIndex? _ v).bind ?_
    intro first
    refine (supplied_toIndex? _ v').bind ?_
    intro last
    exact supplied_cut s first last

/-- A method of a text finds its arguments if it has a number of them from the table. The table
gives one number for each method but `substring`, which has two. -/
theorem supplied_textMethod (s : String) {m : Method} {arguments : List Value}
    (harity : arguments.length ∈ m.arities) : Supplied (textMethod s m arguments) := by
  cases m with
  | contains | startsWith | endsWith | concat =>
    have hone : arguments.length = 1 := List.mem_singleton.mp harity
    have hpart : 0 < arguments.length := by omega
    refine (supplied_argument _ hpart).bind ?_
    intro part
    exact .ok _
  | replace =>
    have htwo : arguments.length = 2 := List.mem_singleton.mp harity
    have hold : 0 < arguments.length := by omega
    have hnew : 1 < arguments.length := by omega
    refine (supplied_argument _ hold).bind ?_
    intro old
    refine (supplied_argument _ hnew).bind ?_
    intro new
    exact .ok _
  | substring =>
    refine supplied_substring s ?_
    rintro rfl
    exact absurd harity (by decide)
  -- The methods of lists are refused before an argument is looked for.
  | size | first | get => exact .error rfl
  | _ => exact .ok _

/-- A method of a list finds its arguments if it has a number of them from the table. Only `get`
looks for one. -/
theorem supplied_listMethod (items : List Value) {m : Method} {arguments : List Value}
    (harity : arguments.length ∈ m.arities) : Supplied (listMethod items m arguments) := by
  cases m with
  | size | isEmpty | first => exact .ok _
  | get =>
    cases arguments with
    | nil => exact absurd harity (by decide)
    | cons position rest => exact supplied_item items position
  | _ => exact .error rfl

/-- The table of a method is enough for receivers of every kind. The parser has checked the number
before it could know of which kind the receiver is. -/
theorem supplied_call (target : Value) {m : Method} {arguments : List Value}
    (harity : arguments.length ∈ m.arities) : Supplied (target.call m arguments) := by
  cases target with
  | text s => exact supplied_textMethod s harity
  | list items => exact supplied_listMethod items harity
  | _ => exact .error rfl

end Value

/-! ### Built-ins -/

/-- A built-in finds its argument if it has as many as the table says. `uuid` looks for none, and
each of the others for its first one. -/
theorem supplied_callBuiltin {f : Builtin} {arguments : List Value}
    (harity : arguments.length = f.arity) (uuids : UuidSource) :
    Supplied ((callBuiltin f arguments).run uuids).1 := by
  cases f with
  | uuid => exact .ok _
  | quote | str =>
    cases arguments with
    | nil => cases harity
    | cons v rest => exact .ok _
  | constantName =>
    cases arguments with
    | nil => cases harity
    | cons v rest => exact .run_liftExcept (supplied_identifier _ _) uuids

/-- Without an argument there is such a fault. -/
example (uuids : UuidSource) :
    ((callBuiltin .quote []).run uuids).1 = .error (.missingArgument "quote") := rfl

/-! ### Expressions -/

variable {scope : Scope}

/-- There are as many values as expressions. So a number that the parser has counted is that of the
values which a built-in or a method gets. -/
theorem length_evaluateAll {es : List Expr} {uuids after : UuidSource} {values : List Value}
    (h : (evaluateAll scope es).run uuids = (.ok values, after)) : values.length = es.length := by
  induction es generalizing uuids values with
  | nil =>
    rw [evaluateAll] at h
    cases h
    rfl
  | cons e es ih =>
    rw [evaluateAll] at h
    obtain ⟨v, behind, -, h⟩ := run_bind_eq_ok_pair_iff.mp h
    obtain ⟨rest, last, hrest, h⟩ := run_bind_eq_ok_pair_iff.mp h
    cases h
    rw [List.length_cons, List.length_cons, ih hrest]

/-- Where a truth value is read off a value, what follows misses no argument if it misses none for
either of the two. A value that is no truth value is a fault of another kind. -/
theorem supplied_bind_toBool? {operation : String} {v : Value} {f : Bool → Eval β}
    (hf : ∀ b uuids, Supplied ((f b).run uuids).1) (uuids : UuidSource) :
    Supplied ((liftExcept (v.toBool? operation) >>= f).run uuids).1 := by
  refine .run_bind ?_ hf uuids
  exact .run_liftExcept (v.supplied_toBool? operation)

/-- Expressions miss no argument if none of them does. -/
theorem supplied_evaluateAll {es : List Expr}
    (hes : ∀ e ∈ es, ∀ uuids, Supplied ((evaluate scope e).run uuids).1) (uuids : UuidSource) :
    Supplied ((evaluateAll scope es).run uuids).1 := by
  induction es generalizing uuids with
  | nil =>
    rw [evaluateAll]
    exact .ok _
  | cons e es ih =>
    -- The others go on from any source that the first one may leave.
    obtain ⟨he, hes⟩ := List.forall_mem_cons.mp hes
    rw [evaluateAll]
    refine .run_bind he ?_ uuids
    intro v
    refine .run_bind (ih hes) ?_
    intro vs after
    exact .ok _

/-- The evaluation of a well-formed expression misses no argument. The induction follows the
expression. For a call the number of arguments is part of being well-formed, and the evaluation of
the arguments keeps it; for everything else it is enough that the parts miss none. -/
theorem Expr.IsWellFormed.supplied_evaluate {e : Expr} (h : e.IsWellFormed) :
    ∀ uuids, Supplied ((evaluate scope e).run uuids).1 := by
  induction h with
  | text | int | bool | null | input =>
    intro uuids
    rw [evaluate]
    exact .ok _
  | call harity hes ih =>
    rw [evaluate]
    intro uuids
    refine .run_bind_of_eq_ok (supplied_evaluateAll ih uuids) ?_
    intro values after h
    -- The values are as many as the expressions that were counted.
    have hlen := (length_evaluateAll h).trans harity
    exact supplied_callBuiltin hlen after
  | property ht ih =>
    rw [evaluate]
    refine .run_bind ih ?_
    intro v
    exact .run_liftExcept (v.supplied_property _)
  | @method target m arguments harity ht hes iht ihes =>
    rw [evaluate]
    refine .run_bind iht ?_
    intro v uuids
    refine .run_bind_of_eq_ok (supplied_evaluateAll ihes uuids) ?_
    intro values after h
    have hlen : values.length ∈ m.arities := by
      rw [length_evaluateAll h]
      exact harity
    exact .run_liftExcept (v.supplied_call hlen) after
  | index ht hp iht ihp =>
    rw [evaluate]
    refine .run_bind iht ?_
    intro v
    refine .run_bind ihp ?_
    intro i
    exact .run_liftExcept (v.supplied_index i)
  | not he ih =>
    rw [evaluate]
    refine .run_bind ih ?_
    intro v
    refine supplied_bind_toBool? ?_
    intro b uuids
    exact .ok _
  | @binary operator l r hl hr ihl ihr =>
    cases operator with
    | and =>
      rw [evaluate]
      refine .run_bind ihl ?_
      intro v
      refine supplied_bind_toBool? ?_
      intro b
      cases b with
      | true =>
        refine .run_bind ihr ?_
        intro v'
        refine supplied_bind_toBool? ?_
        intro b' uuids
        exact .ok _
      | false => exact fun _ => .ok _
    | or =>
      rw [evaluate]
      refine .run_bind ihl ?_
      intro v
      refine supplied_bind_toBool? ?_
      intro b
      cases b with
      | true => exact fun _ => .ok _
      | false =>
        refine .run_bind ihr ?_
        intro v'
        refine supplied_bind_toBool? ?_
        intro b' uuids
        exact .ok _
    | equal | notEqual =>
      rw [evaluate]
      refine .run_bind ihl ?_
      intro v
      refine .run_bind ihr ?_
      intro v' uuids
      exact .ok _
    | add =>
      rw [evaluate]
      refine .run_bind ihl ?_
      intro v
      refine .run_bind ihr ?_
      intro v'
      exact .run_liftExcept (v.supplied_add v')
  | conditional hc hy hn ihc ihy ihn =>
    rw [evaluate]
    refine .run_bind ihc ?_
    intro v
    refine supplied_bind_toBool? ?_
    intro b
    cases b with
    | true => exact ihy
    | false => exact ihn

/-! ### Compiled providers -/

/-- A compiled provider gives a text or none, or has a fault that is not that of a missing
argument. What the compiler returns is well formed, and nothing fails behind the evaluation. -/
theorem supplied_provide {source : String} {p : Provider} (h : compile? source = .ok p)
    (scope : Scope) (uuids : UuidSource) : Supplied ((p.provide scope).run uuids).1 := by
  have hbody : p.body.IsWellFormed := isWellFormed_of_compile? h
  refine .run_bind hbody.supplied_evaluate ?_ uuids
  intro v after
  exact .ok _

/-- The evaluation of what the compiler returns ends with a text or none, or with an evaluation
fault, and never for want of an argument. The numbers of arguments that the compiler lets through
are enough for each built-in, and for each method whatever the receiver is. -/
theorem supplied_of_compile :
    (∀ source p, compile? source = .ok p → ∀ (scope : Scope) (uuids : UuidSource),
      (∃ text after, (p.provide scope).run uuids = (.ok text, after)) ∨
        ∃ fault after, (p.provide scope).run uuids = (.error fault, after) ∧
          fault.message = "Provider evaluation failed: " ++ fault.detail ∧
          fault.isMissing = false) ∧
    (∀ (f : Builtin) (arguments : List Value), arguments.length = f.arity →
      ∀ uuids, Supplied ((callBuiltin f arguments).run uuids).1) ∧
    ∀ (m : Method) (arguments : List Value), arguments.length ∈ m.arities →
      ∀ target : Value, Supplied (target.call m arguments) := by
  refine ⟨?_, ?_, ?_⟩
  · intro source p h scope uuids
    have hsupplied := supplied_provide h scope uuids
    rcases hrun : (p.provide scope).run uuids with ⟨fault | text, after⟩
    · have hmissing : fault.isMissing = false := hsupplied fault (congrArg Prod.fst hrun)
      exact .inr ⟨fault, after, rfl, rfl, hmissing⟩
    · exact .inl ⟨text, after, rfl⟩
  · intro f arguments
    exact supplied_callBuiltin
  · intro m arguments harity target
    exact target.supplied_call harity

/-- A field of a number, in a type without arguments. -/
def counter : Scope where
  field := ⟨⟨"count", .primitive .int, false, false, []⟩, 0, "shop.Item", .primitive .int,
    .primitive .int⟩
  owner := .declared "shop.Item" [] [] .describedClass

/-- A method of texts is called with its one argument. The receiver is a list here, and the fault
is that lists have no such method. -/
theorem supplied_of_compile_counter :
    ∃ p fault after,
      compile? "(type.isEnum ? 'ab' : type.typeArguments).contains('b')" = .ok p ∧
      (p.provide counter).run (.ofSeed 0) = (.error fault, after) ∧
      fault = .noMethod .list "contains" ∧ fault.isMissing = false := by
  have hfault :
      ((compile? "(type.isEnum ? 'ab' : type.typeArguments).contains('b')").toOption.map fun p =>
        decide (((p.provide counter).run (.ofSeed 0)).1 = .error (.noMethod .list "contains"))) =
      some true := by
    decide +kernel
  obtain ⟨p, hp, hfault⟩ := Option.map_eq_some_iff.mp hfault
  have hp := toOption_eq_some_iff.mp hp
  have hfault := of_decide_eq_true hfault
  obtain ⟨text, after, hrun⟩ | ⟨fault, after, hrun, -, hmissing⟩ :=
    supplied_of_compile.1 _ p hp counter (.ofSeed 0)
  · rw [hrun] at hfault
    cases hfault
  · rw [hrun] at hfault
    exact ⟨p, fault, after, hp, hrun, Except.error.inj hfault, hmissing⟩

end Fixtures.Provider
