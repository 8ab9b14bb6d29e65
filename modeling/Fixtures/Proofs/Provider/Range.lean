import Fixtures.Proofs.Provider.Supplied

/-!
# `Fixtures.Proofs.Provider.Range`: the integers in evaluations have 64 bits

Integers come from literals, from lengths and sizes, and from sums; a sum that needs more bits is a
fault. So if the literals of an expression are in range (`IsLong`), all integers in all values on
the way are (`Expr.InRange.inRange_evaluate`). The induction is on the expression, and of an
operation it only matters that it makes no other integers (`Value.InRange`).
-/

set_option autoImplicit false

namespace Fixtures.Provider

/-- The integer has 64 bits, with a sign. The limits are those of the sum of two integers. -/
def IsLong (n : Int) : Prop := Value.minInt ≤ n ∧ n ≤ Value.maxInt

instance (n : Int) : Decidable (IsLong n) := inferInstanceAs (Decidable (_ ∧ _))

/-! ### Expressions -/

namespace Expr

/-- All integers that are written in the expression have 64 bits. The lexer reads no others; but an
expression may be built without it, and then nothing else keeps its literals in range. -/
inductive InRange : Expr → Prop
  | text {value : String} : InRange (.text value)
  | int {value : Int} (h : IsLong value) : InRange (.int value)
  | bool {value : Bool} : InRange (.bool value)
  | null : InRange .null
  | input {which : Input} : InRange (.input which)
  | call {f : Builtin} {es : List Expr} (hes : ∀ e ∈ es, InRange e) : InRange (.call f es)
  | property {t : Expr} {p : Property} (ht : InRange t) : InRange (.property t p)
  | method {t : Expr} {m : Method} {es : List Expr} (ht : InRange t) (hes : ∀ e ∈ es, InRange e) :
      InRange (.method t m es)
  | index {t p : Expr} (ht : InRange t) (hp : InRange p) : InRange (.index t p)
  | not {e : Expr} (he : InRange e) : InRange (.not e)
  | binary {operator : Operator} {l r : Expr} (hl : InRange l) (hr : InRange r) :
      InRange (.binary operator l r)
  | conditional {c y n : Expr} (hc : InRange c) (hy : InRange y) (hn : InRange n) :
      InRange (.conditional c y n)

/-- An expression is a part of another one, at any depth. Whatever is evaluated on the way to the
value of an expression is a part of it. -/
inductive Within (s : Expr) : Expr → Prop
  | self : Within s s
  | called {f : Builtin} {es : List Expr} {e : Expr} (he : e ∈ es) (h : Within s e) :
      Within s (.call f es)
  | owner {t : Expr} {p : Property} (h : Within s t) : Within s (.property t p)
  | receiver {t : Expr} {m : Method} {es : List Expr} (h : Within s t) : Within s (.method t m es)
  | argument {t : Expr} {m : Method} {es : List Expr} {e : Expr} (he : e ∈ es) (h : Within s e) :
      Within s (.method t m es)
  | indexed {t p : Expr} (h : Within s t) : Within s (.index t p)
  | position {t p : Expr} (h : Within s p) : Within s (.index t p)
  | operand {e : Expr} (h : Within s e) : Within s (.not e)
  | left {operator : Operator} {l r : Expr} (h : Within s l) : Within s (.binary operator l r)
  | right {operator : Operator} {l r : Expr} (h : Within s r) : Within s (.binary operator l r)
  | condition {c y n : Expr} (h : Within s c) : Within s (.conditional c y n)
  | yes {c y n : Expr} (h : Within s y) : Within s (.conditional c y n)
  | no {c y n : Expr} (h : Within s n) : Within s (.conditional c y n)

/-- A part has no other integers. So what is shown of an expression in range holds for everything
that is evaluated on the way. -/
theorem InRange.of_within {s e : Expr} (h : e.InRange) (hs : s.Within e) : s.InRange := by
  induction hs with
  | self => exact h
  | called he _ ih =>
    cases h with
    | call hes => exact ih (hes _ he)
  | owner _ ih =>
    cases h with
    | property ht => exact ih ht
  | receiver _ ih =>
    cases h with
    | method ht hes => exact ih ht
  | argument he _ ih =>
    cases h with
    | method ht hes => exact ih (hes _ he)
  | indexed _ ih =>
    cases h with
    | index ht hp => exact ih ht
  | position _ ih =>
    cases h with
    | index ht hp => exact ih hp
  | operand _ ih =>
    cases h with
    | not he => exact ih he
  | left _ ih =>
    cases h with
    | binary hl hr => exact ih hl
  | right _ ih =>
    cases h with
    | binary hl hr => exact ih hr
  | condition _ ih =>
    cases h with
    | conditional hc hy hn => exact ih hc
  | yes _ ih =>
    cases h with
    | conditional hc hy hn => exact ih hy
  | no _ ih =>
    cases h with
    | conditional hc hy hn => exact ih hn

/-- The integers of a well-formed expression have 64 bits, and none is negative. -/
theorem IsWellFormed.inRange {e : Expr} (h : e.IsWellFormed) : e.InRange := by
  induction h with
  | text => exact .text
  | int hle hmax => exact .int ⟨Int.le_trans (by decide) hle, hmax⟩
  | bool => exact .bool
  | null => exact .null
  | input => exact .input
  | call _ _ ih => exact .call ih
  | property _ ih => exact .property ih
  | method _ _ _ iht ihes => exact .method iht ihes
  | index _ _ iht ihp => exact .index iht ihp
  | not _ ih => exact .not ih
  | binary _ _ ihl ihr => exact .binary ihl ihr
  | conditional _ _ _ ihc ihy ihn => exact .conditional ihc ihy ihn

end Expr

/-! ### Values -/

namespace Value

/-- The integer is the value, or stands in it at any depth. Only lists have something inside. -/
inductive Holds (n : Int) : Value → Prop
  | self : Holds n (.int n)
  | item {items : List Value} {v : Value} (hv : v ∈ items) (h : Holds n v) : Holds n (.list items)

/-- All integers in the value have 64 bits. -/
def InRange (v : Value) : Prop := ∀ n, v.Holds n → IsLong n

variable {items : List Value}

theorem inRange_null : null.InRange := nofun

theorem inRange_bool {b : Bool} : (bool b).InRange := nofun

theorem inRange_text {s : String} : (text s).InRange := nofun

theorem inRange_field {f : ModelField} : (field f).InRange := nofun

theorem inRange_type {t : TypeMetadata} : (type t).InRange := nofun

theorem inRange_int {n : Int} (h : IsLong n) : (int n).InRange := by
  rintro m ⟨⟩
  exact h

theorem inRange_list_iff : (list items).InRange ↔ ∀ v ∈ items, v.InRange := by
  constructor
  · exact fun h v hv n hn => h n (.item hv hn)
  · rintro h n (_ | ⟨hv, hn⟩)
    exact h _ hv n hn

theorem inRange_list_map {α : Type} {as : List α} {f : α → Value} (h : ∀ a, (f a).InRange) :
    (list (as.map f)).InRange := by
  refine inRange_list_iff.mpr fun v hv => ?_
  obtain ⟨a, -, rfl⟩ := List.mem_map.mp hv
  exact h a

/-- A length or size has 64 bits, whatever it counts: it is cut to 64 bits, not checked. -/
theorem inRange_ofCount (n : Nat) : (ofCount n).InRange := by
  have hle : minInt ≤ (Int64.ofNat n).toInt := (Int64.ofNat n).le_toInt
  have hlt : (Int64.ofNat n).toInt < 9223372036854775808 := (Int64.ofNat n).toInt_lt
  have hmax : (Int64.ofNat n).toInt ≤ maxInt := by
    unfold maxInt
    omega
  exact inRange_int ⟨hle, hmax⟩

/-- A sum has 64 bits, because it is checked before it is returned. -/
theorem inRange_add (l r : Value) : SucceedsWith InRange (l.add r) := by
  unfold add
  split
  · split
    next hsum => exact .ok (inRange_int hsum)
    next => exact .error _
  · exact .ok inRange_text
  · exact .ok inRange_text
  · exact .error _

/-- What is taken out of a list was in it. -/
theorem inRange_item (h : (list items).InRange) (position : Value) :
    SucceedsWith InRange (item items position) := by
  refine .bind ?_
  intro i
  cases hv : items[i]? with
  | none => exact .error _
  | some v =>
    have hmem : v ∈ items := List.mem_of_getElem? hv
    exact .ok (inRange_list_iff.mp h v hmem)

theorem inRange_index {target : Value} (h : target.InRange) (position : Value) :
    SucceedsWith InRange (target.index position) := by
  cases target with
  | list items => exact inRange_item h position
  | _ => exact .error _

/-- A property is no integer, and lists none. -/
theorem inRange_property (target : Value) (p : Property) :
    SucceedsWith InRange (target.property p) := by
  cases target with
  | field f =>
    show SucceedsWith InRange (fieldProperty f p)
    cases p with
    | name | declaredType | owner => exact .ok inRange_text
    | constantName => exact .map fun name => inRange_text
    | type => exact .ok inRange_type
    | isTransient => exact .ok inRange_bool
    | _ => exact .error _
  | type t =>
    show SucceedsWith InRange (typeProperty t p)
    cases p with
    | simpleName | qualifiedName | packageName | fixtureName | fixtureQualifiedName =>
      exact .ok inRange_text
    | isGeneric | isEnum | isArray | isPrimitive => exact .ok inRange_bool
    | typeArguments => exact .ok (inRange_list_map fun p => inRange_type)
    | enumConstants => exact .ok (inRange_list_map fun c => inRange_text)
    | _ => exact .error _
  | _ => exact .error _

theorem inRange_cut (s : String) (first last : Nat) : SucceedsWith InRange (cut s first last) := by
  unfold cut
  split
  · exact .error _
  · exact .ok inRange_text

theorem inRange_substring (s : String) (arguments : List Value) :
    SucceedsWith InRange (substring s arguments) := by
  rcases arguments with _ | ⟨v, _ | ⟨v', rest⟩⟩
  · exact .error _
  · rw [substring_singleton]
    refine .bind ?_
    intro first
    exact inRange_cut s first _
  · rw [substring_cons_cons]
    refine .bind ?_
    intro first
    refine .bind ?_
    intro last
    exact inRange_cut s first last

/-- A method of a text gives a text or a truth value, and `length` a length. -/
theorem inRange_textMethod (s : String) (m : Method) (arguments : List Value) :
    SucceedsWith InRange (textMethod s m arguments) := by
  cases m with
  | length => exact .ok (inRange_ofCount _)
  | isEmpty => exact .ok inRange_bool
  | toUpperCase | toLowerCase | trim | quote | capitalize => exact .ok inRange_text
  | contains | startsWith | endsWith =>
    refine .bind ?_
    intro part
    exact .ok inRange_bool
  | concat =>
    refine .bind ?_
    intro part
    exact .ok inRange_text
  | replace =>
    refine .bind ?_
    intro old
    refine .bind ?_
    intro new
    exact .ok inRange_text
  | substring => exact inRange_substring s arguments
  | size | first | get => exact .error _

/-- A method of a list gives one of its items or the size. Here the receiver has to be in range. -/
theorem inRange_listMethod (h : (list items).InRange) (m : Method) (arguments : List Value) :
    SucceedsWith InRange (listMethod items m arguments) := by
  cases m with
  | size => exact .ok (inRange_ofCount _)
  | isEmpty => exact .ok inRange_bool
  | first =>
    cases items with
    | nil => exact .ok inRange_null
    | cons v rest => exact .ok (inRange_list_iff.mp h v List.mem_cons_self)
  | get =>
    cases arguments with
    | nil => exact .error _
    | cons position rest => exact inRange_item h position
  | _ => exact .error _

theorem inRange_call {target : Value} (h : target.InRange) (m : Method) (arguments : List Value) :
    SucceedsWith InRange (target.call m arguments) := by
  cases target with
  | text s => exact inRange_textMethod s m arguments
  | list items => exact inRange_listMethod h m arguments
  | _ => exact .error _

end Value

/-! ### Integers in evaluations -/

/-- The built-ins make no integers. -/
theorem inRange_callBuiltin (f : Builtin) (arguments : List Value) (source : UuidSource) :
    SucceedsWith Value.InRange ((callBuiltin f arguments).run source).1 := by
  cases f with
  | uuid => exact .ok Value.inRange_text
  | quote | str =>
    cases arguments with
    | nil => exact .error _
    | cons v rest => exact .ok Value.inRange_text
  | constantName =>
    cases arguments with
    | nil => exact .error _
    | cons v rest => exact .run_liftExcept (.map fun name => Value.inRange_text) source

variable {scope : Scope}

theorem inRange_input (which : Input) : (scope.input which).InRange := by
  cases which with
  | field => exact Value.inRange_field
  | type => exact Value.inRange_type

/-- The value of an expression is in range if its literals are. The operations may refuse the values
of the operands, but make no other integers of them than those in range. Of most operations nothing
has to be known of the operands; only a list is taken apart, so its items have to be in range. -/
theorem Expr.InRange.inRange_evaluate {e : Expr} (h : e.InRange) :
    ∀ source, SucceedsWith Value.InRange ((evaluate scope e).run source).1 := by
  induction h with
  | text =>
    intro source
    rw [evaluate]
    exact .ok Value.inRange_text
  | int hlong =>
    intro source
    rw [evaluate]
    exact .ok (Value.inRange_int hlong)
  | bool =>
    intro source
    rw [evaluate]
    exact .ok Value.inRange_bool
  | null =>
    intro source
    rw [evaluate]
    exact .ok Value.inRange_null
  | input =>
    intro source
    rw [evaluate]
    exact .ok (inRange_input _)
  | call hes =>
    rw [evaluate]
    refine .run_bind_of_forall ?_
    intro values
    exact inRange_callBuiltin _ values
  | property ht ih =>
    rw [evaluate]
    refine .run_bind_of_forall ?_
    intro v
    exact .run_liftExcept (v.inRange_property _)
  | method ht hes iht =>
    rw [evaluate]
    -- The receiver may be a list, and what a method takes out of it is in range if the list is.
    refine .run_bind iht ?_
    intro v hv
    refine .run_bind_of_forall ?_
    intro values
    exact .run_liftExcept (v.inRange_call hv _ values)
  | index ht hp iht ihp =>
    rw [evaluate]
    refine .run_bind iht ?_
    intro v hv
    refine .run_bind_of_forall ?_
    intro i
    exact .run_liftExcept (v.inRange_index hv i)
  | not he ih =>
    rw [evaluate]
    refine .run_bind_of_forall ?_
    intro v
    refine .run_bind_of_forall ?_
    intro b after
    exact .ok Value.inRange_bool
  | @binary operator l r hl hr ihl ihr =>
    cases operator with
    | and =>
      rw [evaluate]
      refine .run_bind_of_forall ?_
      intro v
      refine .run_bind_of_forall ?_
      intro b
      cases b with
      | true =>
        refine .run_bind_of_forall ?_
        intro v'
        refine .run_bind_of_forall ?_
        intro b' after
        exact .ok Value.inRange_bool
      | false => exact fun _ => .ok Value.inRange_bool
    | or =>
      rw [evaluate]
      refine .run_bind_of_forall ?_
      intro v
      refine .run_bind_of_forall ?_
      intro b
      cases b with
      | true => exact fun _ => .ok Value.inRange_bool
      | false =>
        refine .run_bind_of_forall ?_
        intro v'
        refine .run_bind_of_forall ?_
        intro b' after
        exact .ok Value.inRange_bool
    | equal | notEqual =>
      rw [evaluate]
      refine .run_bind_of_forall ?_
      intro v
      refine .run_bind_of_forall ?_
      intro v' after
      exact .ok Value.inRange_bool
    | add =>
      rw [evaluate]
      refine .run_bind_of_forall ?_
      intro v
      refine .run_bind_of_forall ?_
      intro v'
      exact .run_liftExcept (v.inRange_add v')
  | conditional hc hy hn ihc ihy ihn =>
    rw [evaluate]
    refine .run_bind_of_forall ?_
    intro v
    refine .run_bind_of_forall ?_
    intro b
    cases b with
    | true => exact ihy
    | false => exact ihn

end Fixtures.Provider
