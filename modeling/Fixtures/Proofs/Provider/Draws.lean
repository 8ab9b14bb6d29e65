import Fixtures.Pipeline
import Fixtures.Proofs.Provider.Counted

/-!
# `Fixtures.Proofs.Provider.Draws`: which values depend on UUIDs

Only the built-in `uuid` draws, and the pipeline draws for fields of the UUID type itself. A
provider without a call of `uuid` is the same computation whatever the source is, and leaves the
source as it is (`Provider.drawsNothing_provide`); what it gives is a plain result. So the pipeline
gives a plain text for a field that is of no UUID and whose providers, the one for its exact type
and the one for its shape, do not call `uuid` (`Pipeline.exists_resolve_eq_pure`).

A call of `uuid` counts wherever it stands in an expression, even where it is never evaluated.
-/

set_option autoImplicit false

namespace Fixtures

namespace Provider

/-! ### Expressions that call `uuid` -/

namespace Expr

mutual

/-- Whether `uuid` is called somewhere in an expression, be the call ever evaluated or not. -/
def callsUuid : Expr → Bool
  | text _ | int _ | bool _ | null | input _ => false
  | call function arguments => function = .uuid || anyCallsUuid arguments
  | property target _ => target.callsUuid
  | method target _ arguments => target.callsUuid || anyCallsUuid arguments
  | index target position => target.callsUuid || position.callsUuid
  | not operand => operand.callsUuid
  | binary _ left right => left.callsUuid || right.callsUuid
  | conditional condition yes no => condition.callsUuid || yes.callsUuid || no.callsUuid

/-- Whether `uuid` is called somewhere in one of some expressions. -/
def anyCallsUuid : List Expr → Bool
  | [] => false
  | e :: es => e.callsUuid || anyCallsUuid es

end

mutual

/-- Without a call of `uuid` the number of such calls is zero. `callsUuid` says whether there is one
and not how many, and that is all that the pipeline has to ask of a provider. -/
theorem uuidCalls_eq_zero : ∀ e : Expr, e.callsUuid = false → e.uuidCalls = 0
  | text _, _ | int _, _ | bool _, _ | null, _ | input _, _ => rfl
  | call function arguments, h => by
    obtain ⟨hfunction, harguments⟩ := Bool.or_eq_false_iff.mp h
    rw [uuidCalls, if_neg (of_decide_eq_false hfunction), allUuidCalls_eq_zero arguments harguments]
  | property target _, h => uuidCalls_eq_zero target h
  | method target _ arguments, h => by
    obtain ⟨htarget, harguments⟩ := Bool.or_eq_false_iff.mp h
    rw [uuidCalls, uuidCalls_eq_zero target htarget, allUuidCalls_eq_zero arguments harguments]
  | index target position, h => by
    obtain ⟨htarget, hposition⟩ := Bool.or_eq_false_iff.mp h
    rw [uuidCalls, uuidCalls_eq_zero target htarget, uuidCalls_eq_zero position hposition]
  | not operand, h => uuidCalls_eq_zero operand h
  | binary _ left right, h => by
    obtain ⟨hleft, hright⟩ := Bool.or_eq_false_iff.mp h
    rw [uuidCalls, uuidCalls_eq_zero left hleft, uuidCalls_eq_zero right hright]
  | conditional condition yes no, h => by
    obtain ⟨h, hno⟩ := Bool.or_eq_false_iff.mp h
    obtain ⟨hcondition, hyes⟩ := Bool.or_eq_false_iff.mp h
    rw [uuidCalls, uuidCalls_eq_zero condition hcondition, uuidCalls_eq_zero yes hyes,
      uuidCalls_eq_zero no hno]

/-- So it is for several expressions. -/
theorem allUuidCalls_eq_zero :
    ∀ es : List Expr, anyCallsUuid es = false → allUuidCalls es = 0
  | [], _ => rfl
  | e :: es, h => by
    obtain ⟨hfirst, hrest⟩ := Bool.or_eq_false_iff.mp h
    rw [allUuidCalls, uuidCalls_eq_zero e hfirst, allUuidCalls_eq_zero es hrest]

end

end Expr

end Provider

/-! ### Computations that draw nothing -/

/-- A computation is a plain result, whatever the source is. It leaves the source as it is, so what
comes behind it draws as if it were not there. -/
def DrawsNothing {ε α : Type} (x : Drawing ε α) : Prop := ∃ y, x = liftExcept y

/-- What draws at most no UUID does not depend on the source. -/
theorem DrawsNothing.of_drawsAtMost {ε α : Type} {x : Drawing ε α} (h : DrawsAtMost 0 x) :
    DrawsNothing x := by
  -- What it gives on any one source it gives on all of them, since they agree on no UUIDs at all.
  let sample : UuidSource := .ofStream fun _ => default
  obtain ⟨k, hk, hconsumes⟩ := h sample
  obtain rfl : k = 0 := Nat.le_zero.mp hk
  refine ⟨(x.run sample).1, ?_⟩
  funext source
  have hagree : UuidSource.AgreeFor 0 sample source := by
    intro j hj
    exact absurd hj (Nat.not_lt_zero j)
  have hrun : x.run source = ((x.run sample).1, source) := hconsumes.run_eq source hagree
  exact hrun.trans (run_liftExcept _ source).symm

/-- A provider without a call of `uuid` draws nothing. The bound on what it draws is the number of
the calls, and here that is zero. -/
theorem Provider.drawsNothing_provide {provider : Provider} (h : provider.body.callsUuid = false)
    (scope : Provider.Scope) : DrawsNothing (provider.provide scope) := by
  have hcalls : provider.body.uuidCalls = 0 := provider.body.uuidCalls_eq_zero h
  have hatMost := provider.drawsAtMost_provide scope
  rw [hcalls] at hatMost
  exact .of_drawsAtMost hatMost

/-! ### The pipeline -/

namespace Pipeline

/-- The pipeline may draw for a field: the field is of a UUID, or a provider for its exact type or
for its shape calls `uuid`. -/
def MayDraw (p : Pipeline) (f : ModelField) : Prop :=
  ValueShape.ofType f.resolved = .uuid ∨
    ∃ key ∈ [f.resolved.qualifiedName, (ValueShape.ofType f.resolved).tag],
      ∃ provider ∈ p.providers.get? key, provider.body.callsUuid = true

variable {p : Pipeline} {f : ModelField}

/-- A provider that does not call `uuid` gives a plain text, or none. -/
theorem exists_consult_eq_pure {key : String}
    (h : ∀ provider ∈ p.providers.get? key, provider.body.callsUuid = false) :
    ∃ text, p.consult f key = pure text := by
  unfold consult
  split
  · exact ⟨none, rfl⟩
  · next provider hprovider =>
    obtain ⟨y, hy⟩ := Provider.drawsNothing_provide (h provider hprovider) ⟨f, p.owner⟩
    rw [hy]
    cases y with
    | error err => exact ⟨none, rfl⟩
    | ok text => exact ⟨text, rfl⟩

/-- The pipeline gives a plain text for a field for which it cannot draw: what its providers give is
plain, and of the built-in values only that of a UUID is drawn. -/
theorem exists_resolve_eq_pure (h : ¬ p.MayDraw f) : ∃ text, p.resolve f = pure text := by
  obtain ⟨hshape, hproviders⟩ := not_or.mp h
  have hconsult : ∀ key ∈ [f.resolved.qualifiedName, (ValueShape.ofType f.resolved).tag],
      ∃ text, p.consult f key = pure text := by
    intro key hkey
    refine exists_consult_eq_pure ?_
    intro provider hprovider
    rw [← Bool.not_eq_true]
    intro hcalls
    exact hproviders ⟨key, hkey, provider, hprovider, hcalls⟩
  obtain ⟨byType, hbyType⟩ := hconsult _ List.mem_cons_self
  obtain ⟨byShape, hbyShape⟩ := hconsult _ (List.mem_cons_of_mem _ List.mem_cons_self)
  -- Both providers are plain by now, so whether the second one is asked makes no difference.
  have hcustom : p.custom f = pure (byType.or byShape) := by
    unfold custom
    rw [hbyType, pure_bind]
    cases byType with
    | none => exact hbyShape
    | some text => rfl
  have hbuiltIn : ∃ text, p.builtIn f = pure text := by
    unfold builtIn
    cases hof : ValueShape.ofType f.resolved with
    | uuid => exact absurd hof hshape
    | enum =>
      cases f.resolved.enumConstants with
      | nil => exact ⟨_, rfl⟩
      | cons first rest => exact ⟨_, rfl⟩
    | _ => exact ⟨_, rfl⟩
  unfold resolve
  rw [hcustom, pure_bind]
  cases byType.or byShape with
  | none => exact hbuiltIn
  | some text => exact ⟨text, rfl⟩

end Pipeline

end Fixtures
