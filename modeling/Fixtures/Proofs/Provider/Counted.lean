import Fixtures.Proofs.Failing
import Fixtures.Provider.Eval

/-!
# `Fixtures.Proofs.Provider.Counted`: how many UUIDs an evaluation draws

A computation draws from a source by steps, and a later step may depend on what an earlier one has
drawn. `Consumes x source k` says that on this source `x` takes the next `k` UUIDs and sees nothing
else of it: on a source with the same next `k` UUIDs it gives the same result and takes `k` too.
Under `>>=` the numbers add (`Consumes.bind_ok`), and a failed step ends the drawing
(`Consumes.bind_error`), so bounds that hold on every source add as well (`DrawsAtMost.bind`).

The principal result bounds the draws of an expression by its calls of `uuid`
(`exists_le_uuidCalls_evaluate`). The bound need not be reached: `&&`, `||` and `?:` leave operands
out, and a failure leaves out what stands behind it.
-/

set_option autoImplicit false

namespace Fixtures

/-! ### Sources -/

namespace UuidSource

/-- The source behind its next `k` UUIDs. Nothing else about a source ever changes. -/
def skip (source : UuidSource) (k : Nat) : UuidSource :=
  { source with drawn := source.drawn + k }

/-- The next `k` UUIDs of two sources are the same. Sources may agree so without having drawn
equally often. -/
def AgreeFor (k : Nat) (source other : UuidSource) : Prop :=
  ∀ j < k, other.stream (other.drawn + j) = source.stream (source.drawn + j)

variable {source other : UuidSource}

/-- A source stands behind none of its UUIDs. -/
theorem skip_zero (source : UuidSource) : source.skip 0 = source := rfl

/-- UUIDs that are skipped one after another are skipped at once. -/
theorem skip_skip (source : UuidSource) (k l : Nat) :
    (source.skip k).skip l = source.skip (k + l) := by
  unfold skip
  rw [Nat.add_assoc]

/-- Sources that agree for long agree for less. -/
theorem AgreeFor.mono {k l : Nat} (h : AgreeFor l source other) (hle : k ≤ l) :
    AgreeFor k source other :=
  fun j hj => h j (Nat.lt_of_lt_of_le hj hle)

/-- Sources that agree still do behind UUIDs on which they agree. -/
theorem AgreeFor.skip {k l : Nat} (h : AgreeFor (k + l) source other) :
    AgreeFor l (source.skip k) (other.skip k) := by
  intro j hj
  show other.stream (other.drawn + k + j) = source.stream (source.drawn + k + j)
  rw [Nat.add_assoc, Nat.add_assoc]
  exact h (k + j) (Nat.add_lt_add_left hj k)

end UuidSource

/-! ### Computations on a source -/

variable {ε α β : Type}

/-- From the source, the computation takes the next `k` UUIDs and depends on these alone. Both
parts are about one source: on another one it may take more or fewer, if other UUIDs stand there.
-/
structure Consumes (x : Drawing ε α) (source : UuidSource) (k : Nat) : Prop where
  leaves : (x.run source).2 = source.skip k
  run_eq : ∀ other, UuidSource.AgreeFor k source other →
    x.run other = ((x.run source).1, other.skip k)

namespace Consumes

variable {x : Drawing ε α} {f : α → Drawing ε β} {source : UuidSource} {k l : Nat}

theorem liftExcept (y : Except ε α) (source : UuidSource) :
    Consumes (liftExcept y) source 0 where
  leaves := by rw [run_liftExcept, UuidSource.skip_zero]
  run_eq other _ := by rw [run_liftExcept, run_liftExcept, UuidSource.skip_zero]

theorem drawUuid (source : UuidSource) : Consumes (drawUuid : Drawing ε Uuid) source 1 where
  leaves := rfl
  run_eq other h := by
    show ((Except.ok (other.stream other.drawn) : Except ε Uuid), other.skip 1)
      = (Except.ok (source.stream source.drawn), other.skip 1)
    rw [show other.stream other.drawn = source.stream source.drawn from h 0 Nat.one_pos]

/-- The second step goes on behind what the first one has taken. Which second step that is depends
on the result of the first, so it is known for this source only. -/
theorem bind_ok {a : α} (hx : Consumes x source k) (ha : (x.run source).1 = .ok a)
    (hf : Consumes (f a) (source.skip k) l) : Consumes (x >>= f) source (k + l) := by
  have hrun : (x >>= f).run source = (f a).run (source.skip k) := by
    rw [run_bind_drawing, show x.run source = (.ok a, source.skip k) from Prod.ext ha hx.leaves]
  refine ⟨?_, fun other h => ?_⟩
  · rw [hrun, hf.leaves, UuidSource.skip_skip]
  · rw [hrun, run_bind_drawing, hx.run_eq other (h.mono (Nat.le_add_right k l)), ha]
    show (f a).run (other.skip k) = _
    rw [hf.run_eq _ h.skip, UuidSource.skip_skip]

/-- Behind a failed step nothing is taken. So a failure may leave out draws, and never adds any. -/
theorem bind_error {err : ε} (hx : Consumes x source k) (herr : (x.run source).1 = .error err) :
    Consumes (x >>= f) source k := by
  have hrun : (x >>= f).run source = (.error err, source.skip k) := by
    rw [run_bind_drawing,
      show x.run source = (.error err, source.skip k) from Prod.ext herr hx.leaves]
  refine ⟨?_, fun other h => ?_⟩
  · rw [hrun]
  · rw [hrun, run_bind_drawing, hx.run_eq other h, herr]

end Consumes

/-! ### Computations on every source -/

/-- From every source, the computation takes at most the next `n` UUIDs, and depends on those that
it takes alone. How many it takes may differ from source to source. -/
def DrawsAtMost (n : Nat) (x : Drawing ε α) : Prop :=
  ∀ source, ∃ k ≤ n, Consumes x source k

namespace DrawsAtMost

variable {x : Drawing ε α} {f : α → Drawing ε β} {m n : Nat}

theorem liftExcept (n : Nat) (y : Except ε α) : DrawsAtMost n (liftExcept y) :=
  fun source => ⟨0, Nat.zero_le n, .liftExcept y source⟩

theorem pure (n : Nat) (a : α) : DrawsAtMost n (pure a : Drawing ε α) := .liftExcept n (.ok a)

theorem throw (n : Nat) (err : ε) : DrawsAtMost n (throw err : Drawing ε α) :=
  .liftExcept n (.error err)

theorem drawUuid : DrawsAtMost 1 (drawUuid : Drawing ε Uuid) :=
  fun source => ⟨1, Nat.le_refl 1, .drawUuid source⟩

theorem mono (h : DrawsAtMost m x) (hle : m ≤ n) : DrawsAtMost n x := fun source =>
  (h source).imp fun _ hk => ⟨Nat.le_trans hk.1 hle, hk.2⟩

/-- The draws of two steps add. If the first step fails, the second one is not made, and the bound
holds all the more. -/
theorem bind (hx : DrawsAtMost m x) (hf : ∀ a, DrawsAtMost n (f a)) :
    DrawsAtMost (m + n) (x >>= f) := by
  intro source
  obtain ⟨k, hk, hx⟩ := hx source
  cases hrun : (x.run source).1 with
  | error err => exact ⟨k, Nat.le_add_right_of_le hk, hx.bind_error hrun⟩
  | ok a =>
    obtain ⟨l, hl, hf⟩ := hf a (source.skip k)
    exact ⟨k + l, Nat.add_le_add hk hl, hx.bind_ok hrun hf⟩

/-- A step that draws nothing adds no draws. This is the case of truth values that are read off a
value. -/
theorem bind_lift {y : Except ε α} (hf : ∀ a, DrawsAtMost n (f a)) :
    DrawsAtMost n (Fixtures.liftExcept y >>= f) :=
  Nat.zero_add n ▸ (liftExcept 0 y).bind hf

end DrawsAtMost

/-! ### Expressions -/

namespace Provider

namespace Expr

mutual

/-- The number of calls of `uuid` in an expression, wherever they stand. A call in a branch that is
not taken counts too. -/
def uuidCalls : Expr → Nat
  | text _ | int _ | bool _ | null | input _ => 0
  | call function arguments => (if function = .uuid then 1 else 0) + allUuidCalls arguments
  | property target _ => target.uuidCalls
  | method target _ arguments => target.uuidCalls + allUuidCalls arguments
  | index target position => target.uuidCalls + position.uuidCalls
  | not operand => operand.uuidCalls
  | binary _ left right => left.uuidCalls + right.uuidCalls
  | conditional condition yes no => condition.uuidCalls + yes.uuidCalls + no.uuidCalls

/-- The number of calls of `uuid` in some expressions. -/
def allUuidCalls : List Expr → Nat
  | [] => 0
  | e :: es => e.uuidCalls + allUuidCalls es

end

end Expr

/-- Of the built-ins only `uuid` draws, one UUID a call. -/
theorem drawsAtMost_callBuiltin (function : Builtin) (arguments : List Value) :
    DrawsAtMost (if function = .uuid then 1 else 0) (callBuiltin function arguments) := by
  cases function with
  | uuid => exact DrawsAtMost.drawUuid.bind fun u => .pure 0 _
  | quote | str =>
    cases arguments with
    | nil => exact .throw _ _
    | cons v rest => exact .pure _ _
  | constantName =>
    cases arguments with
    | nil => exact .throw _ _
    | cons v rest => exact .liftExcept _ _

mutual

/-- An expression draws at most as often as it calls `uuid`. Its parts are evaluated one after
another, and each at most once, so the bounds of the parts add up. -/
theorem drawsAtMost_evaluate (scope : Scope) :
    ∀ e : Expr, DrawsAtMost e.uuidCalls (evaluate scope e)
  | .text s => by rw [evaluate]; exact .pure _ _
  | .int n => by rw [evaluate]; exact .pure _ _
  | .bool b => by rw [evaluate]; exact .pure _ _
  | .null => by rw [evaluate]; exact .pure _ _
  | .input which => by rw [evaluate]; exact .pure _ _
  | .call function arguments => by
    -- The arguments come first, and the call itself draws last.
    rw [evaluate, Expr.uuidCalls, Nat.add_comm]
    exact (drawsAtMost_evaluateAll scope arguments).bind (drawsAtMost_callBuiltin function)
  | .property target p => by
    rw [evaluate]
    exact (drawsAtMost_evaluate scope target).bind fun v => .liftExcept 0 _
  | .method target m arguments => by
    rw [evaluate]
    exact (drawsAtMost_evaluate scope target).bind fun v =>
      (drawsAtMost_evaluateAll scope arguments).bind fun values => .liftExcept 0 _
  | .index target position => by
    rw [evaluate]
    exact (drawsAtMost_evaluate scope target).bind fun v =>
      (drawsAtMost_evaluate scope position).bind fun i => .liftExcept 0 _
  | .not operand => by
    rw [evaluate]
    exact (drawsAtMost_evaluate scope operand).bind fun v => .bind_lift fun b => .pure 0 _
  | .binary operator left right => by
    have hleft := drawsAtMost_evaluate scope left
    have hright := drawsAtMost_evaluate scope right
    cases operator with
    -- The right operand may be left out: then its calls are a bound all the same.
    | and =>
      rw [evaluate]
      refine hleft.bind fun l => .bind_lift fun b => ?_
      split
      · exact hright.bind fun r => .bind_lift fun b' => .pure 0 _
      · exact .pure _ _
    | or =>
      rw [evaluate]
      refine hleft.bind fun l => .bind_lift fun b => ?_
      split
      · exact .pure _ _
      · exact hright.bind fun r => .bind_lift fun b' => .pure 0 _
    | equal =>
      rw [evaluate]
      exact hleft.bind fun l => hright.bind fun r => .pure 0 _
    | notEqual =>
      rw [evaluate]
      exact hleft.bind fun l => hright.bind fun r => .pure 0 _
    | add =>
      rw [evaluate]
      exact hleft.bind fun l => hright.bind fun r => .liftExcept 0 _
  | .conditional condition yes no => by
    rw [evaluate, Expr.uuidCalls, Nat.add_assoc]
    -- Only one of the branches is evaluated, whichever the condition picks.
    refine (drawsAtMost_evaluate scope condition).bind fun v => .bind_lift fun b => ?_
    split
    · exact (drawsAtMost_evaluate scope yes).mono (Nat.le_add_right _ _)
    · exact (drawsAtMost_evaluate scope no).mono (Nat.le_add_left _ _)

/-- Expressions draw at most as often as they call `uuid`. -/
theorem drawsAtMost_evaluateAll (scope : Scope) :
    ∀ es : List Expr, DrawsAtMost (Expr.allUuidCalls es) (evaluateAll scope es)
  | [] => by rw [evaluateAll]; exact .pure _ _
  | e :: es => by
    rw [evaluateAll]
    exact (drawsAtMost_evaluate scope e).bind fun v =>
      (drawsAtMost_evaluateAll scope es).bind fun vs => .pure 0 _

end

/-- A provider draws at most as often as its expression calls `uuid`. -/
theorem drawsAtMost_provide (p : Provider) (scope : Scope) :
    DrawsAtMost p.body.uuidCalls (p.provide scope) :=
  (drawsAtMost_evaluate scope p.body).bind fun _ => .pure 0 _

/-- An evaluation, failed or not, takes the next `k` UUIDs of its source, where `k` is at most the
number of calls of `uuid`. On a source with the same next `k` UUIDs it has the same result and takes
`k` as well. -/
theorem exists_le_uuidCalls_evaluate (scope : Scope) (e : Expr) (source : UuidSource) :
    ∃ k ≤ e.uuidCalls,
      ((evaluate scope e).run source).2 = { source with drawn := source.drawn + k } ∧
      ∀ other : UuidSource,
        (∀ j < k, other.stream (other.drawn + j) = source.stream (source.drawn + j)) →
          (evaluate scope e).run other =
            (((evaluate scope e).run source).1, { other with drawn := other.drawn + k }) := by
  obtain ⟨k, hk, hconsumes⟩ := drawsAtMost_evaluate scope e source
  exact ⟨k, hk, hconsumes.leaves, hconsumes.run_eq⟩

/-- The call in an operand that is left out counts for the bound, and draws nothing. -/
example (scope : Scope) (source : UuidSource) :
    ((evaluate scope (.binary .and (.bool false) (.call .uuid []))).run source).2 = source := rfl

end Provider

end Fixtures
