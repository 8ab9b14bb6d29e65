/-!
# `Fixtures.Text.Reading`: what a reader returns

A reader takes something from the front of a list and hands back the rest. The rest is never
longer than the list, and a `Reading` carries the proof, so that a reader that calls itself on
what another one left over is well-founded without a bound on its steps.
-/

set_option autoImplicit false

namespace Fixtures

/-- A value read from the front of `s`, and the rest of `s`. -/
structure Reading {τ : Type} (s : List τ) (α : Type) where
  value : α
  rest : List τ
  rest_le : rest.length ≤ s.length

namespace Reading

variable {τ α β : Type}

/-- A value that takes nothing. -/
def here {s : List τ} (value : α) : Reading s α :=
  ⟨value, s, Nat.le_refl _⟩

/-- A value that takes the first item. -/
def next {c : τ} {s : List τ} (value : α) : Reading (c :: s) α :=
  ⟨value, s, Nat.le_succ _⟩

/-- The same value and rest, seen from a longer list. -/
def widen {s t : List τ} (r : Reading s α) (h : s.length ≤ t.length) : Reading t α :=
  ⟨r.value, r.rest, Nat.le_trans r.rest_le h⟩

/-- The same value and rest, seen from a list with one more item in front. -/
def after {c : τ} {s : List τ} (r : Reading s α) : Reading (c :: s) α :=
  r.widen (Nat.le_succ _)

/-- Another value with the same rest. -/
def map {s : List τ} (f : α → β) (r : Reading s α) : Reading s β :=
  ⟨f r.value, r.rest, r.rest_le⟩

@[simp] theorem value_widen {s t : List τ} (r : Reading s α) (h : s.length ≤ t.length) :
    (r.widen h).value = r.value := rfl

@[simp] theorem rest_widen {s t : List τ} (r : Reading s α) (h : s.length ≤ t.length) :
    (r.widen h).rest = r.rest := rfl

@[simp] theorem value_here {s : List τ} (value : α) :
    (here value : Reading s α).value = value := rfl

@[simp] theorem rest_here {s : List τ} (value : α) : (here value : Reading s α).rest = s := rfl

@[simp] theorem value_next {c : τ} {s : List τ} (value : α) :
    (next value : Reading (c :: s) α).value = value := rfl

@[simp] theorem rest_next {c : τ} {s : List τ} (value : α) :
    (next value : Reading (c :: s) α).rest = s := rfl

@[simp] theorem value_after {c : τ} {s : List τ} (r : Reading s α) :
    (r.after : Reading (c :: s) α).value = r.value := rfl

@[simp] theorem rest_after {c : τ} {s : List τ} (r : Reading s α) :
    (r.after : Reading (c :: s) α).rest = r.rest := rfl

@[simp] theorem value_map {s : List τ} (f : α → β) (r : Reading s α) :
    (r.map f).value = f r.value := rfl

@[simp] theorem rest_map {s : List τ} (f : α → β) (r : Reading s α) : (r.map f).rest = r.rest := rfl

end Reading

/-- Dropping from the front makes no list longer. -/
theorem length_dropWhile_le {τ : Type} (p : τ → Bool) (s : List τ) :
    (s.dropWhile p).length ≤ s.length := by
  induction s with
  | nil => simp
  | cons c s ih =>
    rw [List.dropWhile_cons]
    split
    · exact Nat.le_succ_of_le ih
    · exact Nat.le_refl _

end Fixtures
