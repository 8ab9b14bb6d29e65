import Fixtures.Uuid.Source
import Mathlib.Data.List.Forall2

/-!
# `Fixtures.Proofs.Failing`: computations that may fail, step by step

Generation is written in `Except` and in `Drawing`. The lemmas here take a sequence of steps that
has succeeded apart into its steps (`bind_eq_ok_iff`, `run_bind_eq_ok_iff`). For `Drawing` they
tell from which source each step draws. `FailsWith` says of which kind the errors are, and is put
together in the same way from what it says of the steps.
-/

set_option autoImplicit false

namespace Fixtures

variable {ε ε' α β : Type}

/-! ### Without drawing -/

/-- Two steps succeed when the second one does on what the first one gives. -/
theorem bind_eq_ok_iff {x : Except ε α} {f : α → Except ε β} {b : β} :
    x >>= f = .ok b ↔ ∃ a, x = .ok a ∧ f a = .ok b := by
  cases x with
  | error err =>
    constructor
    · intro h
      cases h
    · rintro ⟨a, h, -⟩
      cases h
  | ok a =>
    constructor
    · exact fun h => ⟨a, rfl, h⟩
    · rintro ⟨a', h, hf⟩
      cases h
      exact hf

/-- An error is not made a success by another error in its place. -/
theorem mapError_eq_ok_iff {x : Except ε α} {f : ε → ε'} {a : α} :
    x.mapError f = .ok a ↔ x = .ok a := by
  cases x with
  | error err =>
    constructor
    · intro h
      cases h
    · intro h
      cases h
  | ok a' =>
    constructor
    · intro h
      cases h
      rfl
    · intro h
      cases h
      rfl

/-- A failure stays one whatever is made of a success. -/
theorem map_eq_error_iff {x : Except ε α} {f : α → β} {err : ε} :
    x.map f = .error err ↔ x = .error err := by
  cases x with
  | error err' =>
    constructor
    · intro h
      cases h
      rfl
    · intro h
      cases h
      rfl
  | ok a =>
    constructor
    · intro h
      cases h
    · intro h
      cases h

/-- Two steps give the same up to `g` when the first steps do up to `k` and the second steps do on
what is the same up to `k`. -/
theorem map_bind_congr {γ δ : Type} {x x' : Except ε α} {f f' : α → Except ε β} {g : β → γ}
    {k : α → δ} (hx : x'.map k = x.map k)
    (h : ∀ a a', k a' = k a → (f' a').map g = (f a).map g) :
    (x' >>= f').map g = (x >>= f).map g := by
  cases x with
  | error err =>
    cases x' with
    | error err' =>
      cases hx
      rfl
    | ok a' => cases hx
  | ok a =>
    cases x' with
    | error err' => cases hx
    | ok a' => exact h a a' (Except.ok.inj hx)

/-- A result is an option with what a success gives. -/
theorem toOption_eq_some_iff {x : Except ε α} {a : α} : x.toOption = some a ↔ x = .ok a := by
  cases x <;> simp [Except.toOption]

/-- Each item of a list is related to one of the list that it is related to item by item. -/
theorem exists_of_mem_left {R : α → β → Prop} {items : List α} {results : List β} {item : α}
    (h : List.Forall₂ R items results) (hitem : item ∈ items) : ∃ b ∈ results, R item b := by
  induction h with
  | nil => cases hitem
  | cons hfirst _ ih =>
    rcases List.mem_cons.mp hitem with rfl | hitem
    · exact ⟨_, List.mem_cons_self, hfirst⟩
    · obtain ⟨b, hb, hR⟩ := ih hitem
      exact ⟨b, List.mem_cons_of_mem _ hb, hR⟩

/-- The same from the other list. -/
theorem exists_of_mem_right {R : α → β → Prop} {items : List α} {results : List β} {b : β}
    (h : List.Forall₂ R items results) (hb : b ∈ results) : ∃ item ∈ items, R item b :=
  exists_of_mem_left h.flip hb

/-- There is a list that is related item by item when each item is related to something. -/
theorem exists_forall₂_iff {R : α → β → Prop} {items : List α} :
    (∃ results, List.Forall₂ R items results) ↔ ∀ item ∈ items, ∃ b, R item b := by
  constructor
  · rintro ⟨results, h⟩ item hitem
    obtain ⟨b, -, hb⟩ := exists_of_mem_left h hitem
    exact ⟨b, hb⟩
  · intro h
    induction items with
    | nil => exact ⟨[], .nil⟩
    | cons item rest ih =>
      obtain ⟨b, hb⟩ := h item List.mem_cons_self
      obtain ⟨more, hmore⟩ := ih fun item' hitem' => h item' (List.mem_cons_of_mem _ hitem')
      exact ⟨b :: more, .cons hb hmore⟩

/-- A step on each item succeeds with these results when each result is that of its item. -/
theorem mapM_eq_ok_iff {f : α → Except ε β} {items : List α} {results : List β} :
    items.mapM f = .ok results ↔ List.Forall₂ (fun item b => f item = .ok b) items results := by
  induction items generalizing results with
  | nil =>
    rw [List.mapM_nil, List.forall₂_nil_left_iff]
    constructor
    · intro h
      cases h
      rfl
    · rintro rfl
      rfl
  | cons item rest ih =>
    rw [List.mapM_cons, bind_eq_ok_iff, List.forall₂_cons_left_iff]
    constructor
    · rintro ⟨b, hb, h⟩
      obtain ⟨more, hmore, h⟩ := bind_eq_ok_iff.mp h
      cases h
      exact ⟨b, more, hb, ih.mp hmore, rfl⟩
    · rintro ⟨b, more, hb, hmore, rfl⟩
      exact ⟨b, hb, bind_eq_ok_iff.mpr ⟨more, ih.mpr hmore, rfl⟩⟩

/-- Steps that do the same on all items give the same results. -/
theorem mapM_congr {f g : α → Except ε β} {items : List α} (h : ∀ item ∈ items, f item = g item) :
    items.mapM f = items.mapM g := by
  induction items with
  | nil => rfl
  | cons item rest ih =>
    rw [List.mapM_cons, List.mapM_cons, h item List.mem_cons_self,
      ih fun i hi => h i (List.mem_cons_of_mem _ hi)]

/-- Each of the results is the result of an item. -/
theorem exists_of_mem_mapM {f : α → Except ε β} {items : List α} {results : List β} {b : β}
    (h : items.mapM f = .ok results) (hb : b ∈ results) : ∃ item ∈ items, f item = .ok b :=
  exists_of_mem_right (R := fun item b => f item = .ok b) (mapM_eq_ok_iff.mp h) hb

/-- A step that may give nothing gives these results on items when each is that of its item. -/
theorem mapM_eq_some_iff {f : α → Option β} {items : List α} {results : List β} :
    items.mapM f = some results ↔ List.Forall₂ (fun item b => f item = some b) items results := by
  induction items generalizing results with
  | nil =>
    rw [List.mapM_nil, List.forall₂_nil_left_iff]
    exact ⟨fun h => (Option.some.inj h).symm, fun h => h ▸ rfl⟩
  | cons item rest ih =>
    rw [List.forall₂_cons_left_iff]
    simp only [List.mapM_cons, Option.bind_eq_bind, Option.bind_eq_some_iff, Option.pure_def,
      Option.some.injEq, ih]
    constructor
    · rintro ⟨b, hb, more, hmore, rfl⟩
      exact ⟨b, more, hb, hmore, rfl⟩
    · rintro ⟨b, more, hb, hmore, rfl⟩
      exact ⟨b, hb, more, hmore, rfl⟩

/-- A step that may give nothing gives results on items when it gives one on each. -/
theorem exists_mapM_eq_some_iff {f : α → Option β} {items : List α} :
    (∃ results, items.mapM f = some results) ↔ ∀ item ∈ items, f item ≠ none := by
  simp only [mapM_eq_some_iff, exists_forall₂_iff, Option.ne_none_iff_exists']

/-- A check of each item succeeds when the check of every item does. -/
theorem forM_eq_ok_iff {f : α → Except ε Unit} {items : List α} :
    items.forM f = .ok () ↔ ∀ item ∈ items, f item = .ok () := by
  induction items with
  | nil => exact ⟨fun _ item hitem => absurd hitem List.not_mem_nil, fun _ => rfl⟩
  | cons item rest ih =>
    rw [List.forall_mem_cons, ← ih]
    show (f item >>= fun _ => rest.forM f) = .ok () ↔ _
    rw [bind_eq_ok_iff]
    exact ⟨fun ⟨_, hitem, hrest⟩ => ⟨hitem, hrest⟩, fun ⟨hitem, hrest⟩ => ⟨(), hitem, hrest⟩⟩

/-- Folds with steps that do the same on all items do the same. -/
theorem foldlM_congr {μ : Type → Type} [Monad μ] {f g : β → α → μ β} {items : List α}
    (h : ∀ b, ∀ item ∈ items, f b item = g b item) (b : β) :
    items.foldlM f b = items.foldlM g b := by
  induction items generalizing b with
  | nil => rfl
  | cons item rest ih =>
    rw [List.foldlM_cons, List.foldlM_cons, h b item List.mem_cons_self]
    exact congrArg _ (funext fun next => ih (fun b i hi => h b i (List.mem_cons_of_mem _ hi)) next)

/-! ### Errors -/

/-- If the computation fails, it is with an error of this kind. It says nothing of a computation
that does not fail. -/
def FailsWith (P : ε → Prop) (x : Except ε α) : Prop := ∀ err, x = .error err → P err

namespace FailsWith

variable {P : ε → Prop}

/-- A success is no failure. -/
theorem ok (a : α) : FailsWith P (.ok a : Except ε α) := fun _ h => by cases h

/-- An error of the kind. -/
theorem error {err : ε} (h : P err) : FailsWith P (.error err : Except ε α) := fun _ h' => by
  cases h'
  exact h

/-- Of two steps the first one or the second one fails. -/
theorem bind {x : Except ε α} {f : α → Except ε β} (hx : FailsWith P x)
    (hf : ∀ a, FailsWith P (f a)) : FailsWith P (x >>= f) := by
  cases x with
  | error err => exact error (hx err rfl)
  | ok a => exact hf a

/-- Errors are put in the place of others. -/
theorem mapError {x : Except ε' α} {g : ε' → ε} (h : ∀ err, P (g err)) :
    FailsWith P (x.mapError g) := by
  cases x with
  | error err => exact error (h err)
  | ok a => exact ok a

/-- A failure stays the same whatever is made of a success. -/
theorem map {x : Except ε α} (hx : FailsWith P x) (g : α → β) : FailsWith P (x.map g) :=
  fun err h => hx err (map_eq_error_iff.mp h)

/-- A step on each item fails when one of the steps does. -/
theorem mapM {f : α → Except ε β} {items : List α} (hf : ∀ a ∈ items, FailsWith P (f a)) :
    FailsWith P (items.mapM f) := by
  induction items with
  | nil =>
    rw [List.mapM_nil]
    exact ok _
  | cons item rest ih =>
    rw [List.mapM_cons]
    have hrest := ih fun a ha => hf a (List.mem_cons_of_mem _ ha)
    exact (hf item List.mem_cons_self).bind fun b => hrest.bind fun bs => ok _

/-- A fold fails when one of its steps does. -/
theorem foldlM {f : β → α → Except ε β} (hf : ∀ b a, FailsWith P (f b a)) (b : β)
    (items : List α) : FailsWith P (items.foldlM f b) := by
  induction items generalizing b with
  | nil => exact ok b
  | cons item rest ih =>
    rw [List.foldlM_cons]
    exact (hf b item).bind fun next => ih next

end FailsWith

/-! ### Results -/

/-- If the computation succeeds, it is with a result of this kind. It says nothing of a computation
that fails. -/
def SucceedsWith (P : α → Prop) (x : Except ε α) : Prop := ∀ a, x = .ok a → P a

namespace SucceedsWith

variable {P : β → Prop} {Q : α → Prop}

/-- A result of the kind. -/
theorem ok {a : α} (h : Q a) : SucceedsWith Q (.ok a : Except ε α) := fun _ h' => by
  cases h'
  exact h

/-- Nothing is asked of the result. -/
theorem trivial (x : Except ε α) : SucceedsWith (fun _ => True) x := fun _ _ => ⟨⟩

/-- A failure is no success. -/
theorem error (err : ε) : SucceedsWith Q (.error err : Except ε α) := fun _ h => by cases h

/-- Of two steps the second one gives the result. -/
theorem bind {x : Except ε α} {f : α → Except ε β} (hf : ∀ a, SucceedsWith P (f a)) :
    SucceedsWith P (x >>= f) := by
  intro b h
  obtain ⟨a, -, hb⟩ := bind_eq_ok_iff.mp h
  exact hf a b hb

/-- What is made of every success is of the kind. -/
theorem map {x : Except ε α} {g : α → β} (h : ∀ a, P (g a)) : SucceedsWith P (x.map g) := by
  cases x with
  | error err => exact error err
  | ok a => exact ok (h a)

end SucceedsWith

/-! ### With drawing -/

/-- The second of two steps goes on from the source that the first one leaves. -/
theorem run_bind_drawing (x : Drawing ε α) (f : α → Drawing ε β) (source : UuidSource) :
    (x >>= f).run source = match x.run source with
      | (.ok a, after) => (f a).run after
      | (.error err, after) => (.error err, after) := by
  show (ExceptT.run x >>= ExceptT.bindCont f) source = _
  show ExceptT.bindCont f (x.run source).1 (x.run source).2 = _
  rcases x.run source with ⟨_ | a, after⟩
  · rfl
  · rfl

/-- What a computation gives can be changed before it is lifted or after it. -/
theorem liftExcept_map (x : Except ε α) (g : α → β) :
    (liftExcept (x.map g) : Drawing ε β) = g <$> liftExcept x := by
  cases x with
  | error err => rfl
  | ok a => rfl

/-- A step that draws nothing leaves the source as it is. -/
theorem run_liftExcept (x : Except ε α) (source : UuidSource) :
    (liftExcept x).run source = (x, source) := by
  cases x <;> rfl

/-- A step that draws nothing succeeds as it does without drawing, and leaves the source. -/
theorem run_liftExcept_eq_ok_iff {x : Except ε α} {source final : UuidSource} {a : α} :
    (liftExcept x).run source = (.ok a, final) ↔ x = .ok a ∧ source = final := by
  rw [run_liftExcept]
  exact Prod.mk.injEq .. ▸ Iff.rfl

/-- A change of what a step gives draws nothing. -/
theorem run_map_drawing (g : α → β) (x : Drawing ε α) (source : UuidSource) :
    (g <$> x).run source = ((x.run source).1.map g, (x.run source).2) := by
  rw [← bind_pure_comp, run_bind_drawing]
  rcases x.run source with ⟨_ | a, after⟩
  · rfl
  · rfl

/-- Two steps succeed and leave a source when the second one does from what the first one gives and
leaves. -/
theorem run_bind_eq_ok_pair_iff {x : Drawing ε α} {f : α → Drawing ε β} {source final : UuidSource}
    {b : β} : (x >>= f).run source = (.ok b, final) ↔
      ∃ a after, x.run source = (.ok a, after) ∧ (f a).run after = (.ok b, final) := by
  rw [run_bind_drawing]
  rcases x.run source with ⟨err | a, after⟩
  · constructor
    · intro h
      cases h
    · rintro ⟨a, after', h, -⟩
      cases h
  · constructor
    · exact fun h => ⟨a, after, rfl, h⟩
    · rintro ⟨a', after', h, hf⟩
      cases h
      exact hf

/-- Two steps succeed when the second one does on what the first one gives. -/
theorem run_bind_eq_ok_iff {x : Drawing ε α} {f : α → Drawing ε β} {source : UuidSource} {b : β} :
    ((x >>= f).run source).1 = .ok b ↔
      ∃ a after, x.run source = (.ok a, after) ∧ ((f a).run after).1 = .ok b := by
  constructor
  · intro h
    obtain ⟨a, after, hx, hf⟩ := run_bind_eq_ok_pair_iff.mp (Prod.ext h rfl)
    exact ⟨a, after, hx, congrArg Prod.fst hf⟩
  · rintro ⟨a, after, hx, hf⟩
    exact congrArg Prod.fst (run_bind_eq_ok_pair_iff.mpr ⟨a, after, hx, Prod.ext hf rfl⟩)

namespace FailsWith

variable {P : ε → Prop}

/-- Of two steps that may draw the first one fails, or the second one on what the first one gives
and leaves. -/
theorem run_bind_of_eq_ok {x : Drawing ε α} {f : α → Drawing ε β} {source : UuidSource}
    (hx : FailsWith P (x.run source).1)
    (hf : ∀ a after, x.run source = (.ok a, after) → FailsWith P ((f a).run after).1) :
    FailsWith P ((x >>= f).run source).1 := by
  rw [run_bind_drawing]
  rcases hrun : x.run source with ⟨err | a, after⟩
  · exact error (hx err (congrArg (·.1) hrun))
  · exact hf a after hrun

/-- Of two steps that may draw the first one or the second one fails. -/
theorem run_bind {x : Drawing ε α} {f : α → Drawing ε β}
    (hx : ∀ source, FailsWith P (x.run source).1)
    (hf : ∀ a source, FailsWith P ((f a).run source).1) (source : UuidSource) :
    FailsWith P ((x >>= f).run source).1 :=
  run_bind_of_eq_ok (hx source) fun a after _ => hf a after

/-- A step that draws nothing fails as it does without drawing. -/
theorem run_liftExcept {x : Except ε α} (hx : FailsWith P x) (source : UuidSource) :
    FailsWith P ((liftExcept x).run source).1 := by
  rw [Fixtures.run_liftExcept]
  exact hx

end FailsWith

namespace SucceedsWith

variable {P : β → Prop} {Q : α → Prop}

/-- Of two steps that may draw the second one gives the result, from one of the first. -/
theorem run_bind {x : Drawing ε α} {f : α → Drawing ε β}
    (hx : ∀ source, SucceedsWith Q (x.run source).1)
    (hf : ∀ a, Q a → ∀ source, SucceedsWith P ((f a).run source).1) (source : UuidSource) :
    SucceedsWith P ((x >>= f).run source).1 := by
  intro b h
  obtain ⟨a, after, hrun, hb⟩ := run_bind_eq_ok_iff.mp h
  exact hf a (hx source a (congrArg Prod.fst hrun)) after b hb

/-- The same where nothing is asked of the first step, because the second one gives such a result
whatever it goes on with. -/
theorem run_bind_of_forall {x : Drawing ε α} {f : α → Drawing ε β}
    (hf : ∀ a source, SucceedsWith P ((f a).run source).1) (source : UuidSource) :
    SucceedsWith P ((x >>= f).run source).1 := by
  refine run_bind (fun _ => trivial _) ?_ source
  intro a _
  exact hf a

/-- A step that draws nothing succeeds as it does without drawing. -/
theorem run_liftExcept {x : Except ε α} (hx : SucceedsWith Q x) (source : UuidSource) :
    SucceedsWith Q ((liftExcept x).run source).1 := by
  rw [Fixtures.run_liftExcept]
  exact hx

end SucceedsWith

end Fixtures
