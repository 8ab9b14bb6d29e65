import Fixtures.Proofs.Engine.Slots
import Fixtures.Proofs.Expansion
import Fixtures.Proofs.Failures

/-!
# `Fixtures.Proofs.Endless`: resolutions and runs without an answer

A resolution may go on without end (`Fixtures.Proofs.Expansion`), and then nothing is returned:
neither a type nor an error. `ofRef` stops after two expansions inside each other and says `endless`
there. Two things show that this word is never put in the place of an answer, and never left out:

* more expansions make no difference (`ofRefWith_expandDefaults`). So `ofRef` says `endless` exactly
  where no number of expansions is enough (`ofRef_eq_endless_iff`). The step is that the default
  arguments of the root object type either have an answer with one expansion, which then stays, or
  run into themselves again and have none with any number;
* where the calls of resolutions end, there is always an answer (`ofRef_ne_endless`), by induction
  along the calls.

A run resolves the first request for each type, one after another. If one of these resolutions has
no end the run has none, and no request gets an outcome. `Engine.Returns` says that this is not so,
and `Report.IsAnswered` says it of a report. Statements that there is an outcome are about runs that
return.
-/

set_option autoImplicit false

namespace Fixtures

open TypeRef (Occurs objectName)

namespace TypeMetadata

variable {c : Catalog} {d : TypeDescription} {t : TypeRef} {depth : Nat}

/-! ### More than two expansions -/

/-- With one expansion the root object type has the answer that it has with any number of them. It
is the only type that default arguments use raw, so its own expansion leads to nothing but itself,
and what one expansion does not end no further one does. -/
theorem expandDefaults_object (hget : c.get? objectName = some d) (depth : Nat) :
    expandDefaults c (depth + 1) d = expandDefaults c 1 d := by
  induction depth with
  | zero => rfl
  | succ depth ih =>
    rcases extends_expandDefaults c (depth + 1) d with hend | heq
    · -- No answer so far. The next expansion finds in itself just what this one has found.
      have hnone : expandDefaults c 1 d = expandDefaults c 0 d := by
        rw [← ih, hend]
        rfl
      have hagree : ofRefsWith c (expandDefaults c (depth + 1)) (c.defaultArguments d)
          = ofRefsWith c (expandDefaults c 0) (c.defaultArguments d) := by
        refine ofRefsWith_defaultArguments_congr fun _ _ _ d' hget' => ?_
        obtain rfl := Option.some.inj (hget.symm.trans hget')
        rw [ih, hnone]
      rw [expandDefaults_succ, hagree, ← expandDefaults_succ]
    · exact heq.symm.trans ih

/-- With two expansions every description has the answer that it has with any greater number: the
second one is that of the root object type, for which one is enough. -/
theorem expandDefaults_stable (d : TypeDescription) (depth : Nat) :
    expandDefaults c (depth + 2) d = expandDefaults c 2 d := by
  rw [expandDefaults_succ, expandDefaults_succ]
  have hagree : ofRefsWith c (expandDefaults c (depth + 1)) (c.defaultArguments d)
      = ofRefsWith c (expandDefaults c 1) (c.defaultArguments d) :=
    ofRefsWith_defaultArguments_congr fun _ _ _ _ hget => expandDefaults_object hget depth
  rw [hagree]

/-- More than two expansions inside each other make no difference. -/
theorem ofRefWith_expandDefaults (h : 2 ≤ depth) (t : TypeRef) :
    ofRefWith c (expandDefaults c depth) t = ofRef c t := by
  obtain ⟨more, rfl⟩ := Nat.exists_eq_add_of_le' h
  have hexpand : expandDefaults c (more + 2) = expandDefaults c 2 :=
    funext fun d => expandDefaults_stable d more
  rw [hexpand, ofRef]

/-- A type has no answer exactly when it has none with any number of expansions. So `endless` is
said in the right places: it stands for no answer that a longer search would find. -/
theorem ofRef_eq_endless_iff :
    ofRef c t = .error .endless ↔
      ∀ depth, ofRefWith c (expandDefaults c depth) t = .error .endless := by
  constructor
  · intro hend depth
    -- An answer with fewer expansions would stay the answer with two of them.
    have hmore : ∀ more, Approximates (ofRefWith c (expandDefaults c depth) t)
        (ofRefWith c (expandDefaults c (depth + more)) t) := fun more => by
      induction more with
      | zero => exact .refl _
      | succ more ih =>
        rcases ih with hnone | heq
        · exact .inl hnone
        · rw [heq]
          exact ofRefWith_mono (extends_expandDefaults c _) t
    rcases hmore 2 with hnone | heq
    · exact hnone
    · rw [heq, ofRefWith_expandDefaults (Nat.le_add_left 2 depth), hend]
  · exact fun h => h 2

/-- A root object type without a bound stands for an object of objects of objects, and so on. -/
example : ofRef endless Catalog.object = .error .endless := rfl

/-! ### Where there is an answer -/

/-- One call fails for the number of the arguments, or as the calls that it makes. It invents no
error of its own, and `endless` least of all. -/
theorem failsWith_resolveStep {P : FixtureError → Prop}
    (harity : ∀ name declared supplied, P (.arity name declared supplied))
    {resolve : TypeRef → Except FixtureError TypeMetadata}
    (h : ∀ u, Calls c t u → FailsWith P (resolve u)) : FailsWith P (resolveStep c resolve t) := by
  cases t with
  | primitive kind => exact .ok _
  | array component => exact (h component .component).bind fun _ => .ok _
  | parameter name => exact h _ .parameter
  | declared name arguments =>
    rw [resolveStep]
    cases hget : c.get? name with
    | none => exact (FailsWith.mapM fun u hu => h u (.argument hu)).bind fun _ => .ok _
    | some d =>
      dsimp only
      split
      · exact .error (harity _ _ _)
      · refine (FailsWith.mapM fun u hu => h u ?_).bind fun _ => .ok _
        split at hu
        · next hnil =>
          subst hnil
          exact .default hget hu
        · exact .argument hu

/-- Every type has an answer where the default arguments of the root object type do not use it raw.
The induction is along the calls, which end there. -/
theorem ofRef_ne_endless (hends : c.ObjectEnds) (t : TypeRef) :
    FailsWith (· ≠ .endless) (ofRef c t) := by
  induction t using (wellFounded_calls_iff.mpr hends).induction with
  | _ t ih =>
    rw [ofRef_eq_resolveStep hends t]
    exact failsWith_resolveStep (fun _ _ _ => by simp) ih

end TypeMetadata

/-- So has every request: its model takes a look at the catalog, one type of its own and one for
each field. -/
theorem Model.resolve_ne_endless {c : Catalog} (hends : c.ObjectEnds) (request : Request) :
    Model.resolve c request ≠ .error .endless := fun h =>
  failsWith_resolve (P := (· ≠ .endless)) (fun _ => by simp) (fun _ _ _ => by simp)
    (TypeMetadata.ofRef_ne_endless hends) request _ h rfl

/-! ### Runs -/

/-- Every request of a report has an answer. A report in which one has none stands for no report:
the run goes on without end and returns nothing for any of its requests. -/
def Report.IsAnswered (r : Report) : Prop := ∀ o ∈ r.outcomes, o.result ≠ .error .endless

namespace Engine

/-- A run of the requests comes to an end: no request that it resolves is one without an answer.
Requests for a type that was seen are not resolved again, and so they do not count. -/
def Returns (e : Engine) (requests : List Request) : Prop :=
  ∀ p ∈ e.prepare [] requests, p.2 ≠ .error .endless

variable {e : Engine} {requests : List Request}

/-- A prepared request is one for a type that was seen, or has the result of its resolution. -/
theorem eq_of_mem_prepare_error {seen : List String} {q : Request} {err : FixtureError}
    (h : (q, .error err) ∈ e.prepare seen requests) :
    err = .duplicateRequest q.typeName ∨ Model.resolve e.catalog q = .error err := by
  induction requests generalizing seen with
  | nil => cases h
  | cons q' rest ih =>
    rw [prepare] at h
    rcases List.mem_cons.mp h with hfirst | hrest
    · obtain ⟨rfl, hmade⟩ := Prod.mk.inj hfirst
      split at hmade
      · exact .inl (Except.error.inj hmade)
      · exact .inr hmade.symm
    · exact ih hrest

/-- A run returns if every request has an answer. Some requests may be turned away before they are
resolved, so this is more than is needed. -/
theorem returns_of_resolve (h : ∀ q ∈ requests, Model.resolve e.catalog q ≠ .error .endless) :
    e.Returns requests := by
  rintro ⟨q, made⟩ hmem rfl
  have hq : q ∈ requests := by
    rw [← map_fst_prepare e [] requests]
    exact List.mem_map_of_mem hmem
  rcases eq_of_mem_prepare_error hmem with hrepeated | hend
  · cases hrepeated
  · exact h q hq hend

/-- All runs return where the default arguments of the root object type do not use it raw. That is
so wherever the catalog does not describe this type with type parameters. -/
theorem returns_of_objectEnds (hends : e.catalog.ObjectEnds) (requests : List Request) :
    e.Returns requests :=
  returns_of_resolve fun q _ => Model.resolve_ne_endless hends q

end Engine

end Fixtures
