import Fixtures.Proofs.Endless
import Fixtures.Proofs.Engine.Comparison

/-!
# `Fixtures.Proofs.Engine.Requests`: the same requests in another order, and one request more

A run gets its requests as a list. These are the two ways in which a list may differ from another
one without a difference for the requests that are in both:

* the requests are the same, in another order (`run_perm`);
* there is one request more, for a type that no field of the others is of (`run_insert`). It need
  not succeed: it may be for an unknown type, with wrong arguments, or on a cycle. It only has to
  have an answer. A type that cannot be resolved in the end takes the run with it, and all others
  are without outcomes; `returns_insert_iff` says that this is the only way.

Only one thing may differ. A type on several shortest cycles is rejected for one of them, and which
one this is depends on the places of the passes. `run_perm_accounts` shows such a type.
-/

set_option autoImplicit false

namespace Fixtures.Engine

variable {e : Engine} {random : String → UuidSource} {seed : UInt64} {m : Model} {q : Request}
  {requests requests' before after : List Request}

/-- A field depends on the same type under targets that its type is one of, or under targets that
it is none of. No other target bears on it. -/
theorem dependency?_congr {targets targets' : List String} {fld : ModelField}
    (h : fld.resolved.qualifiedName ∈ targets ↔ fld.resolved.qualifiedName ∈ targets') :
    m.dependency? targets fld = m.dependency? targets' fld := by
  unfold Model.dependency? Model.target?
  simp only [List.contains_iff_mem, h]

/-! ### The same requests in another order -/

/-- Requests for different types, none of which was seen, are prepared with their models. So
without repetitions each request is prepared for itself. -/
theorem prepare_of_nodup {seen : List String} (hnodup : (requests.map (·.typeName)).Nodup)
    (hseen : ∀ q ∈ requests, q.typeName ∉ seen) :
    e.prepare seen requests = requests.map fun q => (q, Model.resolve e.catalog q) := by
  induction requests generalizing seen with
  | nil => rfl
  | cons q rest ih =>
    rw [List.map_cons, List.nodup_cons] at hnodup
    have hfirst : seen.contains q.typeName = false := by
      simpa using hseen q List.mem_cons_self
    rw [prepare, hfirst, ih hnodup.2 fun q' hq' => ?_]
    · rfl
    · rw [List.mem_cons, not_or]
      refine ⟨fun hsame => hnodup.1 ?_, hseen q' (List.mem_cons_of_mem _ hq')⟩
      exact List.mem_map.mpr ⟨q', hq', hsame⟩

/-- Of requests for different types each has a model that can be resolved. The order of the
requests does not occur in this. -/
theorem mem_models_iff_of_nodup (hnodup : (requests.map (·.typeName)).Nodup) :
    m ∈ e.models requests ↔ ∃ q ∈ requests, Model.resolve e.catalog q = .ok m := by
  rw [mem_models_iff, prepare_of_nodup hnodup (by simp)]
  simp only [List.mem_map, Prod.mk.injEq]
  constructor
  · rintro ⟨q, q', hq', rfl, hm⟩
    exact ⟨q', hq', hm⟩
  · rintro ⟨q, hq, hm⟩
    exact ⟨q, q, hq, rfl, hm⟩

/-- Of requests for different types each has the outcome that is found under its type. This is how
the outcomes of two runs are paired. -/
theorem outcome?_run {r : Registry} (hnodup : (requests.map (·.typeName)).Nodup) {q : Request}
    (hq : q ∈ requests) :
    (e.run random requests r).1.outcome? q.typeName = some
      ⟨q, result (e.decided random requests r) q (Model.resolve e.catalog q)⟩ := by
  have hfind := Registry.find?_eq_some_of_nodup hnodup hq
  rw [Report.outcome?, outcomes_run, prepare_of_nodup hnodup (by simp), List.map_map,
    List.find?_map]
  exact congrArg (Option.map _) hfind

/-- Requests in another order have the same models, and the same targets in another order. -/
theorem isPartOf_of_perm (hperm : requests.Perm requests')
    (hnodup : (requests.map (·.typeName)).Nodup) : e.IsPartOf requests requests' := by
  have hnodup' := (hperm.map (·.typeName)).nodup_iff.mp hnodup
  have hmodels : ∀ m, m ∈ e.models requests ↔ m ∈ e.models requests' := fun m => by
    simp only [mem_models_iff_of_nodup hnodup, mem_models_iff_of_nodup hnodup', hperm.mem_iff]
  constructor
  case models => exact fun m hm => (hmodels m).mp hm
  case closed => exact fun _ _ m' hm' _ => (hmodels m').mpr hm'
  case dependency =>
    refine fun m _ fld _ => dependency?_congr ?_
    simp only [targets, List.mem_append, (hperm.map (·.typeName)).mem_iff]

/-- With a seed the order of the requests for different types does not matter to a fresh engine:
each request has the same outcome, be it for another one of the shortest cycles through its type,
and the same summaries are published. Levels are decided by the dependencies and not by the order,
and each pass draws from a source of its own. -/
theorem run_perm (hseed : e.config.uuidSeed = some seed) (hperm : requests.Perm requests')
    (hnodup : (requests.map (·.typeName)).Nodup) (random random' : String → UuidSource) :
    (∀ q ∈ requests, ∃ o o',
      (e.run random requests .empty).1.outcome? q.typeName = some o ∧
        (e.run random' requests' .empty).1.outcome? q.typeName = some o' ∧
        o.request = q ∧ SameOutcome (e.waits requests) o o') ∧
      (e.run random requests .empty).2 = (e.run random' requests' .empty).2 := by
  have hpart := isPartOf_of_perm (e := e) hperm hnodup
  have hnodup' := (hperm.map (·.typeName)).nodup_iff.mp hnodup
  constructor
  · intro q hq
    -- Both outcomes are found under the type of the request.
    refine ⟨_, _, outcome?_run hnodup hq, outcome?_run hnodup' (hperm.mem_iff.mp hq), rfl, ?_⟩
    constructor
    case request => rfl
    case result =>
      cases hmodel : Model.resolve e.catalog q with
      | error err => exact .same (.error err)
      | ok m =>
        have hm := (mem_models_iff_of_nodup hnodup).mpr ⟨q, hq, hmodel⟩
        dsimp only
        exact hpart.sameResult_result hseed hm (Model.qualifiedName_of_resolve hmodel)
  · refine Registry.ext_get? fun key => ?_
    -- A type without a model has no entry in either run, and both have the same models.
    by_cases hkey : key ∈ (e.models requests).map (·.type.qualifiedName)
    · obtain ⟨m, hm, rfl⟩ := List.mem_map.mp hkey
      exact hpart.get?_run hseed hm
    · have hback := isPartOf_of_perm (e := e) hperm.symm hnodup'
      rw [get?_run_of_notMem hkey,
        get?_run_of_notMem fun hkey' => hkey (List.map_subset _ hback.models hkey')]

/-- The catalog: a customer is on one cycle with its cart and on another one with its wishlist, and
a receipt is on none. -/
def accounts : Catalog where
  types := ⟨[
    ("shop.Cart", shopClass "Cart" [shopField "customer" (.named "shop.Customer") []]),
    ("shop.Customer", shopClass "Customer" [shopField "cart" (.named "shop.Cart") [],
      shopField "wishlist" (.named "shop.Wishlist") []]),
    ("shop.Receipt", shopClass "Receipt" [shopField "total" (.primitive .int) []]),
    ("shop.Wishlist", shopClass "Wishlist" [shopField "customer" (.named "shop.Customer") []])],
    by decide⟩
  named := by decide

/-- The engine of the catalog of accounts. -/
def accountsEngine : Engine where
  catalog := accounts
  config := { uuidSeed := some 7 }
  defaults := .empty
  isValid := shopEngine.isValid
  isCompiled := rfl

/-- All accounts are requested, the carts before the wishlists. -/
def accountsRequests : List Request :=
  [⟨"shop.Customer", none⟩, ⟨"shop.Cart", none⟩, ⟨"shop.Wishlist", none⟩, ⟨"shop.Receipt", none⟩]

/-- The customer is rejected for the cycle with the cart, or for that with the wishlist when the
requests are reversed. The receipt has its fixture in both runs. -/
theorem run_perm_accounts :
    (∃ o o', (accountsEngine.run (fun _ => .ofSeed 0) accountsRequests .empty).1.outcome?
          "shop.Customer" = some o ∧
        (accountsEngine.run (fun _ => .ofSeed 1) accountsRequests.reverse .empty).1.outcome?
          "shop.Customer" = some o' ∧
        o.result = .error (.cycle ["shop.Customer", "shop.Cart", "shop.Customer"]) ∧
        o'.result = .error (.cycle ["shop.Customer", "shop.Wishlist", "shop.Customer"]) ∧
        SameOutcome (accountsEngine.waits accountsRequests) o o') ∧
      (accountsEngine.run (fun _ => .ofSeed 0) accountsRequests .empty).2.get? "shop.Receipt" =
        some ⟨"shop.Receipt", "shop.ReceiptFixture", ["TOTAL"], "createReceipt"⟩ ∧
      (accountsEngine.run (fun _ => .ofSeed 0) accountsRequests .empty).2 =
        (accountsEngine.run (fun _ => .ofSeed 1) accountsRequests.reverse .empty).2 := by
  obtain ⟨houtcomes, hregistry⟩ := run_perm (e := accountsEngine) rfl
    (List.reverse_perm accountsRequests).symm (by decide) (fun _ => .ofSeed 0) (fun _ => .ofSeed 1)
  refine ⟨?_, by decide +kernel, hregistry⟩
  obtain ⟨o, o', ho, ho', -, hsame⟩ := houtcomes ⟨"shop.Customer", none⟩ (by decide)
  have hcart : (((accountsEngine.run (fun _ => .ofSeed 0) accountsRequests .empty).1.outcome?
      "shop.Customer").map fun o => o.result.map (·.typeName)) =
      some (.error (.cycle ["shop.Customer", "shop.Cart", "shop.Customer"])) := by
    decide +kernel
  have hwishlist : (((accountsEngine.run (fun _ => .ofSeed 1) accountsRequests.reverse
      .empty).1.outcome? "shop.Customer").map fun o => o.result.map (·.typeName)) =
      some (.error (.cycle ["shop.Customer", "shop.Wishlist", "shop.Customer"])) := by
    decide +kernel
  rw [ho, Option.map_some, Option.some.injEq, map_eq_error_iff] at hcart
  rw [ho', Option.map_some, Option.some.injEq, map_eq_error_iff] at hwishlist
  exact ⟨o, o', ho, ho', hcart, hwishlist, hsame⟩

/-! ### One request more -/

/-- How requests are prepared depends on which of their types were seen, and neither on the order
of these nor on other types. -/
theorem prepare_congr {seen seen' : List String}
    (h : ∀ q ∈ requests, q.typeName ∈ seen ↔ q.typeName ∈ seen') :
    e.prepare seen requests = e.prepare seen' requests := by
  induction requests generalizing seen seen' with
  | nil => rfl
  | cons q rest ih =>
    have hfirst : seen.contains q.typeName = seen'.contains q.typeName := by
      rw [Bool.eq_iff_iff, List.contains_iff_mem, List.contains_iff_mem]
      exact h q List.mem_cons_self
    have hrest : e.prepare (q.typeName :: seen) rest = e.prepare (q.typeName :: seen') rest :=
      ih fun q' hq' => by simp only [List.mem_cons, h q' (List.mem_cons_of_mem _ hq')]
    rw [prepare, prepare, hfirst, hrest]

/-- Requests are prepared in two parts, the second part with the types of the first one seen. -/
theorem prepare_append (e : Engine) (seen : List String) (before after : List Request) :
    e.prepare seen (before ++ after)
      = e.prepare seen before ++ e.prepare (before.map (·.typeName) ++ seen) after := by
  induction before generalizing seen with
  | nil => rfl
  | cons q before ih =>
    have hseen : e.prepare (before.map (·.typeName) ++ q.typeName :: seen) after
        = e.prepare ((q :: before).map (·.typeName) ++ seen) after :=
      prepare_congr fun q' _ => List.perm_middle.mem_iff
    rw [List.cons_append, prepare, prepare, ih, hseen, List.cons_append]

/-- A request for a type that is not requested elsewhere is prepared with its model, and the others
as they are without it. -/
theorem exists_prepare_insert (hnew : q.typeName ∉ (before ++ after).map (·.typeName)) :
    ∃ first rest, first.length = before.length ∧
      e.prepare [] (before ++ after) = first ++ rest ∧
      e.prepare [] (before ++ q :: after) = first ++ (q, Model.resolve e.catalog q) :: rest := by
  rw [List.map_append, List.mem_append, not_or] at hnew
  refine ⟨_, _, ?_, prepare_append e [] before after, ?_⟩
  · exact (List.length_map _).symm.trans (congrArg List.length (map_fst_prepare e [] before))
  · -- The others are for other types, so it does not matter that the new type was seen.
    have hrest : e.prepare (q.typeName :: (before.map (·.typeName) ++ [])) after
        = e.prepare (before.map (·.typeName) ++ []) after := by
      refine prepare_congr fun q' hq' => ?_
      rw [List.mem_cons, or_iff_right]
      intro hsame
      exact hnew.2 (List.mem_map.mpr ⟨q', hq', hsame⟩)
    rw [prepare_append, prepare, hrest, if_neg (by simpa using hnew.1)]

/-- One request more has no effect on the models of the others. Its own model, if it has one, is
added to them. -/
theorem mem_models_insert_iff (hnew : q.typeName ∉ (before ++ after).map (·.typeName)) :
    m ∈ e.models (before ++ q :: after) ↔
      m ∈ e.models (before ++ after) ∨ Model.resolve e.catalog q = .ok m := by
  obtain ⟨first, rest, -, hwithout, hwith⟩ := exists_prepare_insert (e := e) hnew
  rw [models, models, hwithout, hwith, List.filterMap_append, List.filterMap_append,
    List.mem_append, List.mem_append, or_assoc, List.filterMap_cons]
  refine or_congr_right ?_
  cases Model.resolve e.catalog q with
  | error err => simp [Except.toOption]
  | ok m' =>
    simp only [Except.toOption, List.mem_cons, Except.ok.injEq]
    rw [or_comm, eq_comm]

/-- The models of the others are among those with one request more, if no field of them is of its
type. Then the new target is none of theirs, and the new model none that they wait for. -/
theorem isPartOf_insert (hnew : q.typeName ∉ (before ++ after).map (·.typeName))
    (hunused : ∀ m ∈ e.models (before ++ after), ∀ fld ∈ e.includedFields m,
      fld.resolved.qualifiedName ≠ q.typeName) :
    e.IsPartOf (before ++ after) (before ++ q :: after) := by
  constructor
  case models => exact fun m hm => (mem_models_insert_iff hnew).mpr (.inl hm)
  case dependency =>
    intro m hm fld hfld
    refine dependency?_congr ?_
    -- The type of the field is not the new one, so it is a target in both runs or in none.
    have hother := hunused m hm fld hfld
    simp [targets, hother]
  case closed =>
    intro m hm m' hm' hdep
    refine ((mem_models_insert_iff hnew).mp hm').resolve_right fun hq => ?_
    -- The model of the new request is of a type that no field is of.
    obtain ⟨fld, hfld, hdep⟩ := List.mem_filterMap.mp hdep
    refine hunused m hm fld hfld ?_
    rw [← Model.qualifiedName_of_resolve hq]
    exact (Model.target?_eq_some_iff.mp (Model.dependency?_eq_some_iff.mp hdep).2).1

/-- With one request more a run returns if it does without it, and the new request has an answer.
The errors of other kinds are answers. -/
theorem returns_insert_iff (hnew : q.typeName ∉ (before ++ after).map (·.typeName)) :
    e.Returns (before ++ q :: after) ↔
      e.Returns (before ++ after) ∧ Model.resolve e.catalog q ≠ .error .endless := by
  obtain ⟨first, rest, -, hwithout, hwith⟩ := exists_prepare_insert (e := e) hnew
  rw [Returns, Returns, hwithout, hwith]
  simp only [List.forall_mem_append, List.forall_mem_cons]
  tauto

/-- The outcomes of the others and all entries but that of the new type are the same with one
request more. -/
theorem sameOutcomes_insert (hseed : e.config.uuidSeed = some seed)
    (hnew : q.typeName ∉ (before ++ after).map (·.typeName))
    (hunused : ∀ m ∈ e.models (before ++ after), ∀ fld ∈ e.includedFields m,
      fld.resolved.qualifiedName ≠ q.typeName) (random random' : String → UuidSource) :
    List.Forall₂ (SameOutcome (e.waits (before ++ after)))
        (e.run random (before ++ after) .empty).1.outcomes
        ((e.run random' (before ++ q :: after) .empty).1.outcomes.eraseIdx before.length) ∧
      ∀ key, key ≠ q.typeName →
        (e.run random (before ++ after) .empty).2.get? key
          = (e.run random' (before ++ q :: after) .empty).2.get? key := by
  have hpart := isPartOf_insert hnew hunused
  constructor
  · obtain ⟨first, rest, hlength, hwithout, hwith⟩ := exists_prepare_insert (e := e) hnew
    -- Without the outcome of the new request, the two reports pair off in order.
    have herase : (first ++ (q, Model.resolve e.catalog q) :: rest).eraseIdx before.length
        = first ++ rest := by
      rw [← hlength, List.eraseIdx_append_of_length_le (Nat.le_refl _), Nat.sub_self,
        List.eraseIdx_cons_zero]
    rw [outcomes_run, outcomes_run, hwith, List.eraseIdx_map, herase, ← hwithout,
      List.forall₂_map_left_iff, List.forall₂_map_right_iff, List.forall₂_same]
    rintro ⟨q', made⟩ hq'
    constructor
    case request => rfl
    case result =>
      cases made with
      | error err => exact .same (.error err)
      | ok m =>
        have hname := Model.qualifiedName_of_resolve (resolve_of_mem_prepare hq').1
        dsimp only
        exact hpart.sameResult_result hseed (mem_models_iff.mpr ⟨q', hq'⟩) hname
  · intro key hkey
    by_cases hmem : key ∈ (e.models (before ++ after)).map (·.type.qualifiedName)
    · obtain ⟨m, hm, rfl⟩ := List.mem_map.mp hmem
      exact hpart.get?_run hseed hm
    · rw [get?_run_of_notMem hmem, get?_run_of_notMem]
      rintro hmem'
      obtain ⟨m, hm, rfl⟩ := List.mem_map.mp hmem'
      rcases (mem_models_insert_iff hnew).mp hm with hm | hq
      · exact hmem (List.mem_map_of_mem hm)
      · exact hkey (Model.qualifiedName_of_resolve hq)

/-- With a seed one request more, for a type that is not requested elsewhere and that no included
field of the others is of, does not matter to a fresh engine, as long as the run returns. The
outcomes of the others are the same, be it for another one of the shortest cycles through a type,
and so are all entries but that of the new type.

The run returns exactly when it does without the new request and this one has an answer. So it is
wherever the default arguments of the root object type do not use it raw. -/
theorem run_insert (hseed : e.config.uuidSeed = some seed)
    (hnew : q.typeName ∉ (before ++ after).map (·.typeName))
    (hunused : ∀ m ∈ e.models (before ++ after), ∀ fld ∈ e.includedFields m,
      fld.resolved.qualifiedName ≠ q.typeName) (random random' : String → UuidSource) :
    (e.Returns (before ++ q :: after) →
      List.Forall₂ (SameOutcome (e.waits (before ++ after)))
          (e.run random (before ++ after) .empty).1.outcomes
          ((e.run random' (before ++ q :: after) .empty).1.outcomes.eraseIdx before.length) ∧
        ∀ key, key ≠ q.typeName →
          (e.run random (before ++ after) .empty).2.get? key
            = (e.run random' (before ++ q :: after) .empty).2.get? key) ∧
      (e.Returns (before ++ q :: after) ↔
        e.Returns (before ++ after) ∧ Model.resolve e.catalog q ≠ .error .endless) ∧
      (e.catalog.ObjectEnds → e.Returns (before ++ q :: after)) := by
  refine ⟨fun _ => ?_, returns_insert_iff hnew, fun hends => returns_of_objectEnds hends _⟩
  exact sameOutcomes_insert hseed hnew hunused random random'

/-- Coupons that are requested too, between items and orders, do not matter to these. -/
theorem run_insert_shop :
    shopEngine.Returns shopRequests ∧
      List.Forall₂ (SameOutcome (shopEngine.waits [⟨"shop.Item", none⟩, ⟨"shop.Order", none⟩]))
        (shopEngine.run (fun _ => .ofSeed 0)
          [⟨"shop.Item", none⟩, ⟨"shop.Order", none⟩] .empty).1.outcomes
        ((shopEngine.run (fun _ => .ofSeed 1) shopRequests .empty).1.outcomes.eraseIdx 1) ∧
      ((shopEngine.run (fun _ => .ofSeed 1) shopRequests .empty).1.outcomes.map fun o =>
          (o.request.typeName, o.result.toOption.map (·.typeName))) =
        [("shop.Item", some "shop.Item"), ("shop.Coupon", some "shop.Coupon"),
          ("shop.Order", some "shop.Order")] := by
  have hnew : (⟨"shop.Coupon", none⟩ : Request).typeName ∉
      ([⟨"shop.Item", none⟩] ++ [⟨"shop.Order", none⟩] : List Request).map (·.typeName) := by
    decide
  obtain ⟨hsame, -, hreturns⟩ := run_insert (e := shopEngine) rfl hnew (by decide +kernel)
    (fun _ => .ofSeed 0) (fun _ => .ofSeed 1)
  have hshop := hreturns (Catalog.objectEnds_of_get?_eq_none rfl)
  exact ⟨hshop, (hsame hshop).1, by decide +kernel⟩

end Fixtures.Engine
