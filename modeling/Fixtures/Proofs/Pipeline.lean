import Fixtures.Engine
import Fixtures.Proofs.Provider.Table

/-!
# `Fixtures.Proofs.Pipeline`: where the value of a field comes from

The providers for a field are consulted in order, the one for its exact type before the one for
its shape. `Consults` says step by step what becomes of that: a provider may be missing, give a
text, decline or fail, and the next one goes on from the source that is left.
`run_consultAll_eq_iff` is by induction on the keys that are still to be consulted.

`resolve_eq_iff` puts the result together: the value is the text of the first provider that gives
one, or else that of the shape, and it is never blank. In a pass the directives of the type come
before those of the settings.
-/

set_option autoImplicit false

namespace Fixtures

/-! ### Texts that are not blank -/

/-- Blank texts consist of blank ones. -/
@[simp] theorem Text.isBlankText_append (s t : String) :
    isBlankText (s ++ t) = (isBlankText s && isBlankText t) := by
  simp [isBlankText]

/-- A text that is not blank has a character that is not. -/
theorem Text.isBlankText_eq_false_iff {s : String} :
    isBlankText s = false ↔ ∃ c ∈ s.toList, isBlank c = false := by
  simp [isBlankText, List.all_eq_false]

/-- A literal has its quotes. -/
@[simp] theorem Text.Literal.isBlankText_encode (s : String) : isBlankText (encode s) = false := by
  rw [isBlankText_eq_false_iff, encode, String.toList_ofList]
  exact ⟨'"', List.mem_cons_self, by decide⟩

/-- The default of a value type is not blank. -/
theorem Library.isBlankText_of_value? {name expression : String}
    (h : value? name = some expression) : Text.isBlankText expression = false := by
  have hall : ∀ e ∈ valueTypes, Text.isBlankText e.2 = false := by decide
  obtain ⟨before, after, hsplit, -⟩ := List.lookup_eq_some_iff.mp h
  exact hall (name, expression) (hsplit ▸ List.mem_append_right before List.mem_cons_self)

/-- The expression of a value shape that a name has is not blank. -/
theorem ValueShape.isBlankText_of_ofName {name expression : String} {isDescribed : Bool}
    (h : ofName name isDescribed = .value expression) : Text.isBlankText expression = false := by
  unfold ofName at h
  split at h
  · cases h
  · split at h
    · cases h
    · split at h
      · cases h
      · split at h
        · next hvalue =>
          cases h
          exact Library.isBlankText_of_value? hvalue
        · split at h
          · cases h
          · split at h
            · cases h
            · cases h

/-- The expression of a value shape is not blank. -/
theorem ValueShape.isBlankText_of_ofType {t : TypeMetadata} {expression : String}
    (h : ofType t = .value expression) : Text.isBlankText expression = false := by
  unfold ofType at h
  split at h
  · cases h
  · cases h
  · cases h
  · exact isBlankText_of_ofName h

/-- The default of a primitive is not blank. -/
theorem Primitive.isBlankText_defaultLiteral (kind : Primitive) :
    Text.isBlankText kind.defaultLiteral = false := by
  cases kind <;> decide

/-- The expression of an empty container is not blank. -/
theorem Library.Container.isBlankText_emptyExpression (kind : Container) :
    Text.isBlankText kind.emptyExpression = false := by
  cases kind <;> decide

namespace Provider

/-- A text that a value provides is not blank. -/
theorem Value.isBlankText_of_provided? {v : Value} {text : String}
    (h : v.provided? = some text) : Text.isBlankText text = false := by
  unfold provided? at h
  split at h
  · cases h
  · split_ifs at h with hblank
    cases h
    exact Bool.not_eq_true _ ▸ hblank

end Provider

/-- A text that a provider gives is not blank. -/
theorem Provider.isBlankText_of_provide {provider : Provider} {scope : Provider.Scope}
    {source final : UuidSource} {text : String}
    (h : (provider.provide scope).run source = (.ok (some text), final)) :
    Text.isBlankText text = false := by
  obtain ⟨v, after, -, hv⟩ := run_bind_eq_ok_pair_iff.mp h
  exact Value.isBlankText_of_provided? (Except.ok.inj (congrArg Prod.fst hv))

namespace Pipeline

variable {p : Pipeline} {f : ModelField}

/-! ### Consulting providers -/

/-- The keys under which providers for a field are looked up, in the order in which they are
consulted: its exact type, then the tag of its shape. -/
def keys (f : ModelField) : List String :=
  [f.resolved.qualifiedName, (ValueShape.ofType f.resolved).tag]

/-- What comes of the providers under some keys for a field, from one source to another: the text
of the first that gives one, if any does. -/
inductive Consults (p : Pipeline) (f : ModelField) :
    List String → UuidSource → Option String → UuidSource → Prop where
  | done {source : UuidSource} : Consults p f [] source none source
  /-- There is no provider under a key. -/
  | absent {key : String} {rest : List String} {source final : UuidSource} {text : Option String}
      (hkey : p.providers.get? key = none) (hrest : Consults p f rest source text final) :
      Consults p f (key :: rest) source text final
  /-- A provider gives a text, and the keys behind it do not matter. -/
  | gives {key : String} {rest : List String} {provider : Provider} {source final : UuidSource}
      {text : String} (hkey : p.providers.get? key = some provider)
      (hrun : (provider.provide ⟨f, p.owner⟩).run source = (.ok (some text), final)) :
      Consults p f (key :: rest) source (some text) final
  /-- A provider declines. -/
  | declines {key : String} {rest : List String} {provider : Provider}
      {source after final : UuidSource} {text : Option String}
      (hkey : p.providers.get? key = some provider)
      (hrun : (provider.provide ⟨f, p.owner⟩).run source = (.ok none, after))
      (hrest : Consults p f rest after text final) : Consults p f (key :: rest) source text final
  /-- A provider fails; what it has drawn stays drawn. -/
  | fails {key : String} {rest : List String} {provider : Provider} {fault : Provider.EvalFault}
      {source after final : UuidSource} {text : Option String}
      (hkey : p.providers.get? key = some provider)
      (hrun : (provider.provide ⟨f, p.owner⟩).run source = (.error fault, after))
      (hrest : Consults p f rest after text final) : Consults p f (key :: rest) source text final

/-- A text that the providers give is not blank. Only one of them gives it, and a provider takes a
blank text for none. -/
theorem Consults.isBlankText_eq_false {keys : List String} {source final : UuidSource}
    {given : Option String} (h : Consults p f keys source given final) :
    ∀ text, given = some text → Text.isBlankText text = false := by
  induction h with
  | done =>
    intro text htext
    cases htext
  | absent _ _ ih => exact ih
  | gives _ hrun =>
    intro text htext
    cases htext
    exact Provider.isBlankText_of_provide hrun
  | declines _ _ _ ih => exact ih
  | fails _ _ _ ih => exact ih

/-- After a provider that gives no text, the keys behind it decide. Whether it declined or failed
makes no difference to them, except by what it has drawn. -/
theorem consults_cons_iff {key : String} {rest : List String} {provider : Provider}
    {given : Except Provider.EvalFault (Option String)} {source after final : UuidSource}
    {text : Option String} (hkey : p.providers.get? key = some provider)
    (hrun : (provider.provide ⟨f, p.owner⟩).run source = (given, after))
    (hnone : given.toOption.join = none) :
    Consults p f (key :: rest) source text final ↔ Consults p f rest after text final := by
  constructor
  · intro h
    -- The step at the key is the one of the provider.
    have same : ∀ {provider' given' after'}, p.providers.get? key = some provider' →
        (provider'.provide ⟨f, p.owner⟩).run source = (given', after') →
          given' = given ∧ after' = after := by
      intro provider' given' after' hkey' hrun'
      cases hkey.symm.trans hkey'
      exact Prod.mk.inj (hrun'.symm.trans hrun)
    cases h with
    | absent hkey' => cases hkey.symm.trans hkey'
    | gives hkey' hrun' =>
      obtain ⟨rfl, -⟩ := same hkey' hrun'
      cases hnone
    | declines hkey' hrun' hrest =>
      obtain ⟨-, rfl⟩ := same hkey' hrun'
      exact hrest
    | fails hkey' hrun' hrest =>
      obtain ⟨-, rfl⟩ := same hkey' hrun'
      exact hrest
  · intro h
    rcases given with fault | _ | given
    · exact .fails hkey hrun h
    · exact .declines hkey hrun h
    · cases hnone

/-- The text of the first provider under some keys that gives one. For the two keys of a field this
is what the pipeline does, but a list of any length allows induction. -/
def consultAll (p : Pipeline) (f : ModelField) : List String → Draws (Option String)
  | [] => return none
  | key :: rest => do
    match ← p.consult f key with
    | some text => return some text
    | none => p.consultAll f rest

/-- The second of two steps goes on from the source that the first one leaves. -/
theorem run_bind_draws {α β : Type} (x : Draws α) (g : α → Draws β) (source : UuidSource) :
    (x >>= g).run source = (g (x.run source).1).run (x.run source).2 := rfl

/-- Without a provider under a key there is no text. -/
theorem run_consult_of_none {key : String} (hkey : p.providers.get? key = none)
    (source : UuidSource) : (p.consult f key).run source = (none, source) := by
  rw [consult, hkey]
  rfl

/-- The provider under a key gives its text, or none if it declines or fails. -/
theorem run_consult_of_some {key : String} {provider : Provider}
    {given : Except Provider.EvalFault (Option String)} {source after : UuidSource}
    (hkey : p.providers.get? key = some provider)
    (hrun : (provider.provide ⟨f, p.owner⟩).run source = (given, after)) :
    (p.consult f key).run source = (given.toOption.join, after) := by
  -- To consult does not fail, so the fault of an evaluation is among what the step gives.
  have hstep : StateT.run (provider.provide ⟨f, p.owner⟩).run source = (given, after) := hrun
  rw [consult, hkey]
  simp only
  rw [run_bind_draws, hstep]
  cases given with
  | error fault => rfl
  | ok text => rfl

/-- The keys behind one are consulted from the source that is left, if there is no text yet. -/
theorem run_consultAll_cons (p : Pipeline) (f : ModelField) (key : String) (rest : List String)
    (source : UuidSource) :
    (p.consultAll f (key :: rest)).run source = match (p.consult f key).run source with
      | (some text, after) => (some text, after)
      | (none, after) => (p.consultAll f rest).run after := by
  rw [consultAll, run_bind_draws]
  rcases (p.consult f key).run source with ⟨_ | text, after⟩
  · rfl
  · rfl

/-- The providers for a field are those under its keys. -/
theorem run_custom (p : Pipeline) (f : ModelField) (source : UuidSource) :
    (p.custom f).run source = (p.consultAll f (keys f)).run source := by
  rw [keys, run_consultAll_cons, custom, run_bind_draws]
  rcases (p.consult f f.resolved.qualifiedName).run source with ⟨_ | text, after⟩
  · -- The key behind the last one has nothing to add, so its text is the text of all.
    show (p.consult f (ValueShape.ofType f.resolved).tag).run after = _
    simp only
    rw [run_consultAll_cons]
    rcases (p.consult f _).run after with ⟨_ | text, final⟩
    · rfl
    · rfl
  · rfl

/-- Consulting the providers under keys gives what the single steps give. The relation has a
constructor for each thing that may happen at a key, and the function decides between these by what
is there and what it returns. -/
theorem run_consultAll_eq_iff {keys : List String} {source final : UuidSource}
    {text : Option String} :
    (p.consultAll f keys).run source = (text, final) ↔ Consults p f keys source text final := by
  constructor
  · intro h
    induction keys generalizing source with
    | nil =>
      cases h
      exact .done
    | cons key rest ih =>
      -- The step at the first key is decided by what its provider gives, if there is one. The
      -- source differs for the other keys, so the induction is for all sources.
      rw [run_consultAll_cons] at h
      cases hkey : p.providers.get? key with
      | none =>
        rw [run_consult_of_none hkey] at h
        exact .absent hkey (ih h)
      | some provider =>
        rcases hrun : (provider.provide ⟨f, p.owner⟩).run source with ⟨fault | _ | given, after⟩
        · rw [run_consult_of_some hkey hrun] at h
          exact .fails hkey hrun (ih h)
        · rw [run_consult_of_some hkey hrun] at h
          exact .declines hkey hrun (ih h)
        · rw [run_consult_of_some hkey hrun] at h
          cases h
          exact .gives hkey hrun
  · intro h
    induction h with
    | done => rfl
    | absent hkey _ ih =>
      rw [run_consultAll_cons, run_consult_of_none hkey]
      exact ih
    | gives hkey hrun =>
      rw [run_consultAll_cons, run_consult_of_some hkey hrun]
      rfl
    | declines hkey hrun _ ih =>
      rw [run_consultAll_cons, run_consult_of_some hkey hrun]
      exact ih
    | fails hkey hrun _ ih =>
      rw [run_consultAll_cons, run_consult_of_some hkey hrun]
      exact ih

/-! ### The value of the shape -/

/-- The built-in value of a shape for a field, and the source that it leaves. Only a UUID is drawn
from the source. What has no natural default is the text of the absent value. -/
inductive BuiltIn (nullToken : String) (f : ModelField) :
    ValueShape → UuidSource → String → UuidSource → Prop where
  | scalar {kind : Primitive} {text : String} {source : UuidSource}
      (h : (kind, text) ∈ [(.boolean, "false"), (.byte, "0"), (.short, "(short) 0"), (.int, "0"),
        (.long, "0L"), (.float, "0.0f"), (.double, "0.0"), (.char, "' '")]) :
      BuiltIn nullToken f (.scalar kind) source text source
  /-- A string names the constant of its field. -/
  | string {name : String} {source : UuidSource} (h : Naming.constantName? f.name = .ok name) :
      BuiltIn nullToken f .string source (Text.Literal.encode (name ++ "_VALUE")) source
  /-- A field without a constant of its own name gives the name as it is. -/
  | unnamed {fault : IdentifierFault} {source : UuidSource}
      (h : Naming.constantName? f.name = .error fault) :
      BuiltIn nullToken f .string source (Text.Literal.encode (f.name ++ "_VALUE")) source
  | uuid {source : UuidSource} : BuiltIn nullToken f .uuid source
      ("java.util.UUID.fromString(\"" ++ source.next.1.toText ++ "\")") source.next.2
  | value {expression : String} {source : UuidSource} :
      BuiltIn nullToken f (.value expression) source expression source
  | enum {first : String} {rest : List String} {source : UuidSource}
      (h : f.resolved.enumConstants = first :: rest) :
      BuiltIn nullToken f .enum source (f.resolved.qualifiedName ++ "." ++ first) source
  | emptyEnum {source : UuidSource} (h : f.resolved.enumConstants = []) :
      BuiltIn nullToken f .enum source nullToken source
  | container {kind : Library.Container} {source : UuidSource} :
      BuiltIn nullToken f (.container kind) source kind.emptyExpression source
  /-- The first dimension is empty, and the others are left open. -/
  | array {source : UuidSource} : BuiltIn nullToken f .array source
      ("new " ++ f.resolved.typeRef.element.erasure ++ "[0]" ++
        String.join (List.replicate (f.resolved.typeRef.depth - 1) "[]")) source
  | described {source : UuidSource} : BuiltIn nullToken f .described source nullToken source
  | unknown {source : UuidSource} : BuiltIn nullToken f .unknown source nullToken source

/-- A computation that draws nothing gives its result and leaves the source. -/
theorem run_pure_eq_iff {text text' : String} {source final : UuidSource} :
    (pure text : Draws String).run source = (text', final) ↔ text = text' ∧ source = final :=
  Prod.mk.injEq .. ▸ Iff.rfl

/-- The shape of a field gives its built-in value. There is one case for each shape, with two for a
text or an enum. -/
theorem run_builtIn_eq_iff {source final : UuidSource} {text : String} :
    (p.builtIn f).run source = (text, final) ↔
      BuiltIn p.nullToken f (ValueShape.ofType f.resolved) source text final := by
  unfold builtIn
  generalize ValueShape.ofType f.resolved = shape
  constructor
  · intro h
    cases shape with
    | scalar kind =>
      obtain ⟨rfl, rfl⟩ := run_pure_eq_iff.mp h
      exact .scalar (by cases kind <;> simp [Primitive.defaultLiteral])
    | string =>
      obtain ⟨rfl, rfl⟩ := run_pure_eq_iff.mp h
      unfold stringDefault
      cases hname : Naming.constantName? f.name with
      | ok name => exact .string hname
      | error fault => exact .unnamed hname
    | uuid =>
      cases h
      exact .uuid
    | value expression =>
      cases h
      exact .value
    | enum =>
      dsimp only at h
      split at h
      · next hnone =>
        cases h
        exact .emptyEnum hnone
      · next hconstants =>
        cases h
        exact .enum hconstants
    | container kind =>
      cases h
      exact .container
    | array =>
      cases h
      exact .array
    | described =>
      cases h
      exact .described
    | unknown =>
      cases h
      exact .unknown
  · intro h
    cases h with
    | @scalar kind _ _ h =>
      refine run_pure_eq_iff.mpr ⟨?_, rfl⟩
      cases kind <;> simpa [Primitive.defaultLiteral, eq_comm] using h
    | string h =>
      dsimp only
      rw [stringDefault, h]
      rfl
    | unnamed h =>
      dsimp only
      rw [stringDefault, h]
      rfl
    | enum h =>
      dsimp only
      rw [h]
      rfl
    | emptyEnum h =>
      dsimp only
      rw [h]
      rfl
    | uuid => rfl
    | value => rfl
    | container => rfl
    | array => rfl
    | described => rfl
    | unknown => rfl

/-- The value of a shape is not blank if the absent value has a text. Of all other texts some part
is fixed. -/
theorem isBlankText_builtIn (h : Text.isBlankText p.nullToken = false) (source : UuidSource) :
    Text.isBlankText ((p.builtIn f).run source).1 = false := by
  unfold builtIn
  -- One case for each shape, in the order of the definition.
  split
  · exact Primitive.isBlankText_defaultLiteral _
  · exact Text.Literal.isBlankText_encode _
  · show Text.isBlankText (Render.uuid source.next.1) = false
    have hname : Text.isBlankText Library.uuidName = false := by decide
    simp [Render.uuid, hname]
  · next hshape => exact ValueShape.isBlankText_of_ofType hshape
  · split
    · exact h
    · next first rest _ =>
      have hdot : Text.isBlankText "." = false := by decide
      show Text.isBlankText (Render.enumConstant f.resolved.qualifiedName first) = false
      simp [Render.enumConstant, hdot]
  · exact Library.Container.isBlankText_emptyExpression _
  · have hnew : Text.isBlankText "new " = false := by decide
    show Text.isBlankText (Render.emptyArray f.resolved.typeRef) = false
    simp [Render.emptyArray, hnew]
  · exact h
  · exact h

/-! ### The value -/

/-- The value is the text that the providers give, or that of the shape from the source that they
leave. What providers have drawn that gave nothing stays drawn. -/
theorem run_resolve_eq_iff {source final : UuidSource} {text : String} :
    (p.resolve f).run source = (text, final) ↔
      Consults p f (keys f) source (some text) final ∨
        ∃ after, Consults p f (keys f) source none after ∧
          (p.builtIn f).run after = (text, final) := by
  -- The pipeline consults two keys, which is the same as going through a list of them.
  have hrun : (p.resolve f).run source = match (p.consultAll f (keys f)).run source with
      | (some given, after) => (given, after)
      | (none, after) => (p.builtIn f).run after := by
    rw [← run_custom, resolve, run_bind_draws]
    rcases (p.custom f).run source with ⟨_ | given, after⟩
    · rfl
    · rfl
  rw [hrun]
  simp only [← run_consultAll_eq_iff]
  rcases (p.consultAll f (keys f)).run source with ⟨_ | given, after⟩
  · constructor
    · exact fun h => .inr ⟨after, rfl, h⟩
    · rintro (h | ⟨after', h, hbuilt⟩)
      · cases h
      · cases h
        exact hbuilt
  · constructor
    · intro h
      cases h
      exact .inl rfl
    · rintro (h | ⟨after', h, -⟩)
      · cases h
        rfl
      · cases h

/-- The value is not blank. -/
theorem isBlankText_resolve (h : Text.isBlankText p.nullToken = false) (source : UuidSource) :
    Text.isBlankText ((p.resolve f).run source).1 = false := by
  rcases hrun : (p.resolve f).run source with ⟨text, final⟩
  rcases run_resolve_eq_iff.mp hrun with hgiven | ⟨after, -, hbuilt⟩
  · exact hgiven.isBlankText_eq_false text rfl
  · have hblank := isBlankText_builtIn (f := f) h after
    rw [hbuilt] at hblank
    exact hblank

/-! ### The providers of a pass -/

variable {e : Engine} {m : Model}

/-- In a pass the absent value has a text, since an engine is not made with a blank one. -/
theorem isBlankText_nullToken (hp : e.pipeline m = .ok p) :
    Text.isBlankText p.nullToken = false := by
  obtain ⟨own, -, h⟩ := bind_eq_ok_iff.mp hp
  cases h
  have hvalid := e.isValid
  unfold Config.validate at hvalid
  split at hvalid
  · cases hvalid
  · next hblank => exact Bool.not_eq_true _ ▸ hblank

/-- In a pass there is the provider of a directive of the type under a key, or else that of the
settings. Of several directives under one key it is the last one. -/
theorem get?_providers (hp : e.pipeline m = .ok p) (key : String) :
    p.providers.get? key =
      ((ProviderTable.last? e.catalog m.package m.description.providers.entries key).bind fun d =>
        (Provider.compile? d.2).toOption).or (e.defaults.get? key) := by
  obtain ⟨own, hown, h⟩ := bind_eq_ok_iff.mp hp
  cases h
  show (e.defaults.overlay own).get? key = _
  rw [NameMap.get?_overlay, ProviderTable.get?_of_compile hown]

/-- The value of a field has a visible character. It is the text of the first provider, the one
for the exact type before the one for the shape, that gives one; if they all decline or fail it is
what the shape gives without any providers, from the source that they leave. That is the built-in
value of the shape. In a pass the
provider under a key is that of the last directive of the type under it, or without one that of
the settings. -/
theorem resolve_eq_iff (h : Text.isBlankText p.nullToken = false) (f : ModelField)
    (source : UuidSource) :
    (∃ c ∈ ((p.resolve f).run source).1.toList, Text.isBlank c = false) ∧
    (∀ text final, (p.resolve f).run source = (text, final) ↔
      Consults p f [f.resolved.qualifiedName, (ValueShape.ofType f.resolved).tag] source
          (some text) final ∨
        ∃ after, Consults p f [f.resolved.qualifiedName, (ValueShape.ofType f.resolved).tag] source
            none after ∧
          (p.builtIn f).run after = (text, final)) ∧
    { p with providers := .empty }.resolve f = p.builtIn f ∧
    (∀ source text final, (p.builtIn f).run source = (text, final) ↔
      BuiltIn p.nullToken f (ValueShape.ofType f.resolved) source text final) ∧
    ∀ (e : Engine) (m : Model), e.pipeline m = .ok p → ∀ key,
      (∀ last,
        ProviderTable.last? e.catalog m.package m.description.providers.entries key = some last →
          ∃ provider, Provider.compile? last.2 = .ok provider ∧
            p.providers.get? key = some provider) ∧
      ((∀ d ∈ m.description.providers.entries,
          ProviderTable.normalKey e.catalog m.package d.1 ≠ .ok key) →
        p.providers.get? key = e.defaults.get? key) := by
  refine ⟨Text.isBlankText_eq_false_iff.mp (isBlankText_resolve h source),
    fun text final => run_resolve_eq_iff, rfl, fun source text final => run_builtIn_eq_iff,
    fun e m hp key => ⟨fun last hlast => ?_, ?_⟩⟩
  · obtain ⟨own, hown, -⟩ := bind_eq_ok_iff.mp hp
    obtain ⟨hmem, -⟩ := ProviderTable.mem_of_last? hlast
    obtain ⟨-, provider, -, hprovider⟩ := ProviderTable.isSound_of_compile hown hmem
    refine ⟨provider, hprovider, ?_⟩
    rw [get?_providers hp, hlast, Option.bind_some, hprovider]
    rfl
  · intro hnone
    -- A last directive would be one under the key.
    cases hlast : ProviderTable.last? e.catalog m.package m.description.providers.entries key with
    | none => rw [get?_providers hp, hlast, Option.bind_none, Option.none_or]
    | some last =>
      obtain ⟨hmem, hkey⟩ := ProviderTable.mem_of_last? hlast
      exact absurd hkey (hnone last hmem)

/-- A catalog of one class, with directives and a field. -/
def single (type : TypeRef) (providers : NameMap String) : Catalog where
  types := ⟨[("shop.Item", {
    package := "shop"
    name := "Item"
    kind := .classKind
    typeParameters := []
    fields := [⟨"label", type, false, false, []⟩]
    enumConstants := []
    fixture := true
    providers
    creators := [] })], List.pairwise_singleton _ _⟩
  named := fun e he => by
    rw [List.mem_singleton.mp he]
    rfl

/-- A text field, and a directive for texts that declines. -/
def declining : Catalog := single (.named "java.lang.String") ⟨[("String", "null")], by decide⟩

/-- Settings with a provider for the text type, and one for all types of its shape. -/
def quoting : Config where
  providers := ⟨[("String", "uuid()"), ("string", "quote(field.name)")], by decide⟩

/-- The directive for texts takes the place of the one of the settings and declines, so the
provider for the shape gives the value. -/
theorem resolve_eq_iff_declining :
    ∃ (e : Engine) (m : Model) (p : Pipeline) (f : ModelField), e.pipeline m = .ok p ∧
      f ∈ m.fields ∧ f.resolved.qualifiedName = "java.lang.String" ∧
      (∃ c ∈ ((p.resolve f).run (.ofSeed 0)).1.toList, Text.isBlank c = false) ∧
      (∃ final, Consults p f ["java.lang.String", "string"] (.ofSeed 0) (some "\"label\"") final) ∧
      ∃ provider, Provider.compile? "null" = .ok provider ∧
        p.providers.get? "java.lang.String" = some provider := by
  have hlabel :
      ((Engine.ofConfig declining quoting).toOption.bind fun e =>
        (Model.resolve declining ⟨"shop.Item", none⟩).toOption.bind fun m =>
          (e.pipeline m).toOption.bind fun p => m.fields.head?.map fun f =>
            decide (f.resolved.qualifiedName = "java.lang.String" ∧
              ValueShape.ofType f.resolved = .string ∧ f.name = "label" ∧
              ((p.resolve f).run (.ofSeed 0)).1 = "\"label\"" ∧
              ProviderTable.last? e.catalog m.package m.description.providers.entries
                "java.lang.String" = some ("String", "null"))) =
      some true := by
    decide +kernel
  obtain ⟨e, -, hlabel⟩ := Option.bind_eq_some_iff.mp hlabel
  obtain ⟨m, -, hlabel⟩ := Option.bind_eq_some_iff.mp hlabel
  obtain ⟨p, hp, hlabel⟩ := Option.bind_eq_some_iff.mp hlabel
  obtain ⟨f, hf, hlabel⟩ := Option.map_eq_some_iff.mp hlabel
  obtain ⟨hname, hshape, hfield, htext, hlast⟩ := of_decide_eq_true hlabel
  have hp := toOption_eq_some_iff.mp hp
  obtain ⟨hvisible, hiff, -, -, htable⟩ := resolve_eq_iff (isBlankText_nullToken hp) f (.ofSeed 0)
  refine ⟨e, m, p, f, hp, List.mem_of_head? hf, hname, hvisible, ?_,
    (htable e m hp "java.lang.String").1 _ hlast⟩
  rw [hname, hshape] at hiff
  rcases (hiff _ _).mp (Prod.ext htext rfl) with hgiven | ⟨after, -, hbuilt⟩
  · exact ⟨_, hgiven⟩
  · -- The shape gives another text.
    rw [builtIn, hshape, hfield] at hbuilt
    have htext : stringDefault "label" = "\"label\"" := congrArg Prod.fst hbuilt
    exact absurd htext (by decide +kernel)

end Pipeline

end Fixtures
