import Fixtures.Description.Json
import Fixtures.Proofs.Description
import Fixtures.Proofs.NameMap
import Fixtures.Proofs.TypeRef.Text

/-!
# `Fixtures.Proofs.Description.RoundTrip`: what is written of a description is read again

A description is written as an object in which some members are left out: those without a value, and
those whose list is empty. It is read with a default for each member that may be missing. The two
agree member by member. So every object is first brought into one form, a list of fields with or
without a value (`Record.written`), and each reader of a member has a lemma that says what it reads
there (`withDefault_listValue`, `optional_map`).

A type is written as its text. Not every type has one that is read as the type, but those that were
read from a text have, and a description that was read has no other types.
-/

set_option autoImplicit false

namespace Fixtures

open Document

variable {ν α : Type}

/-! ### Members that are written -/

namespace Record

/-- The members that are written for some fields: those of the fields that have a value, in order.
-/
def written (fields : List (String × Option ν)) : List (String × ν) :=
  fields.filterMap fun f => f.2.map (f.1, ·)

/-- The keys of the members are keys of the fields. -/
theorem map_fst_written_sublist (fields : List (String × Option ν)) :
    List.Sublist ((written fields).map (·.1)) (fields.map (·.1)) := by
  induction fields with
  | nil => exact .slnil
  | cons f rest ih =>
    obtain ⟨key, v⟩ := f
    cases v with
    | none => exact ih.cons key
    | some v => exact ih.cons_cons key

/-- A member has the value of its field. A field without a value has no member, and nothing else
has its key. -/
theorem lookup_written {fields : List (String × Option ν)} (h : (fields.map (·.1)).Nodup)
    (key : String) : (written fields).lookup key = (fields.lookup key).join := by
  induction fields with
  | nil => rfl
  | cons f rest ih =>
    obtain ⟨key', v⟩ := f
    obtain ⟨hkey', hrest⟩ := List.nodup_cons.mp h
    rw [List.lookup_cons]
    by_cases hkey : key = key'
    · subst hkey
      cases v with
      | none =>
        -- The key is no key of the fields behind it either.
        have hnone : (written rest).lookup key = none := by
          refine List.lookup_eq_none_iff.mpr fun m hm => bne_iff_ne.mpr ?_
          rintro rfl
          exact hkey' ((map_fst_written_sublist rest).subset (List.mem_map_of_mem hm))
        simpa [written] using hnone
      | some v => simp [written]
    · rw [beq_eq_false_iff_ne.mpr hkey]
      cases v with
      | none => exact ih hrest
      | some v =>
        show List.lookup key ((key', v) :: written rest) = _
        rw [List.lookup_cons, beq_eq_false_iff_ne.mpr hkey]
        exact ih hrest

/-- Members of different keys are a record. -/
theorem ofMembers?_of_nodup {members : List (String × ν)} (h : (members.map (·.1)).Nodup)
    (keys : List String) : ofMembers? keys members = some fun key => members.lookup key := by
  unfold ofMembers?
  refine if_neg ?_
  simp only [List.any_eq_true, decide_eq_true_eq, not_exists, not_and, Nat.not_lt]
  intro key _
  have hcount := List.nodup_iff_count.mp h key
  rw [List.count, List.countP_map] at hcount
  exact hcount

/-- What is written for fields is a record of them. Nothing is written twice, which a record would
not allow. -/
theorem ofMembers?_written {fields : List (String × Option ν)} (h : (fields.map (·.1)).Nodup)
    (keys : List String) :
    ofMembers? keys (written fields) = some fun key => (fields.lookup key).join := by
  rw [ofMembers?_of_nodup (h.sublist (map_fst_written_sublist fields))]
  exact congrArg some (funext (lookup_written h))

/-- Without fields nothing is written. -/
theorem written_nil : written ([] : List (String × Option ν)) = [] := rfl

/-- A field without a value is not written. -/
theorem written_cons (key : String) (v : Option ν) (rest : List (String × Option ν)) :
    written ((key, v) :: rest) = (v.map (key, ·)).toList ++ written rest := by
  cases v with
  | none => rfl
  | some v => rfl

end Record

namespace Json

/-- The value of a field that is a list: none for the empty one, so it is read back by its default.
-/
def listValue (write : α → Json) (items : List α) : Option Json :=
  if items.isEmpty then none else some (arr (items.map write))

/-- The member of a list, as the writers have it, is that of a field with this value. -/
theorem listMember_eq (key : String) (write : α → Json) (items : List α) :
    listMember key write items = ((listValue write items).map (key, ·)).toList := by
  cases items with
  | nil => rfl
  | cons item rest => rfl

/-- A value that may be missing is written as that of a field that may have none. -/
theorem optionalMember_eq (key : String) (v : Option Json) :
    optionalMember key v = (v.map (key, ·)).toList := by
  cases v with
  | none => rfl
  | some j => rfl

/-- An object that is written for fields is a record of them. -/
theorem record?_written {fields : List (String × Option Json)} (h : (fields.map (·.1)).Nodup)
    (keys : List String) : Document.record? keys (obj (Record.written fields))
      = some fun key => (fields.lookup key).join :=
  Record.ofMembers?_written h keys

end Json

/-! ### Members that are read -/

/-- A list is read when each of its items is. -/
theorem Document.list?_of_items [Document ν] {write : α → ν} {read : ν → Option α} {v : ν}
    {items : List α} (hv : items? v = some (items.map write))
    (h : ∀ a ∈ items, read (write a) = some a) : list? read v = some items := by
  rw [list?, hv, Option.bind_some, mapM_eq_some_iff, List.forall₂_map_left_iff, List.forall₂_same]
  exact h

/-- A list that is left out when it is empty is read: from its items, or by the default. -/
theorem Record.withDefault_listValue {r : Record Json} {key : String} {write : α → Json}
    {read : Json → Option α} {items : List α} (hr : r key = Json.listValue write items)
    (h : ∀ a ∈ items, read (write a) = some a) :
    r.withDefault key (list? read) [] = some items := by
  rw [Record.withDefault, hr, Json.listValue]
  cases items with
  | nil => rfl
  | cons item rest => exact list?_of_items rfl h

/-- A value that is left out when there is none is read, if it is not written as nothing. Otherwise
a value would be read as none. -/
theorem Document.optional_map [Document ν] {r : Record ν} {key : String} {write : α → ν}
    {read : ν → Option α} {v : Option α} (hr : r key = v.map write)
    (hsome : ∀ a, nullable? (write a) = some (some (write a)))
    (h : ∀ a ∈ v, read (write a) = some a) : optional r key read = some v := by
  rw [optional, Record.withDefault, hr]
  cases v with
  | none => rfl
  | some a =>
    show (nullable? (write a)).bind _ = _
    rw [hsome]
    show (read (write a)).map some = _
    rw [h a rfl, Option.map_some]

/-! ### Types -/

namespace TypeRef

/-- A type that was read from a text is read from its own. The two texts may differ in blanks and
in how wildcards are written. -/
theorem parse_toText_of_parse {text : String} {t : TypeRef} (h : parse text = .ok t) :
    parse t.toText = .ok t := by
  obtain ⟨lower, rest, hderives, -⟩ := denotes_of_parse h
  have hwritten := derives_toText hderives.isWritten [] (by simp [Ends])
  rw [List.append_nil] at hwritten
  exact Denotes.parse_eq ⟨false, [], hwritten, by simp⟩

/-- A type that was read is read again. -/
theorem read?_toJson [Document ν] {v : ν} {t : TypeRef} (h : read? v = some t) :
    read? t.toJson = some t := by
  obtain ⟨text, -, h⟩ := Option.bind_eq_some_iff.mp h
  exact toOption_eq_some_iff.mpr (parse_toText_of_parse (toOption_eq_some_iff.mp h))

end TypeRef

/-! ### Records -/

/-- A type parameter is written as a record of its name and its bound. -/
theorem TypeParameter.toJson_eq (p : TypeParameter) :
    p.toJson = .obj (Record.written [("name", some (.str p.name)),
      ("bound", p.bound.map TypeRef.toJson)]) := by
  simp only [toJson, Json.optionalMember_eq, Record.written_cons, Record.written_nil,
    Option.map_some, Option.toList_some, List.cons_append, List.nil_append, List.append_nil]

/-- A type parameter is read again when its bound is. -/
theorem TypeParameter.read?_toJson {p : TypeParameter}
    (h : ∀ t ∈ p.bound, TypeRef.read? t.toJson = some t) : read? p.toJson = some p := by
  unfold read?
  rw [toJson_eq]
  simp only [Option.bind_eq_bind, Option.bind_eq_some_iff]
  exact ⟨_, Json.record?_written (by simp) _, p.name, rfl, p.bound,
    Document.optional_map rfl (fun _ => rfl) h, rfl⟩

/-- A directive is written as a record of its name, its value and its reference. -/
theorem ConstantDirective.toJson_eq (c : ConstantDirective) :
    c.toJson = .obj (Record.written [("name", some (.str c.name)), ("value", c.value.map .str),
      ("reference", c.reference.map .str)]) := by
  simp only [toJson, Json.optionalMember_eq, Record.written_cons, Record.written_nil,
    Option.map_some, Option.toList_some, List.cons_append, List.nil_append, List.append_nil]

/-- A directive is read again. -/
theorem ConstantDirective.read?_toJson (c : ConstantDirective) : read? c.toJson = some c := by
  unfold read?
  rw [toJson_eq]
  simp only [Option.bind_eq_bind, Option.bind_eq_some_iff]
  exact ⟨_, Json.record?_written (by simp) _, c.name, rfl,
    c.value, Document.optional_map rfl (fun _ => rfl) (fun _ _ => rfl),
    c.reference, Document.optional_map rfl (fun _ => rfl) (fun _ _ => rfl), rfl⟩

/-- A field is written as a record in which the directives may be missing. -/
theorem FieldDescription.toJson_eq (f : FieldDescription) :
    f.toJson = .obj (Record.written [("name", some (.str f.name)), ("type", some f.type.toJson),
      ("static", some (.bool f.isStatic)), ("transient", some (.bool f.isTransient)),
      ("constants", Json.listValue ConstantDirective.toJson f.constants)]) := by
  simp only [toJson, Json.listMember_eq, Record.written_cons, Record.written_nil,
    Option.map_some, Option.toList_some, List.cons_append, List.nil_append, List.append_nil]

/-- A field is read again when its type is. -/
theorem FieldDescription.read?_toJson {f : FieldDescription}
    (h : TypeRef.read? f.type.toJson = some f.type) : read? f.toJson = some f := by
  unfold read?
  rw [toJson_eq]
  simp only [Option.bind_eq_bind, Option.bind_eq_some_iff]
  exact ⟨_, Json.record?_written (by simp) _, f.name, rfl, f.type, h, f.isStatic, rfl,
    f.isTransient, rfl, f.constants,
    Record.withDefault_listValue rfl (fun c _ => ConstantDirective.read?_toJson c), rfl⟩

/-- A table of texts is read again. Its keys are written in their order, and none of them twice. -/
theorem texts?_ofTexts (m : NameMap String) : texts? (Json.ofTexts m) = some m := by
  have hentries : ((m.entries.map fun e : String × String => (e.1, Json.str e.2)).mapM
      fun e : String × Json => do return (e.1, ← text? e.2)) = some m.entries :=
    mapM_eq_some_iff.mpr (List.forall₂_map_left_iff.mpr (List.forall₂_same.mpr fun e _ => rfl))
  show (((m.entries.map fun e : String × String => (e.1, Json.str e.2)).mapM
      fun e : String × Json => do return (e.1, ← text? e.2)).bind
        fun entries => some (NameMap.ofList entries)) = some m
  rw [hentries, Option.bind_some, NameMap.ofList_entries]

/-- A table of texts that is left out when it is empty is read again. -/
theorem Record.withDefault_ofTexts {r : Record Json} {key : String} {m : NameMap String}
    (hr : r key = if m.isEmpty then none else some (Json.ofTexts m)) :
    r.withDefault key texts? .empty = some m := by
  rw [Record.withDefault, hr]
  by_cases hempty : m.isEmpty = true
  · rw [if_pos hempty]
    show some (NameMap.ofList []) = some m
    rw [← List.isEmpty_iff.mp hempty, NameMap.ofList_entries]
  · rw [if_neg hempty]
    exact texts?_ofTexts m

/-! ### Creators -/

/-- The values of fields are settled one by one. Creators are told apart by a member among others,
so all of them are settled before one is read. -/
def Json.Settles (fields : List (String × Option Json))
    (contents : List (String × Option Content)) : Prop :=
  List.Forall₂ (fun f f' => f.1 = f'.1 ∧ Option.Rel (fun j c => j.content? = some c) f.2 f'.2)
    fields contents

namespace Content

/-- A table with texts for keys, as an object is settled. -/
def ofMembers (members : List (String × Content)) : Content :=
  table (members.map fun m => (text m.1, m.2))

/-- What is settled for fields of different keys is a record of them. -/
theorem record?_written {fields : List (String × Option Content)} (h : (fields.map (·.1)).Nodup)
    {keys : List String} (hkeys : fields.map (·.1) ⊆ keys) :
    record? keys (ofMembers (Record.written fields))
      = some fun key => (fields.lookup key).join := by
  have hmembers : members? keys ((Record.written fields).map fun m => (text m.1, m.2))
      = some (Record.written fields) := by
    have hmapM : ((Record.written fields).map fun m => (text m.1, m.2)).mapM (fun e =>
        (keyIn? keys e.1).map fun key => key.map (·, e.2))
          = some ((Record.written fields).map some) := by
      refine mapM_eq_some_iff.mpr (List.forall₂_map_left_iff.mpr (List.forall₂_map_right_iff.mpr
        (List.forall₂_same.mpr fun m hm => ?_)))
      have hkey : m.1 ∈ keys :=
        hkeys ((Record.map_fst_written_sublist fields).subset (List.mem_map_of_mem hm))
      simp [keyIn?, hkey]
    simp [members?, hmapM]
  rw [ofMembers, record?, hmembers, Option.bind_some]
  exact Record.ofMembers?_written h keys

/-- The tag of a table is the text under its key, and the other members are the rest. The key may
not be that of another member too. -/
theorem tagged?_ofMembers {key tag : String} {members : List (String × Content)}
    (h : key ∉ members.map (·.1)) :
    (ofMembers ((key, text tag) :: members)).tagged? key = some (tag, ofMembers members) := by
  -- No other member has the key of the tag, so the tag is the only one that is split off.
  have hother : ∀ e ∈ members.map (fun m => (text m.1, m.2)), (e.1.text? == some key) = false := by
    intro e he
    obtain ⟨m, hm, rfl⟩ := List.mem_map.mp he
    have hne : m.1 ≠ key := fun heq => h (heq ▸ List.mem_map_of_mem hm)
    simpa [text?] using hne
  have hnone : (members.map fun m => (text m.1, m.2)).filter (fun e => e.1.text? == some key)
      = [] := List.filter_eq_nil_iff.mpr fun e he => by simp [hother e he]
  have hall : (members.map fun m => (text m.1, m.2)).filter (not ∘ fun e => e.1.text? == some key)
      = members.map fun m => (text m.1, m.2) :=
    List.filter_eq_self.mpr fun e he => by simp [hother e he]
  have hpartition : ((text key, text tag) :: members.map (fun m => (text m.1, m.2))).partition
      (fun e => e.1.text? == some key)
        = ([(text key, text tag)], members.map fun m => (text m.1, m.2)) := by
    rw [List.partition_eq_filter_filter, List.filter_cons, List.filter_cons, hnone, hall]
    simp [text?]
  rw [ofMembers, List.map_cons, tagged?, hpartition]
  rfl

end Content

namespace Json

/-- Texts are settled as texts. -/
theorem content?_ofStrings (ss : List String) :
    (ofStrings ss).content? = some (.list (ss.map .text)) := by
  have hcontents : contents? (ss.map str) = some (ss.map .text) := by
    induction ss with
    | nil => rfl
    | cons s rest ih => simp [contents?, content?, ih]
  rw [ofStrings, content?, hcontents, Option.map_some]

/-- The members of an object are settled one by one, and a field without a value stays one. -/
theorem Settles.content?_written {fields : List (String × Option Json)}
    {contents : List (String × Option Content)} (h : Settles fields contents) :
    (obj (Record.written fields)).content? = some (.ofMembers (Record.written contents)) := by
  have hcontents : memberContents? (Record.written fields)
      = some ((Record.written contents).map fun m => (.text m.1, m.2)) := by
    unfold Settles at h
    induction h with
    | nil => rfl
    | @cons f f' _ _ hfirst _ ih =>
      obtain ⟨key, v⟩ := f
      obtain ⟨key', v'⟩ := f'
      obtain ⟨rfl, hvalue⟩ := hfirst
      rw [Record.written_cons, Record.written_cons]
      cases hvalue with
      | none => exact ih
      | some hj => simp [memberContents?, hj, ih]
  rw [content?, hcontents, Option.map_some, Content.ofMembers]

end Json

namespace Creator

/-- A constructor call is written as a record of its kind, its parameters and its name. -/
theorem toJson_constructor (parameters : List String) (name : Option String) :
    (constructor parameters name).toJson = .obj (Record.written [
      ("kind", some (.str CreatorKind.constructor.word)),
      ("parameters", some (Json.ofStrings parameters)), ("name", name.map .str)]) := by
  simp only [toJson, Json.optionalMember_eq, Record.written_cons, Record.written_nil,
    Option.map_some, Option.toList_some, List.cons_append, List.nil_append, List.append_nil]

/-- A chain of setter calls is written as a record of its kind and all its parts. The names of its
methods are written even if they are the usual ones. -/
theorem toJson_builder (setters : List String) (builderMethod buildMethod : String)
    (setterPrefix name : Option String) :
    (builder setters builderMethod buildMethod setterPrefix name).toJson = .obj (Record.written [
      ("kind", some (.str CreatorKind.builder.word)), ("setters", some (Json.ofStrings setters)),
      ("builderMethod", some (.str builderMethod)), ("buildMethod", some (.str buildMethod)),
      ("setterPrefix", setterPrefix.map .str), ("name", name.map .str)]) := by
  simp only [toJson, Json.optionalMember_eq, Record.written_cons, Record.written_nil,
    Option.map_some, Option.toList_some, List.cons_append, List.nil_append, List.append_nil]

/-- A text that may be missing is settled as one. -/
theorem rel_content?_map_str (v : Option String) :
    Option.Rel (fun (j : Json) c => j.content? = some c) (v.map .str) (v.map .text) := by
  cases v with
  | none => exact .none
  | some s => exact .some rfl

/-- Texts that are settled are read as such. -/
theorem list?_map_text (ss : List String) :
    list? text? (Content.list (ss.map .text)) = some ss :=
  Document.list?_of_items rfl fun _ _ => rfl

/-- A creator is told by its kind, and is read from what is settled beside it. -/
theorem read?_of_settles {word : String} {kind : CreatorKind} {fields : List (String × Option Json)}
    {contents : List (String × Option Content)} (hword : CreatorKind.ofWord? word = some kind)
    (h : Json.Settles fields contents) (hkey : "kind" ∉ contents.map (·.1)) :
    read? (Json.obj (Record.written (("kind", some (.str word)) :: fields)))
      = ofContent? kind (.ofMembers (Record.written contents)) := by
  have hsettles : Json.Settles (("kind", some (.str word)) :: fields)
      (("kind", some (.text word)) :: contents) := .cons ⟨rfl, .some rfl⟩ h
  have htagged : tagged? "kind" (Json.obj (Record.written (("kind", some (.str word)) :: fields)))
      = some (word, .ofMembers (Record.written contents)) := by
    show (Json.content? _).bind _ = _
    rw [hsettles.content?_written, Option.bind_some]
    exact Content.tagged?_ofMembers fun hmem =>
      hkey ((Record.map_fst_written_sublist contents).subset hmem)
  rw [read?, htagged]
  show (CreatorKind.ofWord? word).bind _ = _
  rw [hword, Option.bind_some]

/-- A creator is read again. -/
theorem read?_toJson (creator : Creator) : read? creator.toJson = some creator := by
  cases creator with
  | constructor parameters name =>
    have hsettles : Json.Settles
        [("parameters", some (Json.ofStrings parameters)), ("name", name.map .str)]
        [("parameters", some (.list (parameters.map .text))), ("name", name.map .text)] :=
      .cons ⟨rfl, .some (Json.content?_ofStrings parameters)⟩
        (.cons ⟨rfl, rel_content?_map_str name⟩ .nil)
    rw [toJson_constructor, read?_of_settles rfl hsettles (by simp)]
    unfold ofContent?
    simp only [Option.bind_eq_bind, Option.bind_eq_some_iff]
    exact ⟨_, Content.record?_written (by simp) (by simp), parameters, list?_map_text parameters,
      name, Document.optional_map rfl (fun _ => rfl) (fun _ _ => rfl), rfl⟩
  | builder setters builderMethod buildMethod setterPrefix name =>
    have hsettles : Json.Settles
        [("setters", some (Json.ofStrings setters)), ("builderMethod", some (.str builderMethod)),
          ("buildMethod", some (.str buildMethod)), ("setterPrefix", setterPrefix.map .str),
          ("name", name.map .str)]
        [("setters", some (.list (setters.map .text))),
          ("builderMethod", some (.text builderMethod)), ("buildMethod", some (.text buildMethod)),
          ("setterPrefix", setterPrefix.map .text), ("name", name.map .text)] :=
      .cons ⟨rfl, .some (Json.content?_ofStrings setters)⟩
        (.cons ⟨rfl, .some rfl⟩ (.cons ⟨rfl, .some rfl⟩
          (.cons ⟨rfl, rel_content?_map_str setterPrefix⟩
            (.cons ⟨rfl, rel_content?_map_str name⟩ .nil))))
    rw [toJson_builder, read?_of_settles rfl hsettles (by simp)]
    unfold ofContent?
    simp only [Option.bind_eq_bind, Option.bind_eq_some_iff]
    exact ⟨_, Content.record?_written (by simp) (by simp), setters, list?_map_text setters,
      builderMethod, rfl, buildMethod, rfl,
      setterPrefix, Document.optional_map rfl (fun _ => rfl) (fun _ _ => rfl),
      name, Document.optional_map rfl (fun _ => rfl) (fun _ _ => rfl), rfl⟩

end Creator

/-! ### Descriptions -/

/-- The bound of a type parameter that was read was read as a type. -/
theorem TypeParameter.exists_of_read [Document ν] {v : ν} {p : TypeParameter} {t : TypeRef}
    (h : read? v = some p) (ht : t ∈ p.bound) : ∃ bound : ν, TypeRef.read? bound = some t := by
  unfold read? at h
  simp only [Option.bind_eq_bind, Option.bind_eq_some_iff, Option.pure_def, Option.some.injEq] at h
  obtain ⟨r, -, name, -, bound, hbound, rfl⟩ := h
  obtain rfl : bound = some t := ht
  exact Document.exists_of_optional hbound

namespace TypeDescription

/-- A description is written as a record in which lists and providers may be missing. -/
theorem toJson_eq (d : TypeDescription) :
    d.toJson = .obj (Record.written [
      ("package", some (.str d.package)), ("name", some (.str d.name)),
      ("kind", some (.str d.kind.word)),
      ("typeParameters", Json.listValue TypeParameter.toJson d.typeParameters),
      ("fields", Json.listValue FieldDescription.toJson d.fields),
      ("enumConstants", Json.listValue .str d.enumConstants), ("fixture", some (.bool d.fixture)),
      ("providers", if d.providers.isEmpty then none else some (Json.ofTexts d.providers)),
      ("creators", Json.listValue Creator.toJson d.creators)]) := by
  have hproviders : (if d.providers.isEmpty then [] else [("providers", Json.ofTexts d.providers)])
      = ((if d.providers.isEmpty then none else some (Json.ofTexts d.providers)).map
          ("providers", ·)).toList := by
    split
    · rfl
    · rfl
  simp only [toJson, hproviders, Json.listMember_eq, Record.written_cons, Record.written_nil,
    Option.map_some, Option.toList_some, List.cons_append, List.nil_append, List.append_nil,
    List.append_assoc]

/-- A description is read again when its types are. -/
theorem read?_toJson {d : TypeDescription}
    (hbounds : ∀ p ∈ d.typeParameters, ∀ t ∈ p.bound, TypeRef.read? t.toJson = some t)
    (hfields : ∀ f ∈ d.fields, TypeRef.read? f.type.toJson = some f.type) :
    read? d.toJson = some d := by
  unfold read?
  rw [toJson_eq]
  simp only [Option.bind_eq_bind, Option.bind_eq_some_iff]
  refine ⟨_, Json.record?_written (by simp) _, d.package, rfl, d.name, rfl, d.kind, ?kind,
    d.typeParameters, ?typeParameters, d.fields, ?fields, d.enumConstants, ?enumConstants,
    d.fixture, rfl, d.providers, ?providers, d.creators, ?creators, rfl⟩
  case kind =>
    show choice? TypeKind.ofWord? (Json.str d.kind.word) = _
    cases d.kind with
    | classKind => rfl
    | enumKind => rfl
  case typeParameters =>
    exact Record.withDefault_listValue rfl fun p hp => TypeParameter.read?_toJson (hbounds p hp)
  case fields =>
    exact Record.withDefault_listValue rfl fun f hf => FieldDescription.read?_toJson (hfields f hf)
  case enumConstants => exact Record.withDefault_listValue rfl fun _ _ => rfl
  case providers => exact Record.withDefault_ofTexts rfl
  case creators => exact Record.withDefault_listValue rfl fun c _ => Creator.read?_toJson c

/-- The types of a description that was read are read again. They are those of bounds and of
fields, and all were read from texts. -/
theorem types_of_read [Document ν] {v : ν} {d : TypeDescription} (h : read? v = some d) :
    (∀ p ∈ d.typeParameters, ∀ t ∈ p.bound, TypeRef.read? t.toJson = some t) ∧
      ∀ f ∈ d.fields, TypeRef.read? f.type.toJson = some f.type := by
  unfold read? at h
  simp only [Option.bind_eq_bind, Option.bind_eq_some_iff, Option.pure_def, Option.some.injEq] at h
  obtain ⟨r, -, package, -, name, -, kind, -, typeParameters, hparameters, fields, hfields, -, -, -,
    -, -, -, -, -, rfl⟩ := h
  constructor
  · intro p hp t ht
    obtain rfl | ⟨items, hitems⟩ := Record.of_withDefault hparameters
    · cases hp
    · obtain ⟨item, hitem⟩ := Document.exists_of_mem_list hitems hp
      obtain ⟨bound, hbound⟩ := TypeParameter.exists_of_read hitem ht
      exact TypeRef.read?_toJson hbound
  · intro f hf
    obtain rfl | ⟨items, hitems⟩ := Record.of_withDefault hfields
    · cases hf
    · obtain ⟨item, hitem⟩ := Document.exists_of_mem_list hitems hf
      obtain ⟨type, htype⟩ := FieldDescription.exists_of_read hitem
      exact TypeRef.read?_toJson htype

/-- A description that was read is read again when it is written. It need not be written as it was
read: its members are put in order, and some are left out where they have their defaults. -/
theorem ofJson_toJson {j : Json} {d : TypeDescription} (h : ofJson? j = some d) :
    ofJson? d.toJson = some d := by
  obtain ⟨hbounds, hfields⟩ := types_of_read h
  exact read?_toJson hbounds hfields

/-- A description of a crate, as it may be given: a bound and directives, a builder without the
names of its methods, values that stand for nothing, and types with blanks. -/
def crateJson : Json := .obj [
  ("package", .str "shop"), ("name", .str "Crate"),
  ("typeParameters", .arr [
    .obj [("name", .str "T"), ("bound", .str "Comparable < T >")],
    .obj [("name", .str "U"), ("bound", .null)]]),
  ("fields", .arr [.obj [
    ("name", .str "items"), ("type", .str "List<? extends T> [ ]"), ("transient", .bool true),
    ("constants", .arr [
      .obj [("name", .str "ITEMS"), ("value", .str "null")],
      .obj [("reference", .str "ALL"), ("name", .str "REST"), ("value", .null)]])]]),
  ("enumConstants", .arr []),
  ("providers", .obj [("int", .str "1"), ("Item", .str "uuid()")]),
  ("creators", .arr [
    .obj [
      ("setters", .arr [.str "items"]), ("kind", .str "builder"), ("setterPrefix", .str "with")],
    .obj [("kind", .str "constructor"), ("name", .null)]])]

/-- The description of a crate is read again. -/
theorem ofJson_toJson_crate :
    ∃ d, ofJson? crateJson = some d ∧ d.creators = [
      .builder ["items"] "builder" "build" (some "with") none, .constructor [] none] ∧
      ofJson? d.toJson = some d := by
  have hcreators : (ofJson? crateJson).map (·.creators) = some [
      .builder ["items"] "builder" "build" (some "with") none, .constructor [] none] := by
    decide +kernel
  obtain ⟨d, hd, hdcreators⟩ := Option.map_eq_some_iff.mp hcreators
  exact ⟨d, hd, hdcreators, ofJson_toJson hd⟩

end TypeDescription

end Fixtures
