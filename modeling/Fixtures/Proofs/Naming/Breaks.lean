import Fixtures.Proofs.Naming
import Fixtures.Text.Ident
import Mathlib

/-!
# `Fixtures.Proofs.Naming.Breaks`: where a constant name has its underscores

`EndsWord` says of a position of a text that a word ends there, by the characters around it alone,
and `underscored` is the text in upper case with an underscore behind each such position. This is
how the constant name of a field is spelled (`joinUpper_words`). The cutting of a field name asks
about capitals on both sides of a cut where `EndsWord` asks about the right side only. In a text of
letters and digits this is the same, because a small letter or a digit in front of a capital ends a
word already (`isBoundary_iff`).

`constantName?_cases` says what becomes of any text. The constant name has no empty word and is the
field in upper case when its underscores are taken out, so a field name is never refused for
its words.
-/

set_option autoImplicit false

namespace Fixtures.Naming

open Text

/-! ### Letters and digits -/

/-- A letter or digit is not an underscore, in either case. -/
theorem toUpper_ne_underscore {c : Char} (h : c.isAlphanum = true) : c.toUpper ≠ '_' := by
  intro heq
  have hupper : c.toUpper.isAlpha = false := heq ▸ rfl
  rw [Char.isAlpha_toUpper_eq_isAlpha] at hupper
  -- What is no letter has no other case.
  have hlower : ¬ c.isLower = true := fun hlower => by simp [Char.isAlpha, hlower] at hupper
  rw [Char.toUpper_eq_of_not_isLower hlower] at heq
  subst heq
  exact absurd h (by decide)

/-- Upper case keeps letters and digits apart from all else, so a constant name has no other
characters than its field and underscores. -/
theorem isAlphanum_toUpper (c : Char) : c.toUpper.isAlphanum = c.isAlphanum := by
  by_cases hlower : c.isLower = true
  · simp [Char.isAlphanum, Char.isAlpha, hlower]
  · rw [Char.toUpper_eq_of_not_isLower hlower]

/-! ### Joined words -/

/-- The characters of the words are those of the text. -/
theorem forall_mem_words {p : Char → Prop} {s : List Char} (h : ∀ c ∈ s, p c) :
    ∀ w ∈ words s, ∀ c ∈ w, p c := by
  intro w hw c hc
  refine h c ?_
  rw [← flatten_words s]
  exact List.mem_flatten_of_mem hw hc

/-- A text with a character has a word. Only the empty text has none. -/
theorem words_ne_nil {s : List Char} (h : s ≠ []) : words s ≠ [] := by
  intro hwords
  have hflatten := flatten_words s
  rw [hwords] at hflatten
  exact h hflatten.symm

/-- The first word is joined to the others by an underscore. -/
theorem joinUpper_cons (w : List Char) {ws : List (List Char)} (h : ws ≠ []) :
    joinUpper (w :: ws) = w.map Char.toUpper ++ '_' :: joinUpper ws := by
  obtain ⟨v, vs, rfl⟩ := List.exists_cons_of_ne_nil h
  rw [joinUpper, List.map_cons, List.map_cons, List.intercalate_cons_cons]
  simp [joinUpper]

/-- A character in front of the first word stands in front of the joined words. -/
theorem joinUpper_consToHead (c : Char) (ws : List (List Char)) :
    joinUpper (consToHead c ws) = c.toUpper :: joinUpper ws := by
  cases ws with
  | nil => rfl
  | cons w ws =>
    cases ws with
    | nil => simp [consToHead, joinUpper]
    | cons v vs =>
      rw [consToHead, joinUpper_cons _ (List.cons_ne_nil v vs),
        joinUpper_cons _ (List.cons_ne_nil v vs)]
      rfl

/-! ### Breaks -/

/-- A word ends at a position of a text and another one starts behind it: a capital follows a small
letter, a digit a letter or a letter a digit, or what follows is the last one of a run of capitals
and has a small letter behind it. -/
def EndsWord (s : List Char) (i : Nat) : Prop :=
  ∃ a ∈ s[i]?, ∃ b ∈ s[i + 1]?, (a.isLower ∧ b.isUpper) ∨ (a.isAlpha ∧ b.isDigit) ∨
    (a.isDigit ∧ b.isAlpha) ∨ (b.isUpper ∧ ∃ c ∈ s[i + 2]?, c.isLower)

instance (s : List Char) (i : Nat) : Decidable (EndsWord s i) :=
  inferInstanceAs (Decidable (∃ a ∈ s[i]?, ∃ b ∈ s[i + 1]?, (a.isLower ∧ b.isUpper) ∨
    (a.isAlpha ∧ b.isDigit) ∨ (a.isDigit ∧ b.isAlpha) ∨ (b.isUpper ∧ ∃ c ∈ s[i + 2]?, c.isLower)))

/-- A text in upper case, with an underscore wherever a word ends and another one starts. No word
occurs in this; it is told character by character. -/
def underscored (s : List Char) : List Char :=
  s.zipIdx.flatMap fun (c, i) => if EndsWord s i then [c.toUpper, '_'] else [c.toUpper]

/-- The rest of a text has the breaks that it has in the text. -/
theorem endsWord_succ {a : Char} {s : List Char} {i : Nat} :
    EndsWord (a :: s) (i + 1) ↔ EndsWord s i := Iff.rfl

/-- The first character is spelled by itself, and the rest of the text as it is without it. -/
theorem underscored_cons (a : Char) (s : List Char) : underscored (a :: s) =
    (if EndsWord (a :: s) 0 then [a.toUpper, '_'] else [a.toUpper]) ++ underscored s := by
  unfold underscored
  rw [List.zipIdx_cons, List.flatMap_cons, List.zipIdx_succ, List.flatMap_map]
  simp only [endsWord_succ]

/-- Whether a word ends with the first character, by the two or three that the text starts with. -/
theorem endsWord_zero_iff {a b : Char} {rest : List Char} : EndsWord (a :: b :: rest) 0 ↔
    (a.isLower ∧ b.isUpper) ∨ (a.isAlpha ∧ b.isDigit) ∨ (a.isDigit ∧ b.isAlpha) ∨
      (b.isUpper ∧ ∃ c ∈ rest.head?, c.isLower) := by
  rw [List.head?_eq_getElem?]
  simp [EndsWord]

/-- A text of letters and digits is cut where one of its words ends. The one says of the break
before the last capital of a run that a capital stands in front of it, and the other does not; but
what else could stand there ends a word for another reason. -/
theorem isBoundary_iff {a b : Char} {rest : List Char} (ha : a.isAlphanum = true) :
    isBoundary a b rest = true ↔ EndsWord (a :: b :: rest) 0 := by
  have hnext : rest.head?.any Char.isLower = true ↔ ∃ c ∈ rest.head?, c.isLower = true := by
    cases rest <;> simp
  rw [endsWord_zero_iff]
  simp only [isBoundary, Bool.or_eq_true, Bool.and_eq_true, hnext, Char.isAlpha]
  constructor
  · rintro (((h | ⟨ha, hb⟩) | ⟨ha, hb⟩) | ⟨⟨-, hb⟩, hc⟩)
    · exact .inl h
    · exact .inr (.inl ⟨ha.symm, hb⟩)
    · exact .inr (.inr (.inl ⟨ha, hb.symm⟩))
    · exact .inr (.inr (.inr ⟨hb, hc⟩))
  · rintro (h | ⟨ha, hb⟩ | ⟨ha, hb⟩ | ⟨hb, hc⟩)
    · exact .inl (.inl (.inl h))
    · exact .inl (.inl (.inr ⟨ha.symm, hb⟩))
    · exact .inl (.inr ⟨ha, hb.symm⟩)
    · -- In front of the last capital stands another one, or the word ends there anyway.
      simp only [Char.isAlphanum, Char.isAlpha, Bool.or_eq_true] at ha
      rcases ha with (ha | ha) | ha
      · exact .inr ⟨⟨ha, hb⟩, hc⟩
      · exact .inl (.inl (.inl ⟨ha, hb⟩))
      · exact .inl (.inr ⟨ha, .inr hb⟩)

/-- The words of a text, put together, have their underscores at the breaks. The induction is that
of the cutting. -/
theorem joinUpper_words {s : List Char} (h : ∀ c ∈ s, c.isAlphanum = true) :
    joinUpper (words s) = underscored s := by
  induction s using words.induct with
  | case1 => rfl
  | case2 a =>
    rw [underscored_cons, if_neg (by simp [EndsWord])]
    rfl
  | case3 a b rest hboundary ih =>
    obtain ⟨ha, hrest⟩ := List.forall_mem_cons.mp h
    rw [underscored_cons, if_pos ((isBoundary_iff ha).mp hboundary), words, if_pos hboundary,
      joinUpper_cons _ (words_ne_nil (List.cons_ne_nil b rest)), ih hrest]
    simp
  | case4 a b rest hboundary ih =>
    obtain ⟨ha, hrest⟩ := List.forall_mem_cons.mp h
    rw [underscored_cons, if_neg (mt (isBoundary_iff ha).mpr hboundary), words, if_neg hboundary,
      joinUpper_consToHead, ih hrest]
    simp

/-! ### Taken apart -/

/-- What stands between the underscores are the words in upper case, because no word has an
underscore itself. -/
theorem splitOn_joinUpper {ws : List (List Char)} (hne : ws ≠ [])
    (h : ∀ w ∈ ws, ∀ c ∈ w, c.isAlphanum = true) :
    (joinUpper ws).splitOn '_' = ws.map (·.map Char.toUpper) := by
  refine List.splitOn_intercalate '_' ?_ (by simpa using hne)
  simp only [List.mem_map, forall_exists_index, and_imp, forall_apply_eq_imp_iff₂, not_exists,
    not_and]
  exact fun w hw c hc => toUpper_ne_underscore (h w hw c hc)

/-- Without its underscores a constant name is the field in upper case: nothing was put in but
underscores. -/
theorem filter_underscored {s : List Char} (h : ∀ c ∈ s, c.isAlphanum = true) :
    (underscored s).filter (· != '_') = s.map Char.toUpper := by
  induction s with
  | nil => rfl
  | cons a s ih =>
    obtain ⟨ha, hs⟩ := List.forall_mem_cons.mp h
    rw [underscored_cons, List.filter_append, ih hs]
    have hkept : (a.toUpper != '_') = true := bne_iff_ne.mpr (toUpper_ne_underscore ha)
    split <;> simp [hkept]

/-- All characters of a constant name may stand in an identifier. -/
theorem isIdentPart_of_mem_underscored {s : List Char} (h : ∀ c ∈ s, c.isAlphanum = true) {c : Char}
    (hc : c ∈ underscored s) : isIdentPart c = true := by
  by_cases hunderscore : c = '_'
  · subst hunderscore
    rfl
  · have hmem : c ∈ (underscored s).filter (· != '_') := by simp [hc, hunderscore]
    rw [filter_underscored h] at hmem
    obtain ⟨d, hd, rfl⟩ := List.mem_map.mp hmem
    simp [isIdentPart, isAlphanum_toUpper, h d hd]

/-! ### Constant names -/

/-- The characters of a field name are letters and digits. -/
theorem IsLowerCamel.isAlphanum {field : String} (h : IsLowerCamel field) :
    ∀ c ∈ field.toList, c.isAlphanum = true := by
  obtain ⟨first, rest, hfield, hfirst, hrest⟩ := h
  rw [hfield]
  exact List.forall_mem_cons.mpr ⟨isAlphanum_of_isLower hfirst, hrest⟩

/-- A field name is not empty, so it has a word. -/
theorem IsLowerCamel.toList_ne_nil {field : String} (h : IsLowerCamel field) :
    field.toList ≠ [] := by
  obtain ⟨first, rest, hfield, -⟩ := h
  rw [hfield]
  exact List.cons_ne_nil first rest

/-- The constant name of a field is spelled after its breaks, and is made of words and of the field
as it should be. The last three parts are what the name is checked for before it is used. -/
structure IsConstantOf (field name : String) : Prop where
  spelled : name.toList = underscored field.toList
  /-- No two underscores follow each other, and none is at an end. -/
  nil_notMem : [] ∉ name.toList.splitOn '_'
  rebuilt : name.toList.filter (· != '_') = field.toList.map Char.toUpper
  isIdent : isIdent name = true

/-- The name put together from the words of a field is its constant name. -/
theorem IsLowerCamel.isConstantOf {field : String} (h : IsLowerCamel field) :
    IsConstantOf field (strategyName field) := by
  have hchars := h.isAlphanum
  have hspelled : (strategyName field).toList = underscored field.toList := by
    rw [strategyName, String.toList_ofList, joinUpper_words hchars]
  have hne := h.toList_ne_nil
  obtain ⟨first, rest, hfield, hfirst, -⟩ := h
  constructor
  case spelled => exact hspelled
  case nil_notMem =>
    rw [strategyName, String.toList_ofList, splitOn_joinUpper (words_ne_nil hne)
      (forall_mem_words hchars)]
    intro hnil
    obtain ⟨w, hw, hempty⟩ := List.mem_map.mp hnil
    rw [List.map_eq_nil_iff.mp hempty] at hw
    exact nil_notMem_words field.toList hw
  case rebuilt =>
    rw [hspelled]
    exact filter_underscored hchars
  case isIdent =>
    -- The name starts with the first letter of the field in upper case.
    obtain ⟨more, hcons⟩ : ∃ more, underscored field.toList = first.toUpper :: more := by
      rw [hfield, underscored_cons]
      split <;> exact ⟨_, rfl⟩
    have hstart : isIdentStart first.toUpper = true := by
      simp [isIdentStart, Char.isAlpha, hfirst]
    have hpart : ∀ c ∈ more, isIdentPart c = true := by
      intro c hc
      refine isIdentPart_of_mem_underscored hchars ?_
      rw [hcons]
      exact List.mem_cons_of_mem _ hc
    rw [Text.isIdent, hspelled, hcons]
    simp only [hstart, List.all_eq_true.mpr hpart, Bool.and_true]

/-- A text that is no field name is refused before it is cut into words, and the error tells why.
-/
theorem exists_checkField_eq_error {name : String} (h : ¬ IsLowerCamel name) :
    ∃ fault ∈ [IdentifierFault.emptyField, .underscore name, .upperStart name,
      .foreignCharacter name], checkField name = .error fault := by
  cases hcheck : checkField name with
  | ok checked => exact absurd (checkField_eq_ok_iff.mp hcheck) h
  | error fault =>
    refine ⟨fault, ?_, rfl⟩
    unfold checkField at hcheck
    split at hcheck
    · cases hcheck
      exact List.mem_cons_self
    · split_ifs at hcheck <;> cases hcheck <;> simp

/-- A field in lowerCamelCase has a constant name, which is spelled after the breaks of the field.
Any other text is refused for being empty, for an underscore, for its first character or for
another one, and never for its words. -/
theorem constantName?_cases (field : String) :
    (IsLowerCamel field ∧ ∃ name, constantName? field = .ok name ∧ IsConstantOf field name) ∨
      (¬ IsLowerCamel field ∧ ∃ fault ∈ [IdentifierFault.emptyField, .underscore field,
        .upperStart field, .foreignCharacter field], constantName? field = .error fault) := by
  by_cases h : IsLowerCamel field
  · exact .inl ⟨h, _, constantName?_eq_ok_iff.mpr ⟨h, rfl⟩, h.isConstantOf⟩
  · obtain ⟨fault, hfault, hcheck⟩ := exists_checkField_eq_error h
    refine .inr ⟨h, fault, hfault, ?_⟩
    rw [constantName?, hcheck]
    rfl

/-- A break in front of a capital, one in front of the last capital of a run, and one in front of a
digit. -/
example : constantName? "aBCd1" = .ok "A_B_CD_1" := by rfl

end Fixtures.Naming
