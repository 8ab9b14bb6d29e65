import Fixtures.Proofs.Naming.Cut

/-!
# `Fixtures.Proofs.Naming.WordCase`: from a constant name back to its field

The constant name of a field in word case is the field itself up to letter case, and with its first
character in lower case it is a field name again (`constantName?_uncapitalize_wordCase`). Word case
writes each word with one capital, so a second cutting may find fewer words than the first one did:

    a1bC   A_1_B_C   A1BC   a1BC   A_1_BC

The two constant names are the same exactly when behind the first word no two words of one letter
stand next to each other. Such words can only come from a small letter between a digit and a
capital. Acronyms, single letters elsewhere and digits are all found again.

The name that comes back is made of the words of the field in another letter case (`camelCased`). It
has the same constant name when these are what it is cut into (`joinUpper_words_flatten_eq_iff`), so
the proof asks where two words in word case meet at a boundary (`AreWords.isCut_capitalized_iff`).
-/

set_option autoImplicit false

namespace Fixtures.Naming

open Text

/-! ### Words in word case -/

/-- A word with its first character in upper case and the others in lower case. A word of digits
stays as it is. -/
def capitalized : List Char → List Char
  | [] => []
  | c :: rest => c.toUpper :: rest.map Char.toLower

/-- Digits have one case. -/
theorem toUpper_of_isDigit {c : Char} (h : c.isDigit = true) : c.toUpper = c :=
  Char.toUpper_eq_of_not_isLower (by rw [isLower_of_isDigit h]; exact Bool.false_ne_true)

/-- Digits are not changed by lower case either, nor are words of digits. -/
theorem toLower_of_isDigit {c : Char} (h : c.isDigit = true) : c.toLower = c :=
  Char.toLower_eq_of_not_isUpper (by rw [isUpper_of_isDigit h]; exact Bool.false_ne_true)

theorem map_toLower_of_isDigits {w : List Char} (h : IsDigits w) : w.map Char.toLower = w := by
  simpa using List.map_congr_left fun c hc => toLower_of_isDigit (h c hc)

/-- Letters in lower case are small letters. -/
theorem isLower_of_mem_map_toLower {w : List Char} (h : IsLetters w) :
    ∀ c ∈ w.map Char.toLower, c.isLower = true := by
  simp only [List.mem_map, forall_exists_index, and_imp, forall_apply_eq_imp_iff₂,
    Char.isLower_toLower_eq_isAlpha]
  exact h

section

variable {a b : Char} {w v : List Char}

/-- A capitalized word has no boundaries: what follows its capital are small letters, or all of it
are digits. -/
theorem isChain_joined_capitalized (h : IsLetters (a :: w) ∨ IsDigits (a :: w)) :
    (a.toUpper :: w.map Char.toLower).IsChain Joined := by
  refine isChain_joined ?_
  rcases h with h | h
  · obtain ⟨ha, hw⟩ := List.forall_mem_cons.mp h
    exact .inl ⟨by rwa [Char.isAlpha_toUpper_eq_isAlpha], isLower_of_mem_map_toLower hw⟩
  · obtain ⟨ha, hw⟩ := List.forall_mem_cons.mp h
    rw [map_toLower_of_isDigits hw, toUpper_of_isDigit ha]
    exact .inr ⟨ha, hw⟩

/-- A small letter meets a capitalized word at a boundary. -/
theorem isBoundary_lower_capitalized (ha : a.isLower = true)
    (hv : IsLetters (b :: v) ∨ IsDigits (b :: v)) (rest : List Char) :
    isBoundary a b.toUpper rest = true := by
  rcases hv with hv | hv
  · refine isBoundary_of_isLower_of_isUpper rest ha ?_
    rw [Char.isUpper_toUpper_eq_isAlpha]
    exact hv b List.mem_cons_self
  · have hb := hv b List.mem_cons_self
    rw [toUpper_of_isDigit hb]
    exact isBoundary_of_isAlpha_of_isDigit rest (by rw [Char.isAlpha, ha, Bool.or_true]) hb

/-- Two capitalized words meet at a boundary, unless both are of digits or both of one letter. What
stands behind the second word does not matter then. -/
theorem isBoundary_capitalized (hw : IsLetters (a :: w) ∨ IsDigits (a :: w))
    (hv : IsLetters (b :: v) ∨ IsDigits (b :: v))
    (hdigits : ¬ (IsDigits (a :: w) ∧ IsDigits (b :: v)))
    (hinitials : ¬ (IsInitial (a :: w) ∧ IsInitial (b :: v))) (rest : List Char) :
    isBoundary ((w.map Char.toLower).getLastD a.toUpper) b.toUpper (v.map Char.toLower ++ rest) =
      true := by
  rcases hw with hw | hw
  · obtain ⟨ha, hw⟩ := List.forall_mem_cons.mp hw
    cases w with
    | cons c w =>
      -- The word ends with a small letter.
      refine isBoundary_lower_capitalized (isLower_of_mem_map_toLower hw _ ?_) hv _
      rw [List.map_cons, List.getLastD_cons]
      exact List.getLastD_mem_cons
    | nil =>
      -- The word is one capital, so what follows the next one counts.
      rcases hv with hv | hv
      · obtain ⟨hb, hv⟩ := List.forall_mem_cons.mp hv
        cases v with
        | nil => exact absurd ⟨⟨a, rfl, ha⟩, ⟨b, rfl, hb⟩⟩ hinitials
        | cons c v =>
          have hc := hv c List.mem_cons_self
          simp [isBoundary, ha, hb, hc]
      · have hb := hv b List.mem_cons_self
        rw [toUpper_of_isDigit hb]
        refine isBoundary_of_isAlpha_of_isDigit _ ?_ hb
        simpa using ha
  · have hb : b.isAlpha = true :=
      hv.resolve_right (fun hv => hdigits ⟨hw, hv⟩) b List.mem_cons_self
    obtain ⟨ha, hw'⟩ := List.forall_mem_cons.mp hw
    rw [map_toLower_of_isDigits hw', toUpper_of_isDigit ha]
    refine isBoundary_of_isDigit_of_isAlpha _ (hw _ List.getLastD_mem_cons) ?_
    rwa [Char.isAlpha_toUpper_eq_isAlpha]

end

/-! ### Capitalized words that are cut like their text -/

namespace AreWords

variable {w : List Char} {ws : List (List Char)}

/-- No capitalized word starts with a small letter. -/
theorem any_isLower_head?_capitalized (h : AreWords ws) :
    (ws.map capitalized).flatten.head?.any Char.isLower = false := by
  cases ws with
  | nil => rfl
  | cons w ws =>
    obtain ⟨a, w, rfl⟩ := h.exists_cons List.mem_cons_self
    exact Char.isLower_toUpper_eq_false a

/-- Words in front of capitalized words that may stand behind them are cut off if the last character
of the word meets the next word at a boundary. -/
theorem isCut_cons_capitalized {a : Char} (h : AreWords ws) (hcut : IsCut (ws.map capitalized))
    (hjoined : (a :: w).IsChain Joined)
    (hmeets : ∀ b v, (b :: v) ∈ ws.head? → ∀ rest,
      isBoundary (w.getLastD a) b.toUpper (v.map Char.toLower ++ rest) = true) :
    IsCut ((a :: w) :: ws.map capitalized) := by
  refine hcut.cons hjoined fun b v vs hws => ?_
  obtain ⟨u, us, rfl, hu, rfl⟩ := List.map_eq_cons_iff.mp hws
  obtain ⟨c, u, rfl⟩ := h.exists_cons List.mem_cons_self
  obtain ⟨rfl, rfl⟩ := List.cons.inj hu
  exact hmeets c u rfl _

/-- Capitalized words are cut like their text when no two neighbours are of one letter each. Two
such words would be two capitals, with no small letter behind them. -/
theorem isCut_capitalized_iff (h : AreWords ws) : IsCut (ws.map capitalized) ↔
    ws.IsChain fun w v => ¬ (IsInitial w ∧ IsInitial v) := by
  induction ws with
  | nil => exact ⟨fun _ => .nil, fun _ => .nil⟩
  | cons w ws ih =>
    obtain ⟨a, w, rfl⟩ := h.exists_cons List.mem_cons_self
    have hkind := h.kinds _ List.mem_cons_self
    rw [List.isChain_cons, ← ih h.tail]
    constructor
    · intro hcut
      refine ⟨?_, hcut.tail⟩
      -- Two capitals, behind which no small letter stands, do not meet at a boundary.
      rintro v hv ⟨⟨c, hc, hletter⟩, ⟨d, rfl, hletter'⟩⟩
      obtain ⟨rfl, rfl⟩ := List.cons.inj hc
      obtain ⟨ws, rfl⟩ := List.head?_eq_some_iff.mp hv
      cases hcut with
      | start hboundary hcut =>
        have hnext : (List.map Char.toLower [] ++ (ws.map capitalized).flatten).head?.any
            Char.isLower = false := h.tail.tail.any_isLower_head?_capitalized
        rw [isBoundary_of_isUpper _ (by rwa [Char.isUpper_toUpper_eq_isAlpha])
          (by rwa [Char.isUpper_toUpper_eq_isAlpha]), hnext] at hboundary
        cases hboundary
    · rintro ⟨hinitials, hcut⟩
      refine h.tail.isCut_cons_capitalized hcut (isChain_joined_capitalized hkind) ?_
      intro b v hv
      have hv' := h.kinds _ (List.mem_cons_of_mem _ (List.mem_of_mem_head? hv))
      exact isBoundary_capitalized hkind hv' ((List.isChain_cons.mp h.digits).1 _ hv)
        (hinitials _ hv)

end AreWords

/-! ### Word case -/

/-- Characters of identifiers are in the basic alphabet. -/
theorem toNat_lt_of_isIdentPart {c : Char} (h : isIdentPart c = true) : c.toNat < 128 := by
  rcases isIdentPart_iff.mp h with h | h
  · have := toNat_of_isIdentStart h
    omega
  · have := toNat_of_isDigit h
    omega

/-- So are letters and digits. -/
theorem toNat_lt_of_isAlphanum {c : Char} (h : c.isAlphanum = true) : c.toNat < 128 :=
  toNat_lt_of_isIdentPart (by simp [isIdentPart, h])

/-- In the basic alphabet every underscore stands alone. Elsewhere one may be part of a cluster
with the character in front of it or behind it, and then it does not separate words. -/
theorem underscoreParts_eq_splitOn {s : List Char} (h : ∀ c ∈ s, c.toNat < 128) :
    underscoreParts false s = s.splitOn '_' := by
  induction s with
  | nil => rfl
  | cons c s ih =>
    obtain ⟨hc, hs⟩ := List.forall_mem_cons.mp h
    have hattaches : s.head?.any Cluster.attaches = false := by
      cases s with
      | nil => rfl
      | cons d s => exact Cluster.attaches_ascii d (hs d List.mem_cons_self)
    rw [underscoreParts, Cluster.leads_ascii c hc, ih hs, List.splitOn_eq_splitOnP,
      List.splitOn_eq_splitOnP, List.splitOnP_cons_eq_if_modifyHead, hattaches]
    by_cases hunderscore : c = '_'
    · simp [hunderscore]
    · obtain ⟨v, vs, hparts⟩ := List.exists_cons_of_ne_nil (List.splitOnP_ne_nil (· == '_') s)
      simp [hunderscore, hparts, consToHead]

/-- In the basic alphabet lower case does not depend on the neighbours. The one letter that depends
on them is not in it. -/
theorem lowerAfter_eq_map {before s : List Char} (h : ∀ c ∈ s, c.toNat < 128) :
    LetterCase.lowerAfter before s = s.map Char.toLower := by
  induction s generalizing before with
  | nil => rfl
  | cons c s ih =>
    obtain ⟨hc, hs⟩ := List.forall_mem_cons.mp h
    have hne : c ≠ 'Σ' := by
      rintro rfl
      exact absurd hc (by decide)
    rw [LetterCase.lowerAfter, ih hs, if_neg hne, LetterCase.lower_ascii c hc]
    rfl

/-- A word of a constant name in word case is the capitalized word of the field. -/
theorem titleCase_map_toUpper {w : List Char} (h : ∀ c ∈ w, c.isAlphanum = true) :
    titleCase (w.map Char.toUpper) = capitalized w := by
  have hlt : ∀ c ∈ w.map Char.toUpper, c.toNat < 128 := by
    simp only [List.mem_map, forall_exists_index, and_imp, forall_apply_eq_imp_iff₂]
    exact fun c hc => toNat_lt_of_isAlphanum (isAlphanum_toUpper c ▸ h c hc)
  cases w with
  | nil => rfl
  | cons c w =>
    rw [List.map_cons] at hlt ⊢
    obtain ⟨hc, hw⟩ := List.forall_mem_cons.mp hlt
    rw [titleCase, LetterCase.upper_ascii _ hc, lowerAfter_eq_map hw]
    simp [capitalized]

/-- The constant name of a field in word case: its words are capitalized. The underscores are taken
for separators and are gone. -/
theorem IsLowerCamel.toList_wordCase {field : String} (h : IsLowerCamel field) :
    (wordCase (strategyName field)).toList = ((words field.toList).map capitalized).flatten := by
  have hchars := h.isAlphanum
  have hwords := forall_mem_words hchars
  have hlt : ∀ c ∈ (strategyName field).toList, c.toNat < 128 := by
    rw [h.isConstantOf.spelled]
    exact fun c hc => toNat_lt_of_isIdentPart (isIdentPart_of_mem_underscored hchars hc)
  rw [wordCase, String.toList_ofList, underscoreParts_eq_splitOn hlt, strategyName,
    String.toList_ofList, splitOn_joinUpper (words_ne_nil h.toList_ne_nil) hwords,
    List.flatMap_def, List.map_map]
  refine congrArg List.flatten (List.map_congr_left fun w hw => ?_)
  exact titleCase_map_toUpper (hwords w hw)

/-- A name with its first character in lower case, if that is an ASCII letter. -/
def uncapitalize (name : String) : String :=
  match name.toList with
  | [] => ""
  | c :: rest => String.ofList (c.toLower :: rest)

/-- Capitalizing a word does not change it up to letter case. -/
theorem map_toLower_capitalized (w : List Char) :
    (capitalized w).map Char.toLower = w.map Char.toLower := by
  cases w <;> simp [capitalized]

/-- This holds of either case. -/
theorem map_toUpper_capitalized (w : List Char) :
    (capitalized w).map Char.toUpper = w.map Char.toUpper := by
  cases w <;> simp [capitalized]

/-! ### Names that are found again -/

/-- A text that is another one up to letter case is one of letters and digits if the other is. -/
theorem forall_isAlphanum_of_map_toUpper {s t : List Char}
    (h : t.map Char.toUpper = s.map Char.toUpper) (hs : ∀ c ∈ s, c.isAlphanum = true) :
    ∀ c ∈ t, c.isAlphanum = true := by
  intro c hc
  have hmem : c.toUpper ∈ s.map Char.toUpper := h ▸ List.mem_map_of_mem hc
  obtain ⟨d, hd, heq⟩ := List.mem_map.mp hmem
  rw [← isAlphanum_toUpper, ← heq, isAlphanum_toUpper]
  exact hs d hd

/-- Words that are those of a text up to letter case make a text with the same constant name when
they are cut like it. The underscores of a constant name tell the lengths of the words, and the
text is the same up to case. -/
theorem joinUpper_words_flatten_eq_iff {s : List Char} {vs : List (List Char)} (hne : s ≠ [])
    (hs : ∀ c ∈ s, c.isAlphanum = true)
    (hvs : vs.map (·.map Char.toUpper) = (words s).map (·.map Char.toUpper)) :
    joinUpper (words vs.flatten) = joinUpper (words s) ↔ IsCut vs := by
  have hupper : vs.flatten.map Char.toUpper = s.map Char.toUpper := by
    rw [List.map_flatten, hvs, ← List.map_flatten, flatten_words]
  constructor
  · intro h
    have hne' : vs.flatten ≠ [] := by
      intro hnil
      rw [hnil] at hupper
      exact hne (List.map_eq_nil_iff.mp hupper.symm)
    have hparts := congrArg (List.splitOn '_') h
    rw [splitOn_joinUpper (words_ne_nil hne')
        (forall_mem_words (forall_isAlphanum_of_map_toUpper hupper hs)),
      splitOn_joinUpper (words_ne_nil hne) (forall_mem_words hs), ← hvs] at hparts
    -- The text is the same, so words of the same lengths are the same words.
    have hlengths := congrArg (List.map List.length) hparts
    simp only [List.map_map, Function.comp_def, List.length_map] at hlengths
    have hwords : words vs.flatten = vs :=
      List.eq_iff_flatten_eq.mpr ⟨flatten_words vs.flatten, hlengths⟩
    rw [← hwords]
    exact isCut_words vs.flatten
  · intro h
    rw [h.words_flatten, joinUpper, joinUpper, hvs]

/-- Words in lowerCamelCase: the first one in lower case, the others capitalized. Put together they
are what the constant name gives back. -/
def camelCased : List (List Char) → List (List Char)
  | [] => []
  | w :: ws => w.map Char.toLower :: ws.map capitalized

/-- Only the letter case of the words is changed. -/
theorem map_toUpper_camelCased (ws : List (List Char)) :
    (camelCased ws).map (·.map Char.toUpper) = ws.map (·.map Char.toUpper) := by
  cases ws with
  | nil => rfl
  | cons w ws => simp [camelCased, map_toUpper_capitalized]

/-- Words of which the first one has letters are cut like their text, in lowerCamelCase, when no
two neighbours among the others are of one letter each. The first word ends with a small letter, so
what follows it is always cut off. -/
theorem AreWords.isCut_camelCased_iff {w : List Char} {ws : List (List Char)}
    (h : AreWords (w :: ws)) (hw : IsLetters w) : IsCut (camelCased (w :: ws)) ↔
      ws.IsChain fun w v => ¬ (IsInitial w ∧ IsInitial v) := by
  rw [← h.tail.isCut_capitalized_iff]
  refine ⟨IsCut.tail, fun hcut => ?_⟩
  obtain ⟨a, w, rfl⟩ := h.exists_cons List.mem_cons_self
  have hlower := isLower_of_mem_map_toLower hw
  obtain ⟨ha, hrest⟩ := List.forall_mem_cons.mp hlower
  refine h.tail.isCut_cons_capitalized hcut (isChain_joined (.inl ⟨?_, hrest⟩)) ?_
  · rw [Char.isAlpha_toLower_eq_isAlpha]
    exact hw a List.mem_cons_self
  · intro b v hv rest
    have hv' := h.kinds _ (List.mem_cons_of_mem _ (List.mem_of_mem_head? hv))
    exact isBoundary_lower_capitalized (hlower _ List.getLastD_mem_cons) hv' _

/-- The name that a constant name gives back, its words in lowerCamelCase. -/
theorem IsLowerCamel.toList_uncapitalize_wordCase {field : String} (h : IsLowerCamel field) :
    (uncapitalize (wordCase (strategyName field))).toList =
      (camelCased (words field.toList)).flatten := by
  have hwordCase := h.toList_wordCase
  obtain ⟨first, rest, hfield, -⟩ := id h
  obtain ⟨w, ws, hwords, -⟩ := exists_words_cons first rest
  rw [hfield, hwords] at hwordCase ⊢
  rw [uncapitalize, hwordCase]
  simp [camelCased, capitalized]

/-- The name that a constant name gives back is a field name. It begins with the letter that the
field begins with, in lower case. -/
theorem IsLowerCamel.isLowerCamel_uncapitalize_wordCase {field : String} (h : IsLowerCamel field) :
    IsLowerCamel (uncapitalize (wordCase (strategyName field))) := by
  have hback := h.toList_uncapitalize_wordCase
  have hupper : (camelCased (words field.toList)).flatten.map Char.toUpper =
      field.toList.map Char.toUpper := by
    rw [List.map_flatten, map_toUpper_camelCased, ← List.map_flatten, flatten_words]
  have hchars := forall_isAlphanum_of_map_toUpper hupper h.isAlphanum
  obtain ⟨first, rest, hfield, hfirst, -⟩ := h
  obtain ⟨w, ws, hwords, -⟩ := exists_words_cons first rest
  rw [← hfield] at hwords
  rw [hwords] at hback hchars
  refine ⟨first.toLower, _, hback, ?_, (List.forall_mem_cons.mp hchars).2⟩
  rw [Char.isLower_toLower_eq_isAlpha, Char.isAlpha, hfirst, Bool.or_true]

/-- It has the same constant name when no two neighbours among the words of the field, behind the
first one, are of one letter each. The name that comes back is written as the words of the field,
and the question is whether it is cut into them again. -/
theorem IsLowerCamel.strategyName_uncapitalize_wordCase_iff {field : String}
    (h : IsLowerCamel field) :
    strategyName (uncapitalize (wordCase (strategyName field))) = strategyName field ↔
      (words field.toList).tail.IsChain fun w v => ¬ (IsInitial w ∧ IsInitial v) := by
  have hback := h.toList_uncapitalize_wordCase
  have hwords := areWords_words h.isAlphanum
  generalize uncapitalize (wordCase (strategyName field)) = back at hback ⊢
  rw [strategyName, strategyName, String.ofList_inj, hback,
    joinUpper_words_flatten_eq_iff h.toList_ne_nil h.isAlphanum (map_toUpper_camelCased _)]
  obtain ⟨first, rest, hfield, hfirst, -⟩ := h
  obtain ⟨w, ws, hcons, -⟩ := exists_words_cons first rest
  rw [hfield, hcons] at hwords ⊢
  -- The first word has the first character of the field, which is a letter.
  refine hwords.isCut_camelCased_iff
    ((hwords.kinds _ List.mem_cons_self).resolve_right fun hdigits => ?_)
  rw [isLower_of_isDigit (hdigits first List.mem_cons_self)] at hfirst
  cases hfirst

/-- The constant name of a field gives, in word case, the field up to letter case. With its first
character in lower case this is a field name, and it has the constant name again exactly when no two
neighbours among the words behind the first one are of one letter each. -/
theorem constantName?_uncapitalize_wordCase {field name : String}
    (h : constantName? field = .ok name) :
    (wordCase name).toList.map Char.toLower = field.toList.map Char.toLower ∧
      ∃ again, constantName? (uncapitalize (wordCase name)) = .ok again ∧
        (again = name ↔ (words field.toList).tail.IsChain fun w v =>
          ¬ (IsInitial w ∧ IsInitial v)) := by
  obtain ⟨hcamel, rfl⟩ := constantName?_eq_ok_iff.mp h
  refine ⟨?_, _, constantName?_eq_ok_iff.mpr ⟨hcamel.isLowerCamel_uncapitalize_wordCase, rfl⟩,
    hcamel.strategyName_uncapitalize_wordCase_iff⟩
  rw [hcamel.toList_wordCase, List.map_flatten, List.map_map]
  simp only [Function.comp_def, map_toLower_capitalized]
  rw [← List.map_flatten, flatten_words]

/-- An acronym, single letters and digits are found again. -/
theorem constantName?_uncapitalize_wordCase_acronym :
    constantName? "aHTTPxB2c" = .ok "A_HTT_PX_B_2_C" ∧
      constantName? (uncapitalize (wordCase "A_HTT_PX_B_2_C")) = .ok "A_HTT_PX_B_2_C" := by
  have hname : constantName? "aHTTPxB2c" = .ok "A_HTT_PX_B_2_C" := by rfl
  obtain ⟨-, again, hagain, hiff⟩ := constantName?_uncapitalize_wordCase hname
  have hwords : (words "aHTTPxB2c".toList).tail =
      [['H', 'T', 'T'], ['P', 'x'], ['B'], ['2'], ['c']] := by rfl
  -- The two single letters have a digit between them.
  have hchain : (words "aHTTPxB2c".toList).tail.IsChain fun w v =>
      ¬ (IsInitial w ∧ IsInitial v) := by
    rw [hwords]
    simp [IsInitial, Char.isAlpha]
  obtain rfl := hiff.mpr hchain
  exact ⟨hname, hagain⟩

/-- A small letter between a digit and a capital is not found again as a word of its own. -/
theorem not_constantName?_uncapitalize_wordCase :
    ¬ ∀ field name : String, constantName? field = .ok name →
      (wordCase name).toList.map Char.toLower = field.toList.map Char.toLower ∧
        constantName? (uncapitalize (wordCase name)) = .ok name := by
  intro hall
  have hname : constantName? "a1bC" = .ok "A_1_B_C" := by rfl
  have hback : uncapitalize (wordCase "A_1_B_C") = "a1BC" := by decide +kernel
  have hagain : constantName? "a1BC" = .ok "A_1_BC" := by rfl
  have hsame := (hall _ _ hname).2
  rw [hback, hagain] at hsame
  exact absurd (Except.ok.inj hsame) (by decide)

end Fixtures.Naming
