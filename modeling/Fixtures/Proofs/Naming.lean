import Fixtures.Naming
import Fixtures.Proofs.Failing

/-!
# `Fixtures.Proofs.Naming`: which fields have a constant name

Every lowerCamelCase name has a constant name, and no other text has one
(`constantName?_eq_ok_iff`). The check that the words of a field rebuild its name never fails,
because cutting a text into words loses none of it (`flatten_words`) and leaves no word empty
(`nil_notMem_words`).
-/

set_option autoImplicit false

namespace Fixtures.Naming

/-! ### Words -/

/-- A character in front of the first word is in front of the whole text. The two lemmas on this
function follow its two cases. -/
theorem flatten_consToHead (c : Char) (ws : List (List Char)) :
    (consToHead c ws).flatten = c :: ws.flatten := by
  cases ws with
  | nil => rfl
  | cons word ws => rfl

/-- A text is cut into words without a loss. So the words, put together, are the text that was cut.
-/
theorem flatten_words (s : List Char) : (words s).flatten = s := by
  induction s using words.induct with
  | case1 => rfl
  | case2 a => rfl
  | case3 a b rest hboundary ih =>
    rw [words, if_pos hboundary, List.flatten_cons, ih]
    rfl
  | case4 a b rest hboundary ih => rw [words, if_neg hboundary, flatten_consToHead, ih]

/-- A character in front of the first word makes no word empty. -/
theorem nil_notMem_consToHead {c : Char} {ws : List (List Char)} (h : [] ∉ ws) :
    [] ∉ consToHead c ws := by
  cases ws with
  | nil => simp [consToHead]
  | cons word ws =>
    simp only [consToHead, List.mem_cons, List.nil_eq, reduceCtorEq, false_or]
    exact fun hmem => h (List.mem_cons_of_mem _ hmem)

/-- No word is empty. A cut is only made between two characters. -/
theorem nil_notMem_words (s : List Char) : [] ∉ words s := by
  induction s using words.induct with
  | case1 => exact List.not_mem_nil
  | case2 a => simp [words]
  | case3 a b rest hboundary ih =>
    rw [words, if_pos hboundary]
    simpa using ih
  | case4 a b rest hboundary ih =>
    rw [words, if_neg hboundary]
    exact nil_notMem_consToHead ih

/-! ### Names -/

/-- A lowerCamelCase name: an ASCII lower-case letter and then ASCII letters and digits. It need
not have a capital. -/
def IsLowerCamel (name : String) : Prop :=
  ∃ first rest, name.toList = first :: rest ∧ first.isLower = true ∧
    ∀ c ∈ rest, c.isAlphanum = true

/-- The words of a field in upper case, joined by underscores. It is made for every text; whether
it is accepted is another question. -/
def strategyName (field : String) : String := String.ofList (joinUpper (words field.toList))

/-- A lower-case letter is a letter. -/
theorem isAlphanum_of_isLower {c : Char} (h : c.isLower = true) : c.isAlphanum = true := by
  show (c.isUpper || c.isLower || c.isDigit) = true
  rw [h, Bool.or_true, Bool.true_or]

/-- The check of field names accepts those in lowerCamelCase. It asks four questions, of which the
first three single out what is told as an error of its own. -/
theorem checkField_eq_ok_iff {name : String} : checkField name = .ok () ↔ IsLowerCamel name := by
  unfold checkField
  constructor
  · intro h
    split at h
    · cases h
    · next first rest hname =>
      split_ifs at h with hunderscore hlower hall
      simp only [Bool.not_eq_true, Bool.not_eq_false', List.all_eq_true] at hlower hall
      exact ⟨first, rest, hname, hlower, fun c hc => hall c (List.mem_cons_of_mem _ hc)⟩
  · rintro ⟨first, rest, hname, hlower, hall⟩
    have hchars : ∀ c ∈ first :: rest, c.isAlphanum = true := by
      intro c hc
      rcases List.mem_cons.mp hc with rfl | hc
      · exact isAlphanum_of_isLower hlower
      · exact hall c hc
    -- An underscore is neither a letter nor a digit.
    have hunderscore : (first :: rest).contains '_' = false := by
      refine Bool.eq_false_iff.mpr fun hcontains => ?_
      exact absurd (hchars '_' (List.contains_iff_mem.mp hcontains)) (by decide)
    rw [hname]
    simp only [hunderscore, hlower, List.all_eq_true.mpr hchars]
    rfl

/-- A field has a constant name when its own name is in lowerCamelCase, and the constant is then
named after its words. -/
theorem constantName?_eq_ok_iff {field name : String} :
    constantName? field = .ok name ↔ IsLowerCamel field ∧ name = strategyName field := by
  -- The words rebuild the name and none is empty, so this check never fails.
  have hwords : ((words field.toList).any List.isEmpty
      || (words field.toList).flatten != field.toList) = false := by
    rw [flatten_words, bne_self_eq_false, Bool.or_false, List.any_eq_false]
    intro word hword hempty
    exact nil_notMem_words _ (List.isEmpty_iff.mp hempty ▸ hword)
  rw [← checkField_eq_ok_iff, constantName?, bind_eq_ok_iff]
  simp only [hwords, strategyName]
  constructor
  · rintro ⟨⟨⟩, hcheck, hname⟩
    cases hname
    exact ⟨hcheck, rfl⟩
  · rintro ⟨hcheck, rfl⟩
    exact ⟨(), hcheck, rfl⟩

end Fixtures.Naming
