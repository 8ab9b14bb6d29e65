import Fixtures.Text.Blank
import Fixtures.Text.Ident
import Fixtures.Text.Reading
import Mathlib.Data.List.TakeWhile

/-!
# `Fixtures.Proofs.Reading`: what a reader gives

A reader returns its value and the rest of the list together with a bound on the rest, so two
readings of different lists are never equal. `Gives` states the outcome without the bound. The
proofs about the readers of this library are written with it: one lemma for each reader says what
it gives in terms of what the readers give that it calls.

Words are read as far as their characters go. `takeWhile_append_of_ends` and
`dropWhile_append_of_ends` say that this finds a word again that something else follows. For the
words of identifiers there are the code points of their characters, which tell them from blanks,
digits and symbols.
-/

set_option autoImplicit false

namespace Fixtures

variable {τ ε α : Type} {s : List τ}

/-- The reader succeeds with `value` and leaves `rest`. The bound on the rest is not part of this,
so readings of different lists can be compared. -/
def Gives (x : Except ε (Reading s α)) (value : α) (rest : List τ) : Prop :=
  ∃ r, x = .ok r ∧ r.value = value ∧ r.rest = rest

@[simp] theorem gives_ok_iff {r : Reading s α} {value : α} {rest : List τ} :
    Gives (.ok r : Except ε (Reading s α)) value rest ↔ r.value = value ∧ r.rest = rest := by
  simp [Gives]

@[simp] theorem not_gives_error {fault : ε} {value : α} {rest : List τ} :
    ¬ Gives (.error fault : Except ε (Reading s α)) value rest := by
  simp [Gives]

/-- A success gives what it holds. -/
theorem gives_of_eq_ok {x : Except ε (Reading s α)} {r : Reading s α} (h : x = .ok r) :
    Gives x r.value r.rest :=
  ⟨r, h, rfl, rfl⟩

/-- A reader leaves no more than there was. This is what the bound in a reading is for, and it is
why readers that call each other end. -/
theorem Gives.length_le {x : Except ε (Reading s α)} {value : α} {rest : List τ}
    (h : Gives x value rest) : rest.length ≤ s.length := by
  obtain ⟨r, -, -, rfl⟩ := h
  exact r.rest_le

/-! ### Words -/

section Words

variable {p : τ → Bool} {word rest : List τ}

/-- What follows a word does not go on with it. At the end of the text nothing follows, and that is
an end as well. -/
def Ends (p : τ → Bool) (rest : List τ) : Prop := ∀ c ∈ rest.head?, p c = false

/-- What is left after all characters of a class does not go on with one. -/
theorem ends_dropWhile (p : τ → Bool) (s : List τ) : Ends p (s.dropWhile p) := by
  intro c hc
  have h := List.head?_dropWhile_not p s
  rw [Option.mem_def.mp hc] at h
  exact h

/-- Without such characters in front there is nothing to drop. -/
theorem dropWhile_eq_self_of_ends (hrest : Ends p rest) : rest.dropWhile p = rest := by
  cases rest with
  | nil => rfl
  | cons c rest => simp [hrest c (by simp)]

theorem takeWhile_append_of_ends (hword : ∀ c ∈ word, p c = true) (hrest : Ends p rest) :
    (word ++ rest).takeWhile p = word := by
  rw [List.takeWhile_append_of_pos hword]
  cases rest with
  | nil => simp
  | cons c rest => simp [hrest c (by simp)]

theorem dropWhile_append_of_ends (hword : ∀ c ∈ word, p c = true) (hrest : Ends p rest) :
    (word ++ rest).dropWhile p = rest := by
  rw [List.dropWhile_append_of_pos hword, dropWhile_eq_self_of_ends hrest]

end Words

/-! ### Identifiers -/

namespace Text

/-- The code points that an identifier may start with. -/
theorem toNat_of_isIdentStart {c : Char} (h : isIdentStart c = true) :
    (65 ≤ c.toNat ∧ c.toNat ≤ 90) ∨ (97 ≤ c.toNat ∧ c.toNat ≤ 122) ∨ c.toNat = 95 ∨
      c.toNat = 36 := by
  have hstart : isIdentStart c = ((decide (65 ≤ c.val ∧ c.val ≤ 90)
      || (decide (97 ≤ c.val) && decide (c.val ≤ 122))) || c == '_' || c == '$') := rfl
  simp only [hstart, Bool.or_eq_true, Bool.and_eq_true, decide_eq_true_eq, UInt32.le_iff_toNat_le,
    beq_iff_eq] at h
  rcases h with ((h | h) | rfl) | rfl
  · exact .inl h
  · exact .inr (.inl h)
  · decide
  · decide

/-- The code points of digits. -/
theorem toNat_of_isDigit {c : Char} (h : c.isDigit = true) : 48 ≤ c.toNat ∧ c.toNat ≤ 57 := by
  simp only [Char.isDigit, Bool.and_eq_true, decide_eq_true_eq, UInt32.le_iff_toNat_le,
    ge_iff_le] at h
  exact h

/-- An identifier goes on with what it may start with and with digits. -/
theorem isIdentPart_iff {c : Char} :
    isIdentPart c = true ↔ isIdentStart c = true ∨ c.isDigit = true := by
  simp only [isIdentPart, isIdentStart, Char.isAlphanum, Bool.or_eq_true]
  constructor
  · rintro (((h | h) | h) | h) <;> simp [h]
  · rintro (((h | h) | h) | h) <;> simp [h]

/-- An identifier has a first character, and all others go on with it. -/
theorem exists_cons_of_isIdent {w : String} (h : isIdent w = true) : ∃ c cs, w.toList = c :: cs ∧
    isIdentStart c = true ∧ ∀ d ∈ cs, isIdentPart d = true := by
  unfold isIdent at h
  split at h
  · simp at h
  · next c cs hcs =>
    obtain ⟨hc, hpart⟩ : isIdentStart c = true ∧ ∀ d ∈ cs, isIdentPart d = true := by
      simpa using h
    exact ⟨c, cs, hcs, hc, hpart⟩

/-- No character of an identifier is blank. -/
theorem isBlank_of_isIdentPart {c : Char} (h : isIdentPart c = true) : isBlank c = false := by
  have hrange : (48 ≤ c.toNat ∧ c.toNat ≤ 57) ∨ (65 ≤ c.toNat ∧ c.toNat ≤ 90) ∨
      (97 ≤ c.toNat ∧ c.toNat ≤ 122) ∨ c.toNat = 95 ∨ c.toNat = 36 := by
    rcases isIdentPart_iff.mp h with h | h
    · exact .inr (toNat_of_isIdentStart h)
    · exact .inl (toNat_of_isDigit h)
  simp only [isBlank, Bool.or_eq_false_iff, Bool.and_eq_false_iff, decide_eq_false_iff_not,
    beq_eq_false_iff_ne]
  omega

/-- A text is the trimmed text with blanks on both sides. Inside the trimmed text there may be
blanks too, they are kept. -/
theorem exists_toList_eq_trim (s : String) : ∃ before after,
    s.toList = before ++ (trim s).toList ++ after ∧
      (∀ c ∈ before, isBlank c = true) ∧ ∀ c ∈ after, isBlank c = true := by
  have hend : ∀ t : List Char, trimEndChars t ++ (t.reverse.takeWhile isBlank).reverse = t := by
    intro t
    rw [trimEndChars, ← List.reverse_append, List.takeWhile_append_dropWhile, List.reverse_reverse]
  refine ⟨s.toList.takeWhile isBlank,
    ((s.toList.dropWhile isBlank).reverse.takeWhile isBlank).reverse, ?_, ?_, ?_⟩
  · rw [trim, String.toList_ofList, trimChars, List.append_assoc, hend,
      List.takeWhile_append_dropWhile]
  · intro c hc
    exact List.mem_takeWhile_imp hc
  · intro c hc
    exact List.mem_takeWhile_imp (List.mem_reverse.mp hc)

end Text

end Fixtures
