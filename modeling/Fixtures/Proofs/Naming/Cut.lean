import Fixtures.Proofs.Naming.Breaks
import Fixtures.Proofs.Reading

/-!
# `Fixtures.Proofs.Naming.Cut`: words that cutting finds

Which words a text is cut into depends on all of it, but whether given words are those of the text
they make can be seen at their ends. `IsCut` says that there is a boundary where one word meets the
next, and nowhere else. It holds for the words of every text (`isCut_words`), and whatever has it is
found by cutting (`IsCut.words_flatten`).

A boundary between two characters may depend on the one behind them. Inside a word that goes on with
small letters, or that is of digits, it does not (`Joined`), so such a word is cut off in front of
cut words as soon as its last character meets them at a boundary (`IsCut.cons`).

The words of a field are of letters or of digits, and no two neighbours are of digits (`AreWords`).
-/

set_option autoImplicit false

namespace Fixtures.Naming

open Text

/-! ### Cut texts -/

/-- The words are cut like the text they make: wherever there is a boundary, and nowhere else. Each
rule puts one character in front, as a word of its own or into the first word. -/
inductive IsCut : List (List Char) → Prop
  | nil : IsCut []
  | last {a : Char} : IsCut [[a]]
  | start {a b : Char} {w : List Char} {ws : List (List Char)}
      (hboundary : isBoundary a b (w ++ ws.flatten) = true) (h : IsCut ((b :: w) :: ws)) :
      IsCut ([a] :: (b :: w) :: ws)
  | more {a b : Char} {w : List Char} {ws : List (List Char)}
      (hboundary : isBoundary a b (w ++ ws.flatten) = false) (h : IsCut ((b :: w) :: ws)) :
      IsCut ((a :: b :: w) :: ws)

/-- The first word starts with the first character, and what is left of it and the other words are
the rest of the text. -/
theorem exists_words_cons (b : Char) (s : List Char) :
    ∃ w ws, words (b :: s) = (b :: w) :: ws ∧ w ++ ws.flatten = s := by
  obtain ⟨v, ws, hwords⟩ := List.exists_cons_of_ne_nil (words_ne_nil (List.cons_ne_nil b s))
  have hflatten := flatten_words (b :: s)
  rw [hwords, List.flatten_cons] at hflatten
  cases v with
  | nil =>
    refine absurd ?_ (nil_notMem_words (b :: s))
    rw [hwords]
    exact List.mem_cons_self
  | cons c w =>
    obtain ⟨rfl, hrest⟩ := List.cons.inj hflatten
    exact ⟨w, ws, hwords, hrest⟩

/-- The words of a text are cut like it. The induction is that of the cutting, with a rule for each
of its cases. -/
theorem isCut_words (s : List Char) : IsCut (words s) := by
  induction s using words.induct with
  | case1 => exact .nil
  | case2 a => exact .last
  | case3 a b rest hboundary ih =>
    obtain ⟨w, ws, hwords, rfl⟩ := exists_words_cons b rest
    rw [words, if_pos hboundary, hwords]
    exact .start hboundary (hwords ▸ ih)
  | case4 a b rest hboundary ih =>
    obtain ⟨w, ws, hwords, rfl⟩ := exists_words_cons b rest
    rw [words, if_neg hboundary, hwords]
    exact .more (Bool.not_eq_true _ ▸ hboundary) (hwords ▸ ih)

namespace IsCut

variable {ws : List (List Char)}

/-- Cutting finds the words that are cut like their text. -/
theorem words_flatten (h : IsCut ws) : words ws.flatten = ws := by
  induction h with
  | nil => rfl
  | last => rfl
  | @start a b w ws hboundary h ih =>
    show words (a :: b :: (w ++ ws.flatten)) = _
    rw [words, if_pos hboundary]
    exact congrArg ([a] :: ·) ih
  | @more a b w ws hboundary h ih =>
    show words (a :: b :: (w ++ ws.flatten)) = _
    rw [words, if_neg (Bool.eq_false_iff.mp hboundary)]
    exact congrArg (consToHead a) ih

/-- Behind the first word the others are cut like their text. -/
theorem tail (h : IsCut ws) : IsCut ws.tail := by
  induction h with
  | nil => exact .nil
  | last => exact .nil
  | start hboundary h ih => exact h
  | more hboundary h ih => exact ih

end IsCut

/-! ### Kinds of words -/

/-- A word of letters, of both cases. -/
def IsLetters (w : List Char) : Prop := ∀ c ∈ w, c.isAlpha = true

/-- A word of digits. -/
def IsDigits (w : List Char) : Prop := ∀ c ∈ w, c.isDigit = true

/-- A word of one letter. -/
def IsInitial (w : List Char) : Prop := ∃ c : Char, w = [c] ∧ c.isAlpha = true

/-- A letter or digit is one of both. -/
theorem isAlpha_or_isDigit {c : Char} (h : c.isAlphanum = true) :
    c.isAlpha = true ∨ c.isDigit = true := by
  rwa [Char.isAlphanum, Bool.or_eq_true] at h

/-- A digit is no small letter. -/
theorem isLower_of_isDigit {c : Char} (h : c.isDigit = true) : c.isLower = false := by
  have := toNat_of_isDigit h
  simp only [Char.isLower, Bool.and_eq_false_iff, decide_eq_false_iff_not, UInt32.le_iff_toNat_le]
  left
  show ¬ 97 ≤ c.toNat
  omega

/-- A digit is no capital. -/
theorem isUpper_of_isDigit {c : Char} (h : c.isDigit = true) : c.isUpper = false := by
  have := toNat_of_isDigit h
  simp only [Char.isUpper, ge_iff_le, Bool.decide_and, Bool.and_eq_false_iff,
    decide_eq_false_iff_not, UInt32.le_iff_toNat_le]
  left
  show ¬ 65 ≤ c.toNat
  omega

/-- A digit is no letter. -/
theorem isAlpha_of_isDigit {c : Char} (h : c.isDigit = true) : c.isAlpha = false := by
  rw [Char.isAlpha, isLower_of_isDigit h, isUpper_of_isDigit h, Bool.or_false]

/-! ### Boundaries between kinds of characters -/

section

variable {a b : Char} (rest : List Char)

/-- A letter and a digit have a boundary between them, in either order, whatever follows. -/
theorem isBoundary_of_isAlpha_of_isDigit (ha : a.isAlpha = true) (hb : b.isDigit = true) :
    isBoundary a b rest = true := by
  rw [Char.isAlpha, Bool.or_comm] at ha
  simp [isBoundary, ha, hb]

theorem isBoundary_of_isDigit_of_isAlpha (ha : a.isDigit = true) (hb : b.isAlpha = true) :
    isBoundary a b rest = true := by
  rw [Char.isAlpha, Bool.or_comm] at hb
  simp [isBoundary, ha, hb]

/-- So have a small letter and a capital. -/
theorem isBoundary_of_isLower_of_isUpper (ha : a.isLower = true) (hb : b.isUpper = true) :
    isBoundary a b rest = true := by
  simp [isBoundary, ha, hb]

/-- Two capitals have a boundary between them if a small letter follows. This is the only boundary
that depends on a third character. -/
theorem isBoundary_of_isUpper (ha : a.isUpper = true) (hb : b.isUpper = true) :
    isBoundary a b rest = rest.head?.any Char.isLower := by
  have hdigit : ∀ c : Char, c.isUpper = true → c.isDigit = false := by
    intro c hc
    refine Bool.eq_false_iff.mpr fun hdigit => ?_
    rw [isUpper_of_isDigit hdigit] at hc
    cases hc
  have hlower : a.isLower = false := Bool.eq_false_iff.mpr (Char.not_isLower_of_isUpper ha)
  simp [isBoundary, ha, hb, hlower, hdigit a ha, hdigit b hb]

/-- A small letter goes on with any word of letters. -/
theorem isBoundary_of_isLower (ha : a.isAlpha = true) (hb : b.isLower = true) :
    isBoundary a b rest = false := by
  have hupper : b.isUpper = false := Bool.eq_false_iff.mpr (Char.not_isUpper_of_isLower hb)
  have hdigit : a.isDigit = false := by
    refine Bool.eq_false_iff.mpr fun hdigit => ?_
    rw [isAlpha_of_isDigit hdigit] at ha
    cases ha
  have hdigit' : b.isDigit = false := by
    refine Bool.eq_false_iff.mpr fun hdigit' => ?_
    rw [isLower_of_isDigit hdigit'] at hb
    cases hb
  simp [isBoundary, hupper, hdigit, hdigit']

/-- A digit goes on with any word of digits. -/
theorem isBoundary_of_isDigit (ha : a.isDigit = true) (hb : b.isDigit = true) :
    isBoundary a b rest = false := by
  simp [isBoundary, isLower_of_isDigit, isUpper_of_isDigit, ha, hb]

end

/-! ### Words without boundaries -/

/-- No word ends between two characters, whatever follows them. Such a pair is inside one word in
every text. -/
def Joined (a b : Char) : Prop := ∀ rest, isBoundary a b rest = false

/-- A character goes on with small letters if it is a letter, and with digits if it is one. So
capitalized words and words of digits are never cut. -/
theorem isChain_joined {a : Char} {w : List Char}
    (h : (a.isAlpha = true ∧ ∀ c ∈ w, c.isLower = true) ∨
      (a.isDigit = true ∧ ∀ c ∈ w, c.isDigit = true)) : (a :: w).IsChain Joined := by
  induction w generalizing a with
  | nil => exact .singleton a
  | cons b w ih =>
    refine List.isChain_cons_cons.mpr ⟨fun rest => ?_, ih ?_⟩
    · rcases h with ⟨ha, hw⟩ | ⟨ha, hw⟩
      · exact isBoundary_of_isLower rest ha (hw b List.mem_cons_self)
      · exact isBoundary_of_isDigit rest ha (hw b List.mem_cons_self)
    · rcases h with ⟨-, hw⟩ | ⟨-, hw⟩
      · obtain ⟨hb, hw⟩ := List.forall_mem_cons.mp hw
        exact .inl ⟨by rw [Char.isAlpha, hb, Bool.or_true], hw⟩
      · exact .inr (List.forall_mem_cons.mp hw)

/-- A word without boundaries is cut off in front of cut words if its last character meets the next
word at a boundary. By induction on the word, which is put in front character by character. -/
theorem IsCut.cons {a : Char} {w : List Char} {ws : List (List Char)}
    (hjoined : (a :: w).IsChain Joined) (h : IsCut ws)
    (hmeets : ∀ b v vs, ws = (b :: v) :: vs →
      isBoundary (w.getLastD a) b (v ++ vs.flatten) = true) :
    IsCut ((a :: w) :: ws) := by
  induction w generalizing a with
  | nil =>
    cases h with
    | nil => exact .last
    | last => exact .start (hmeets _ _ _ rfl) .last
    | start hboundary h => exact .start (hmeets _ _ _ rfl) (.start hboundary h)
    | more hboundary h => exact .start (hmeets _ _ _ rfl) (.more hboundary h)
  | cons b w ih =>
    obtain ⟨hab, hjoined⟩ := List.isChain_cons_cons.mp hjoined
    exact .more (hab _) (ih hjoined (by simpa only [List.getLastD_cons] using hmeets))

/-! ### The words of a field -/

namespace IsCut

variable {ws : List (List Char)}

/-- No word has letters and digits, because there is a boundary between them. The induction puts a
character in front of the first word, which is of one kind by then. -/
theorem isLetters_or_isDigits (h : IsCut ws) (hchars : ∀ w ∈ ws, ∀ c ∈ w, c.isAlphanum = true) :
    ∀ w ∈ ws, IsLetters w ∨ IsDigits w := by
  have hone : ∀ a : Char, a.isAlphanum = true → IsLetters [a] ∨ IsDigits [a] := by
    intro a ha
    simpa [IsLetters, IsDigits] using isAlpha_or_isDigit ha
  induction h with
  | nil => exact fun w hw => absurd hw List.not_mem_nil
  | @last a =>
    intro w hw
    obtain rfl := List.mem_singleton.mp hw
    exact hone a (hchars _ hw a List.mem_cons_self)
  | @start a b w ws hboundary h ih =>
    obtain ⟨ha, hrest⟩ := List.forall_mem_cons.mp hchars
    exact List.forall_mem_cons.mpr ⟨hone a (ha a List.mem_cons_self), ih hrest⟩
  | @more a b w ws hboundary h ih =>
    obtain ⟨hfirst, hrest⟩ := List.forall_mem_cons.mp hchars
    obtain ⟨ha, hw⟩ := List.forall_mem_cons.mp hfirst
    obtain ⟨ihfirst, ihrest⟩ := List.forall_mem_cons.mp (ih (List.forall_mem_cons.mpr ⟨hw, hrest⟩))
    refine List.forall_mem_cons.mpr ⟨?_, ihrest⟩
    rcases ihfirst with hletters | hdigits
    · refine .inl (List.forall_mem_cons.mpr ⟨?_, hletters⟩)
      refine (isAlpha_or_isDigit ha).resolve_right fun hdigit => ?_
      rw [isBoundary_of_isDigit_of_isAlpha _ hdigit (hletters b List.mem_cons_self)] at hboundary
      cases hboundary
    · refine .inr (List.forall_mem_cons.mpr ⟨?_, hdigits⟩)
      refine (isAlpha_or_isDigit ha).resolve_left fun halpha => ?_
      rw [isBoundary_of_isAlpha_of_isDigit _ halpha (hdigits b List.mem_cons_self)] at hboundary
      cases hboundary

/-- Two words of digits never stand next to each other, because there is no boundary between
digits. -/
theorem isChain_not_isDigits (h : IsCut ws) :
    ws.IsChain fun w v => ¬ (IsDigits w ∧ IsDigits v) := by
  induction h with
  | nil => exact .nil
  | last => exact .singleton _
  | @start a b w ws hboundary h ih =>
    refine List.isChain_cons_cons.mpr ⟨?_, ih⟩
    rintro ⟨ha, hb⟩
    rw [isBoundary_of_isDigit _ (ha a List.mem_cons_self) (hb b List.mem_cons_self)] at hboundary
    cases hboundary
  | @more a b w ws hboundary h ih =>
    refine List.isChain_cons.mpr ⟨fun v hv hdigits => ?_, ih.tail⟩
    exact (List.isChain_cons.mp ih).1 v hv ⟨(List.forall_mem_cons.mp hdigits.1).2, hdigits.2⟩

end IsCut

/-- Words that may stand in a field in this order. Two neighbours may both be of letters, when
there is a capital between them. -/
structure AreWords (ws : List (List Char)) : Prop where
  nil_notMem : [] ∉ ws
  kinds : ∀ w ∈ ws, IsLetters w ∨ IsDigits w
  digits : ws.IsChain fun w v => ¬ (IsDigits w ∧ IsDigits v)

/-- The words of letters and digits may stand in a field. -/
theorem areWords_words {s : List Char} (h : ∀ c ∈ s, c.isAlphanum = true) : AreWords (words s) where
  nil_notMem := nil_notMem_words s
  kinds := (isCut_words s).isLetters_or_isDigits (forall_mem_words h)
  digits := (isCut_words s).isChain_not_isDigits

namespace AreWords

variable {w : List Char} {ws : List (List Char)}

theorem tail (h : AreWords (w :: ws)) : AreWords ws where
  nil_notMem := fun hnil => h.nil_notMem (List.mem_cons_of_mem _ hnil)
  kinds := fun v hv => h.kinds v (List.mem_cons_of_mem _ hv)
  digits := h.digits.tail

theorem exists_cons (h : AreWords ws) (hw : w ∈ ws) : ∃ a v, w = a :: v :=
  List.exists_cons_of_ne_nil fun hnil => h.nil_notMem (hnil ▸ hw)

end AreWords

end Fixtures.Naming
