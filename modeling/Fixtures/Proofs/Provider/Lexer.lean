import Fixtures.Proofs.Provider.Lexeme

/-!
# `Fixtures.Proofs.Provider.Lexer`: tokens and their texts

`Lexes` says which tokens the end of a source has. A blank means nothing, and anything else starts
with the token that has the longest spelling there, which has to be allowed
(`exists_isFirst_of_lexes`). The other way round every spelling is read back where it does not go on
(`Lexes.spelled`), and there is a lemma for each kind of token. Words and numbers need an end, since
each is read as far as its characters go. A symbol needs none, except `!`, which is half of `!=`.

The places of tokens depend on the whole source and mean nothing to the parser, so the lemmas about
the kinds of tokens leave them open.
-/

set_option autoImplicit false

namespace Fixtures.Provider

open Text

/-- The end `s` of a source of `total` bytes has these tokens. The size of the whole source is
there because a token knows its place, which is counted from the front. -/
def Lexes (total : Nat) (s : List Char) (ts : List Token) : Prop := tokensFrom total s = .ok ts

section

variable {total : Nat} {c : Char} {s w rest : List Char} {kind : TokenKind} {ts : List Token}

/-- The end of the source has no tokens. -/
theorem lexes_nil (total : Nat) : Lexes total [] [] := by
  rw [Lexes, tokensFrom.eq_def]

/-- Blanks between tokens mean nothing. -/
theorem Lexes.blank (c : Char) (hc : isBlank c = true) (h : Lexes total s ts) :
    Lexes total (c :: s) ts := by
  rw [Lexes, tokensFrom.eq_def]
  simp only [hc, if_true]
  exact h

/-- A token that is read wherever the source starts comes before the tokens of the rest. Its place
is what is missing from the whole. -/
theorem Lexes.token (hrest : Lexes total rest ts)
    (hc : isBlank c = false) (h : ∀ offset, Gives (tokenAt offset c s) kind rest) :
    Lexes total (c :: s) (⟨kind, total - utf8Length (c :: s)⟩ :: ts) := by
  obtain ⟨r, hr, rfl, rfl⟩ := h (total - utf8Length (c :: s))
  rw [Lexes, tokensFrom.eq_def]
  simp only [hc, Bool.false_eq_true, if_false, hr]
  rw [hrest]

/-- A spelling that does not go on is read as its token, if that is allowed. All lemmas for kinds
of tokens below are cases of this. -/
theorem Lexes.spelled (h : Spells w kind) (hallowed : kind.IsAllowed)
    (hends : Ends kind.goesOn rest) (hrest : Lexes total rest ts) :
    Lexes total (w ++ rest) (⟨kind, total - utf8Length (w ++ rest)⟩ :: ts) := by
  obtain ⟨c, w', rfl, -⟩ := h.exists_cons
  exact hrest.token h.isBlank_eq_false fun offset => h.gives_tokenAt hends hallowed

/-- What is not blank has tokens when its first one is allowed and the rest has tokens. So an
induction over a text can go from token to token. -/
theorem exists_isFirst_of_lexes (hc : isBlank c = false) (h : Lexes total (c :: s) ts) :
    ∃ w kind rest o ts', IsFirst (c :: s) w kind rest ∧ kind.IsAllowed ∧ rest.length ≤ s.length ∧
      Lexes total rest ts' ∧ ts = ⟨kind, o⟩ :: ts' := by
  rw [Lexes, tokensFrom.eq_def] at h
  simp only [hc, Bool.false_eq_true, if_false] at h
  split at h
  · cases h
  · next r hr =>
    split at h
    · cases h
    · next ts' hts' =>
      cases h
      obtain ⟨⟨w, hfirst⟩, hallowed⟩ := isFirst_of_gives_tokenAt (gives_of_eq_ok hr)
      exact ⟨w, _, _, _, ts', hfirst, hallowed, r.rest_le, hts', rfl⟩

/-! ### Symbols -/

/-- Every symbol of one character but `!` is read, whatever follows it. -/
theorem Lexes.symbol (c : Char) (hkind : shortSymbol? c = some kind)
    (hc : c ≠ '!') (h : Lexes total s ts) : ∃ o, Lexes total (c :: s) (⟨kind, o⟩ :: ts) := by
  obtain ⟨hgoes, hallowed⟩ := goesOn_of_shortSymbol? hkind
  exact ⟨_, h.spelled (.shortSymbol hkind) hallowed
    fun d _ => hgoes d (longSymbol?_eq_none hkind hc d)⟩

/-- A negation is read where it is not the start of an inequality. -/
theorem Lexes.bang (hs : ∀ d ∈ s.head?, d ≠ '=') (h : Lexes total s ts) :
    ∃ o, Lexes total ('!' :: s) (⟨.bang, o⟩ :: ts) :=
  ⟨_, h.spelled (.shortSymbol rfl) trivial fun d hd => beq_false_of_ne (hs d hd)⟩

/-- A symbol of two characters is read. -/
theorem Lexes.longSymbol (c d : Char) (hkind : longSymbol? c d = some kind)
    (h : Lexes total s ts) : ∃ o, Lexes total (c :: d :: s) (⟨kind, o⟩ :: ts) := by
  obtain ⟨hgoes, hallowed⟩ := goesOn_of_longSymbol? hkind
  exact ⟨_, h.spelled (.longSymbol hkind) hallowed fun e _ => hgoes e⟩

/-! ### Words -/

/-- The text is an identifier, and none that only statements have. -/
def IsWord (w : String) : Prop := isIdent w = true ∧ w ∉ statementWords

instance (w : String) : Decidable (IsWord w) := inferInstanceAs (Decidable (_ ∧ _))

/-- A word is read as such up to its end. What follows must not go on with it. -/
theorem Lexes.word (w : String) (hw : IsWord w) (hend : Ends isIdentPart rest)
    (h : Lexes total rest ts) : ∃ o, Lexes total (w.toList ++ rest) (⟨.ident w, o⟩ :: ts) :=
  ⟨_, h.spelled (.word hw.1) hw.2 hend⟩

/-! ### Numbers -/

/-- What ends a word ends a number. -/
theorem ends_isDigit (hend : Ends isIdentPart rest) : Ends Char.isDigit rest := by
  intro c hc
  rw [Bool.eq_false_iff]
  intro hdigit
  have hpart := hend c hc
  rw [isIdentPart_iff.mpr (.inr hdigit)] at hpart
  simp at hpart

/-- The text of a number is a digit and more of them, and their value is the number. The digits are
those that the reader accepts. -/
theorem exists_digits (n : Nat) : ∃ c cs, (toString n).toList = c :: cs ∧ c.isDigit = true ∧
    (∀ d ∈ cs, d.isDigit = true) ∧ Nat.ofDigitChars 10 (c :: cs) 0 = n := by
  have hdigits : ∀ c ∈ Nat.toDigits 10 n, c.isDigit = true :=
    fun c hc => Nat.isDigit_of_mem_toDigits (by decide) (by decide) hc
  rw [Nat.toString_eq_ofList_toDigits, String.toList_ofList]
  cases hcs : Nat.toDigits 10 n with
  | nil => exact absurd hcs Nat.toDigits_ne_nil
  | cons c cs =>
    rw [hcs] at hdigits
    refine ⟨c, cs, rfl, hdigits c (by simp), fun d hd => hdigits d (by simp [hd]), ?_⟩
    rw [← hcs, Nat.ofDigitChars_ten_toDigits]

/-- A number is read from its digits up to their end, unless it is too large. -/
theorem Lexes.int {n : Nat} (hn : n ≤ maxInt) (hend : Ends isIdentPart rest)
    (h : Lexes total rest ts) :
    ∃ o, Lexes total ((toString n).toList ++ rest) (⟨.int n, o⟩ :: ts) := by
  obtain ⟨c, cs, hcs, hc, hmore, hvalue⟩ := exists_digits n
  have hspells : Spells (c :: cs) (.int n) := by
    have hdigits : ∀ d ∈ c :: cs, d.isDigit = true := List.forall_mem_cons.mpr ⟨hc, hmore⟩
    simpa only [hvalue] using Spells.number (List.cons_ne_nil c cs) hdigits
  rw [hcs]
  exact ⟨_, h.spelled hspells hn (ends_isDigit hend)⟩

/-! ### Literals -/

/-- A text is read from the literal that it is written as, whatever follows the closing quote. -/
theorem Lexes.text {value : String} (h : Lexes total rest ts) :
    ∃ o, Lexes total ((Literal.encode value).toList ++ rest) (⟨.text value, o⟩ :: ts) :=
  ⟨_, h.spelled (spells_encode value) trivial fun _ _ => rfl⟩

/-! ### Integers are in range -/

/-- The token is no integer that is too large. Tokens of other kinds have nothing to be in range.
-/
def Token.InRange (token : Token) : Prop := ∀ n, token.kind = .int n → n ≤ maxInt

/-- All integers among the tokens of a source are in range. The induction goes along the text, over
blanks and tokens as the reader does. -/
theorem Lexes.inRange : ∀ {s : List Char} {ts : List Token}, Lexes total s ts →
    ∀ token ∈ ts, token.InRange
  | [], ts, h => by
    cases h.symm.trans (lexes_nil total)
    simp
  | c :: s, ts, h => by
    cases hc : isBlank c with
    | true =>
      rw [Lexes, tokensFrom.eq_def] at h
      simp only [hc, if_true] at h
      exact Lexes.inRange h
    | false =>
      obtain ⟨w, kind, rest, o, ts', -, hallowed, hle, hrest, rfl⟩ := exists_isFirst_of_lexes hc h
      refine List.forall_mem_cons.mpr ⟨?_, Lexes.inRange hrest⟩
      rintro n rfl
      exact hallowed
termination_by s => s.length
decreasing_by all_goals simp only [List.length_cons]; omega

end

end Fixtures.Provider
