import Fixtures.Proofs.Reading
import Fixtures.Provider.Lexer
import Fixtures.Text.Literal

/-!
# `Fixtures.Proofs.Provider.Lexeme`: the texts of tokens

`Spells w kind` says that the text `w` is a spelling of a token: a word, digits, a literal between
quotes, or a symbol of one or two characters. Spellings do not depend on what stands around them.
Words that only statements have and numbers that are too large are spellings like others, since a
reader takes them as a whole before it refuses them (`TokenKind.IsAllowed`).

A source is read by longest match: the token at its front has the longest spelling that the source
starts with (`IsFirst`). The reader knows nothing of other spellings. It looks at one character and
goes on as long as the token does, and `isFirst_iff` says that this comes to the same: a spelling is
the longest one exactly when the next character does not go on with it (`TokenKind.goesOn`). From
this `gives_tokenAt_iff` says what the reader gives, without a word about how it reads.
-/

set_option autoImplicit false

namespace Fixtures.Provider

open Text

/-! ### Spellings -/

/-- The text `body` between quotes of this kind stands for `value`. A backslash takes the character
behind it along, whatever that is, so an escaped quote does not end the literal. -/
inductive Quotes (quote : Char) : List Char → List Char → Prop
  | nil : Quotes quote [] []
  | plain {c : Char} {body value : List Char} (hquote : c ≠ quote) (hescape : c ≠ '\\')
      (h : Quotes quote body value) : Quotes quote (c :: body) (c :: value)
  | escaped {c : Char} {body value : List Char} (h : Quotes quote body value) :
      Quotes quote ('\\' :: c :: body) (unescape c :: value)

/-- The characters that literals stand between. -/
def quoteMarks : List Char := ['"', '\'']

/-- The text is a spelling of the token. Nothing is said of what stands around it: that the
spelling is taken as far as it goes is left to `IsFirst`. -/
inductive Spells : List Char → TokenKind → Prop
  | word {w : String} (h : isIdent w = true) : Spells w.toList (.ident w)
  | number {digits : List Char} (hne : digits ≠ []) (h : ∀ c ∈ digits, c.isDigit = true) :
      Spells digits (.int (Nat.ofDigitChars 10 digits 0))
  | literal {quote : Char} {body value : List Char} (hquote : quote ∈ quoteMarks)
      (h : Quotes quote body value) :
      Spells (quote :: (body ++ [quote])) (.text (String.ofList value))
  | shortSymbol {c : Char} {kind : TokenKind} (h : shortSymbol? c = some kind) : Spells [c] kind
  | longSymbol {c d : Char} {kind : TokenKind} (h : longSymbol? c d = some kind) :
      Spells [c, d] kind

/-- A word is none that only statements have, and a number is not too large. Tokens that are not
allowed are refused, and not read in another way. -/
def TokenKind.IsAllowed : TokenKind → Prop
  | .ident w => w ∉ statementWords
  | .int n => n ≤ maxInt
  | _ => True

/-- The characters with which a token goes on. Only words and numbers are open at the end, and `!`,
which may become `!=`. -/
def TokenKind.goesOn : TokenKind → Char → Bool
  | .ident _ => isIdentPart
  | .int _ => Char.isDigit
  | .bang => (· == '=')
  | _ => fun _ => false

/-- The token at the front of `s` is spelled `w`, and no longer spelling stands there. The longer
one may be that of another token, as `!=` is for `!`. -/
structure IsFirst (s w : List Char) (kind : TokenKind) (rest : List Char) : Prop where
  spells : Spells w kind
  eq_append : s = w ++ rest
  longest : ∀ w' kind', Spells w' kind' → w' <+: s → w'.length ≤ w.length

/-! ### Characters -/

/-- The characters that end the reading at once. -/
def blockMarks : List Char := ['{', '}', ';']

/-- The characters that are errors by themselves, or open a literal. -/
def marks : List Char := blockMarks ++ quoteMarks

/-- The character starts symbols and no other token. The four kinds of characters exclude each
other, so the first one decides how the reader goes on. -/
def IsSymbol (c : Char) : Prop :=
  isBlank c = false ∧ c.isDigit = false ∧ isIdentStart c = false ∧ c ∉ marks

instance (c : Char) : Decidable (IsSymbol c) := inferInstanceAs (Decidable (_ ∧ _ ∧ _ ∧ _))

/-- The symbols of one character start so. -/
theorem isSymbol_of_shortSymbol? {c : Char} {kind : TokenKind} (h : shortSymbol? c = some kind) :
    IsSymbol c := by
  unfold shortSymbol? at h
  split at h
  case h_11 => simp at h
  all_goals decide

/-- So do those of two. -/
theorem isSymbol_of_longSymbol? {c d : Char} {kind : TokenKind}
    (h : longSymbol? c d = some kind) : IsSymbol c := by
  unfold longSymbol? at h
  split at h
  case h_6 => simp at h
  all_goals decide

/-- Only `!` is a symbol and half of one. Every other symbol of one character ends there, and every
other half is none. -/
theorem longSymbol?_eq_none {c : Char} {kind : TokenKind} (h : shortSymbol? c = some kind)
    (hc : c ≠ '!') (d : Char) : longSymbol? c d = none := by
  unfold longSymbol?
  split
  case h_3 => exact absurd rfl hc
  case h_6 => rfl
  all_goals simp [shortSymbol?] at h

/-- The start of an identifier starts a word and no other token. -/
theorem ne_of_isIdentStart {c : Char} (h : isIdentStart c = true) :
    c.isDigit = false ∧ c ∉ marks := by
  have hrange := toNat_of_isIdentStart h
  constructor
  · rw [Bool.eq_false_iff]
    intro hdigit
    have := toNat_of_isDigit hdigit
    omega
  · intro hc
    simp only [marks, blockMarks, quoteMarks, List.cons_append, List.nil_append, List.mem_cons,
      List.not_mem_nil, or_false] at hc
    rcases hc with rfl | rfl | rfl | rfl | rfl <;> simp [isIdentStart] at h

/-- A digit starts a number and no other token. -/
theorem ne_of_isDigit {c : Char} (h : c.isDigit = true) :
    isIdentStart c = false ∧ c ∉ marks := by
  have hrange := toNat_of_isDigit h
  constructor
  · rw [Bool.eq_false_iff]
    intro hstart
    have := toNat_of_isIdentStart hstart
    omega
  · intro hc
    simp only [marks, blockMarks, quoteMarks, List.cons_append, List.nil_append, List.mem_cons,
      List.not_mem_nil, or_false] at hc
    rcases hc with rfl | rfl | rfl | rfl | rfl <;> simp at h

/-! ### What a spelling starts with -/

section

variable {c : Char} {w : List Char} {kind : TokenKind}

/-- What starts like a word is a spelling of a word. -/
theorem Spells.of_isIdentStart (h : Spells (c :: w) kind) (hc : isIdentStart c = true) :
    kind = .ident (String.ofList (c :: w)) ∧ ∀ d ∈ w, isIdentPart d = true := by
  generalize hs : c :: w = s at h
  cases h with
  | @word name h =>
    obtain ⟨c', w', hname, -, hpart⟩ := exists_cons_of_isIdent h
    rw [hname, List.cons.injEq] at hs
    exact ⟨by rw [String.ofList_toList], hs.2 ▸ hpart⟩
  | number hne h =>
    have hdigit := h c (hs ▸ List.mem_cons_self)
    simp [(ne_of_isIdentStart hc).1] at hdigit
  | literal hquote h =>
    cases hs
    exact absurd (List.mem_append_right _ hquote) (ne_of_isIdentStart hc).2
  | shortSymbol h =>
    cases hs
    simp [(isSymbol_of_shortSymbol? h).2.2.1] at hc
  | longSymbol h =>
    cases hs
    simp [(isSymbol_of_longSymbol? h).2.2.1] at hc

/-- What starts like a number is a spelling of a number. -/
theorem Spells.of_isDigit (h : Spells (c :: w) kind) (hc : c.isDigit = true) :
    kind = .int (Nat.ofDigitChars 10 (c :: w) 0) ∧ ∀ d ∈ w, d.isDigit = true := by
  generalize hs : c :: w = s at h
  cases h with
  | @word name h =>
    obtain ⟨c', w', hname, hstart, -⟩ := exists_cons_of_isIdent h
    rw [hname, List.cons.injEq] at hs
    rw [← hs.1, (ne_of_isDigit hc).1] at hstart
    cases hstart
  | number hne h => exact ⟨rfl, fun d hd => h d (hs ▸ List.mem_cons_of_mem c hd)⟩
  | literal hquote h =>
    cases hs
    exact absurd (List.mem_append_right _ hquote) (ne_of_isDigit hc).2
  | shortSymbol h =>
    cases hs
    simp [(isSymbol_of_shortSymbol? h).2.1] at hc
  | longSymbol h =>
    cases hs
    simp [(isSymbol_of_longSymbol? h).2.1] at hc

/-- What starts with a quote is a spelling of a text. -/
theorem Spells.of_mem_quoteMarks (h : Spells (c :: w) kind) (hc : c ∈ quoteMarks) :
    ∃ body value, w = body ++ [c] ∧ Quotes c body value ∧ kind = .text (String.ofList value) := by
  generalize hs : c :: w = s at h
  have hmark : c ∈ marks := List.mem_append_right _ hc
  cases h with
  | @word name h =>
    obtain ⟨c', w', hname, hstart, -⟩ := exists_cons_of_isIdent h
    rw [hname, List.cons.injEq] at hs
    exact absurd hmark (ne_of_isIdentStart (hs.1 ▸ hstart)).2
  | number hne h => exact absurd hmark (ne_of_isDigit (h c (hs ▸ List.mem_cons_self))).2
  | literal hquote h =>
    cases hs
    exact ⟨_, _, rfl, h, rfl⟩
  | shortSymbol h =>
    cases hs
    exact absurd hmark (isSymbol_of_shortSymbol? h).2.2.2
  | longSymbol h =>
    cases hs
    exact absurd hmark (isSymbol_of_longSymbol? h).2.2.2

/-- What starts like a symbol is a spelling of one, of one or two characters. -/
theorem Spells.of_isSymbol (h : Spells (c :: w) kind) (hc : IsSymbol c) :
    (w = [] ∧ shortSymbol? c = some kind) ∨ ∃ d, w = [d] ∧ longSymbol? c d = some kind := by
  obtain ⟨-, hdigit, hstart, hmark⟩ := hc
  generalize hs : c :: w = s at h
  cases h with
  | @word name h =>
    obtain ⟨c', w', hname, hstart', -⟩ := exists_cons_of_isIdent h
    rw [hname, List.cons.injEq] at hs
    rw [← hs.1, hstart] at hstart'
    cases hstart'
  | number hne h =>
    have hdigit' := h c (hs ▸ List.mem_cons_self)
    rw [hdigit] at hdigit'
    cases hdigit'
  | literal hquote h =>
    cases hs
    exact absurd (List.mem_append_right _ hquote) hmark
  | shortSymbol h =>
    cases hs
    exact .inl ⟨rfl, h⟩
  | longSymbol h =>
    cases hs
    exact .inr ⟨_, rfl, h⟩

/-- A word is spelled as itself, and in no other way. So the text of a name can be replaced by that
of another one. -/
theorem Spells.of_ident {name : String} (h : Spells w (.ident name)) :
    w = name.toList ∧ isIdent name = true := by
  generalize hkind : TokenKind.ident name = kind at h
  cases h with
  | word h =>
    cases hkind
    exact ⟨rfl, h⟩
  | number hne h => cases hkind
  | literal hquote h => cases hkind
  | shortSymbol h =>
    subst hkind
    unfold shortSymbol? at h
    split at h <;> cases h
  | longSymbol h =>
    subst hkind
    unfold longSymbol? at h
    split at h <;> cases h

/-- A spelling starts like one of the four. So it has a first character, which is not blank. -/
theorem Spells.exists_cons (h : Spells w kind) : ∃ c w', w = c :: w' ∧
    (isIdentStart c = true ∨ c.isDigit = true ∨ c ∈ quoteMarks ∨ IsSymbol c) := by
  cases h with
  | @word name h =>
    obtain ⟨c, cs, hcs, hc, -⟩ := exists_cons_of_isIdent h
    exact ⟨c, cs, hcs, .inl hc⟩
  | number hne h =>
    obtain ⟨c, cs, rfl⟩ := List.exists_cons_of_ne_nil hne
    exact ⟨c, cs, rfl, .inr (.inl (h c List.mem_cons_self))⟩
  | literal hquote h => exact ⟨_, _, rfl, .inr (.inr (.inl hquote))⟩
  | shortSymbol h => exact ⟨_, _, rfl, .inr (.inr (.inr (isSymbol_of_shortSymbol? h)))⟩
  | longSymbol h => exact ⟨_, _, rfl, .inr (.inr (.inr (isSymbol_of_longSymbol? h)))⟩

/-- An opening parenthesis is spelled as itself, and as no part of another token. A text therefore
shows by one character whether a call follows. -/
theorem Spells.eq_openParen_iff (h : Spells (c :: w) kind) : c = '(' ↔ kind = .openParen := by
  constructor
  · rintro rfl
    rcases h.of_isSymbol (by decide) with ⟨-, hshort⟩ | ⟨d, -, hlong⟩
    · exact (Option.some.inj hshort).symm
    · rw [longSymbol?_eq_none rfl (by decide) d] at hlong
      cases hlong
  · rintro rfl
    generalize hs : c :: w = s at h
    generalize hkind : TokenKind.openParen = kind at h
    cases h with
    | word h => cases hkind
    | number hne h => cases hkind
    | literal hquote h => cases hkind
    | shortSymbol h =>
      subst hkind
      unfold shortSymbol? at h
      split at h <;> cases h
      exact (List.cons.inj hs).1
    | longSymbol h =>
      subst hkind
      unfold longSymbol? at h
      split at h <;> cases h

/-- No spelling starts with a blank. -/
theorem Spells.isBlank_eq_false (h : Spells (c :: w) kind) : isBlank c = false := by
  obtain ⟨c', w', hcons, hc⟩ := h.exists_cons
  obtain ⟨rfl, rfl⟩ := List.cons.inj hcons
  rcases hc with hc | hc | hc | hc
  · exact isBlank_of_isIdentPart (isIdentPart_of_isIdentStart c hc)
  · exact isBlank_of_isIdentPart (isIdentPart_iff.mpr (.inr hc))
  · have hquote : c = '"' ∨ c = '\'' := by simpa [quoteMarks] using hc
    rcases hquote with rfl | rfl <;> decide
  · exact hc.1

end

/-! ### Literals -/

section

variable {quote : Char} {s body value rest : List Char}

/-- The closing quote ends the literal. -/
theorem literalAt?_quote (quote : Char) (s : List Char) :
    literalAt? quote (quote :: s) = some (.next []) := by
  rw [literalAt?.eq_def]
  simp

/-- An escape is undone, and the literal goes on behind it. -/
theorem literalAt?_escaped (hquote : '\\' ≠ quote) (d : Char) (s : List Char) :
    literalAt? quote ('\\' :: d :: s) =
      (literalAt? quote s).map fun r => (r.map (unescape d :: ·)).after.after := by
  rw [literalAt?.eq_def]
  simp [hquote]

/-- Any other character stands for itself. -/
theorem literalAt?_plain {c : Char} (hquote : c ≠ quote) (hc : c ≠ '\\') (s : List Char) :
    literalAt? quote (c :: s) = (literalAt? quote s).map fun r => (r.map (c :: ·)).after := by
  rw [literalAt?.eq_def]
  simp [hquote, hc]

/-- The rest of a literal is read up to the closing quote, whatever stands behind that. -/
theorem Quotes.literalAt? (hquote : '\\' ≠ quote) (h : Quotes quote body value)
    (rest : List Char) :
    ∃ r, Provider.literalAt? quote (body ++ quote :: rest) = some r ∧ r.value = value ∧
      r.rest = rest := by
  induction h with
  | nil => exact ⟨_, literalAt?_quote quote rest, rfl, rfl⟩
  | plain hne hescape h ih =>
    obtain ⟨r, hr, hvalue, hrest⟩ := ih
    rw [List.cons_append, literalAt?_plain hne hescape, hr]
    exact ⟨_, rfl, by simp [hvalue], hrest⟩
  | escaped h ih =>
    obtain ⟨r, hr, hvalue, hrest⟩ := ih
    rw [List.cons_append, List.cons_append, literalAt?_escaped hquote, hr]
    exact ⟨_, rfl, by simp [hvalue], hrest⟩

/-- What is read as the rest of a literal is one. -/
theorem exists_quotes_of_literalAt? : ∀ {s : List Char} {r : Reading s (List Char)},
    literalAt? quote s = some r → ∃ body, s = body ++ quote :: r.rest ∧ Quotes quote body r.value
  | [], r, h => by simp [literalAt?] at h
  | c :: s, r, h => by
    by_cases hquote : c = quote
    · subst hquote
      rw [literalAt?_quote] at h
      cases h
      exact ⟨[], rfl, .nil⟩
    · by_cases hescape : c = '\\'
      · subst hescape
        cases s with
        | nil => simp [literalAt?, hquote] at h
        | cons d s =>
          rw [literalAt?_escaped hquote] at h
          obtain ⟨r, hr, rfl⟩ := Option.map_eq_some_iff.mp h
          obtain ⟨body, hbody, hquotes⟩ := exists_quotes_of_literalAt? hr
          exact ⟨'\\' :: d :: body, by simpa using hbody, .escaped hquotes⟩
      · rw [literalAt?_plain hquote hescape] at h
        obtain ⟨r, hr, rfl⟩ := Option.map_eq_some_iff.mp h
        obtain ⟨body, hbody, hquotes⟩ := exists_quotes_of_literalAt? hr
        exact ⟨c :: body, by simpa using hbody, .plain hquote hescape hquotes⟩

/-- What follows a literal is the same however it is taken apart. There is one closing quote only,
since another one before it would not stand inside. -/
theorem Quotes.rest_eq {body' value' rest' : List Char} (hquote : '\\' ≠ quote)
    (h : Quotes quote body value) (h' : Quotes quote body' value')
    (heq : body ++ quote :: rest = body' ++ quote :: rest') : rest = rest' := by
  -- Both are what the reader leaves of one text.
  have hrest : (Provider.literalAt? quote (body ++ quote :: rest)).map (·.rest) = some rest := by
    obtain ⟨r, hr, -, hrest⟩ := h.literalAt? hquote rest
    rw [hr, Option.map_some, hrest]
  have hrest' : (Provider.literalAt? quote (body' ++ quote :: rest')).map (·.rest)
      = some rest' := by
    obtain ⟨r, hr, -, hrest⟩ := h'.literalAt? hquote rest'
    rw [hr, Option.map_some, hrest]
  rw [heq, hrest'] at hrest
  exact (Option.some.inj hrest).symm

/-- A backslash is no quote. So a character is not an escape and the end of a literal at once. -/
theorem ne_of_mem_quoteMarks (h : quote ∈ quoteMarks) : '\\' ≠ quote := by
  rintro rfl
  simp [quoteMarks] at h

/-- A character stands in a literal escaped or, if it is no quote and no backslash, as itself. What
is escaped is what the reader would not take as itself. -/
theorem encodeChar_cases (c : Char) :
    (∃ d, Literal.encodeChar c = ['\\', d] ∧ unescape d = c) ∨
      (Literal.encodeChar c = [c] ∧ c ≠ '"' ∧ c ≠ '\\') := by
  unfold Literal.encodeChar
  split
  · exact .inl ⟨'"', rfl, rfl⟩
  · exact .inl ⟨'\\', rfl, rfl⟩
  · exact .inl ⟨'n', rfl, rfl⟩
  · exact .inl ⟨'r', rfl, rfl⟩
  · exact .inl ⟨'t', rfl, rfl⟩
  · next hquote hbackslash _ _ _ => exact .inr ⟨rfl, hquote, hbackslash⟩

/-- Every text has a literal, in which its escapes are undone. -/
theorem quotes_flatMap_encodeChar (value : List Char) :
    Quotes '"' (value.flatMap Literal.encodeChar) value := by
  induction value with
  | nil => exact .nil
  | cons c value ih =>
    rw [List.flatMap_cons]
    rcases encodeChar_cases c with ⟨d, hd, hunescape⟩ | ⟨hc, hquote, hbackslash⟩
    · rw [hd, ← hunescape]
      exact .escaped ih
    · rw [hc]
      exact .plain hquote hbackslash ih

/-- The literal of a text is a spelling of it. The writer and the reader have their own tables of
escapes, and this is where they meet. -/
theorem spells_encode (value : String) : Spells (Literal.encode value).toList (.text value) := by
  have h := Spells.literal (by decide) (quotes_flatMap_encodeChar value.toList)
  rw [String.ofList_toList] at h
  rwa [Literal.encode, Literal.encodeChars, String.toList_ofList]

end

/-! ### Longest spellings -/

section

variable {s w w' rest : List Char} {kind kind' : TokenKind}

/-- A word of characters of a class is no longer than one that the class ends behind. -/
theorem length_le_of_ends {p : Char → Bool} (hends : Ends p rest) (hall : ∀ c ∈ w', p c = true)
    (hfront : w' <+: w ++ rest) : w'.length ≤ w.length := by
  by_contra hlt
  -- Otherwise the character behind the shorter word would be in the longer one.
  have hshort : w <+: w' :=
    List.prefix_of_prefix_length_le (List.prefix_append w rest) hfront (by omega)
  obtain ⟨more, rfl⟩ := hshort
  rw [List.prefix_append_right_inj] at hfront
  cases more with
  | nil => simp at hlt
  | cons d more =>
    obtain ⟨tail, rfl⟩ := hfront
    have hout := hends d rfl
    rw [hall d (by simp)] at hout
    cases hout

/-- Behind a token that does not go on there is no longer spelling. This is the half of
`isFirst_iff` that the reader relies on: it looks at one character only. -/
theorem Spells.length_le (h : Spells w kind) (hends : Ends kind.goesOn rest)
    (h' : Spells w' kind') (hfront : w' <+: w ++ rest) : w'.length ≤ w.length := by
  obtain ⟨c, v, rfl, hc⟩ := h.exists_cons
  obtain ⟨c', v', rfl, -⟩ := h'.exists_cons
  -- Both start with the same character, which decides what they are.
  obtain ⟨hfirst, hafter⟩ : c' = c ∧ v' <+: v ++ rest := by simpa using hfront
  subst hfirst
  rcases hc with hc | hc | hc | hc
  · obtain ⟨rfl, -⟩ := h.of_isIdentStart hc
    have hpart := (h'.of_isIdentStart hc).2
    exact Nat.succ_le_succ (length_le_of_ends hends hpart hafter)
  · obtain ⟨rfl, -⟩ := h.of_isDigit hc
    have hdigit := (h'.of_isDigit hc).2
    exact Nat.succ_le_succ (length_le_of_ends hends hdigit hafter)
  · obtain ⟨body, value, rfl, hbody, -⟩ := h.of_mem_quoteMarks hc
    obtain ⟨body', value', rfl, hbody', -⟩ := h'.of_mem_quoteMarks hc
    obtain ⟨tail, htail⟩ := hafter
    have hsame : body' ++ c' :: tail = body ++ c' :: rest := by simpa using htail
    have hrest := hbody'.rest_eq (ne_of_mem_quoteMarks hc) hbody hsame
    have hlength := congrArg List.length hsame
    simp only [List.length_append, List.length_cons, hrest] at hlength ⊢
    omega
  · rcases h'.of_isSymbol hc with ⟨rfl, -⟩ | ⟨d, rfl, hlong⟩
    · simp
    · rcases h.of_isSymbol hc with ⟨rfl, hshort⟩ | ⟨d', rfl, -⟩
      · exfalso
        -- The only symbol that starts another one is the negation, which goes on with `=`.
        obtain ⟨tail, rfl⟩ : [d] <+: rest := hafter
        by_cases hbang : c' = '!'
        · subst hbang
          obtain rfl : kind = .bang := (Option.some.inj hshort).symm
          have hd : (d == '=') = false := hends d rfl
          unfold longSymbol? at hlong
          split at hlong
          case h_3 => simp at hd
          all_goals simp_all
        · rw [longSymbol?_eq_none hshort hbang d] at hlong
          cases hlong
      · simp

/-- A token that goes on with a character has a spelling that is longer by this one. This is the
other half. -/
theorem Spells.exists_append {d : Char} (h : Spells w kind) (hd : kind.goesOn d = true) :
    ∃ kind', Spells (w ++ [d]) kind' := by
  cases h with
  | @word name h =>
    obtain ⟨c, cs, hcs, hc, hpart⟩ := exists_cons_of_isIdent h
    have hlonger : isIdent (String.ofList (name.toList ++ [d])) = true := by
      have hd : isIdentPart d = true := hd
      simpa [isIdent, hcs, hc, hd] using hpart
    have hspells := Spells.word hlonger
    rw [String.toList_ofList] at hspells
    exact ⟨_, hspells⟩
  | @number digits hne h =>
    refine ⟨_, .number (by simp) fun c hc => ?_⟩
    rcases List.mem_append.mp hc with hc | hc
    · exact h c hc
    · rw [List.mem_singleton.mp hc]
      exact hd
  | literal hquote h => simp [TokenKind.goesOn] at hd
  | @shortSymbol c kind h =>
    unfold shortSymbol? at h
    split at h
    case h_10 =>
      cases h
      obtain rfl : d = '=' := by simpa [TokenKind.goesOn] using hd
      exact ⟨_, .longSymbol rfl⟩
    case h_11 => cases h
    all_goals
      cases h
      simp [TokenKind.goesOn] at hd
  | @longSymbol c c' kind h =>
    unfold longSymbol? at h
    split at h
    case h_6 => cases h
    all_goals
      cases h
      simp [TokenKind.goesOn] at hd

/-- What is at the front of something is not blank. -/
theorem IsFirst.isBlank_eq_false {c : Char} (h : IsFirst (c :: s) w kind rest) :
    isBlank c = false := by
  obtain ⟨d, v, rfl, -⟩ := h.spells.exists_cons
  obtain ⟨rfl, -⟩ := List.cons.inj h.eq_append
  exact h.spells.isBlank_eq_false

/-- The longest spelling is the one that does not go on. The left side speaks of all spellings, the
right side of one character. -/
theorem isFirst_iff :
    IsFirst s w kind rest ↔ Spells w kind ∧ s = w ++ rest ∧ Ends kind.goesOn rest := by
  constructor
  · rintro ⟨hspells, rfl, hlongest⟩
    refine ⟨hspells, rfl, fun d hd => ?_⟩
    rw [Bool.eq_false_iff]
    intro hgoes
    obtain ⟨kind', hlonger⟩ := hspells.exists_append hgoes
    obtain ⟨tail, rfl⟩ := List.head?_eq_some_iff.mp hd
    have hle := hlongest _ _ hlonger ⟨tail, by simp⟩
    rw [List.length_append, List.length_singleton] at hle
    omega
  · rintro ⟨hspells, rfl, hends⟩
    exact ⟨hspells, rfl, fun w' kind' h' hfront => hspells.length_le hends h' hfront⟩

/-- What starts like a word has a word at the front, up to its last character. -/
theorem isFirst_of_isIdentStart {c : Char} (s : List Char) (hc : isIdentStart c = true) :
    IsFirst (c :: s) (c :: s.takeWhile isIdentPart)
      (.ident (String.ofList (c :: s.takeWhile isIdentPart))) (s.dropWhile isIdentPart) := by
  have hident : isIdent (String.ofList (c :: s.takeWhile isIdentPart)) = true := by
    rw [isIdent, String.toList_ofList]
    simp [hc]
  have hspells := Spells.word hident
  rw [String.toList_ofList] at hspells
  refine isFirst_iff.mpr ⟨hspells, ?_, ends_dropWhile _ s⟩
  rw [List.cons_append, List.takeWhile_append_dropWhile]

end

/-! ### What the reader does with each kind of character -/

section

variable {offset : Nat} {c d : Char} {s w rest : List Char} {kind : TokenKind}

/-- The characters that end the reading do so whatever follows. They are not part of any token, so
a statement is told by them at once. -/
theorem tokenAt_of_mem_blockMarks (hc : c ∈ blockMarks) :
    tokenAt offset c s = .error (.block c offset) := by
  have hblock : c = '{' ∨ c = '}' ∨ c = ';' := by simpa [blockMarks] using hc
  rw [tokenAt, if_pos hblock]

/-- A literal is read up to its closing quote. -/
theorem tokenAt_of_mem_quoteMarks (hc : c ∈ quoteMarks) :
    tokenAt offset c s = match literalAt? c s with
      | none => .error (.unterminated offset)
      | some r => .ok (r.map fun value => .text (String.ofList value)) := by
  have hquote : c = '"' ∨ c = '\'' := by simpa [quoteMarks] using hc
  have hblock : ¬ (c = '{' ∨ c = '}' ∨ c = ';') := by rcases hquote with rfl | rfl <;> decide
  exact (if_neg hblock).trans (if_pos hquote)

/-- The first two cases of the reader are those of the marks. -/
theorem ne_of_notMem_marks (hc : c ∉ marks) :
    ¬ (c = '{' ∨ c = '}' ∨ c = ';') ∧ ¬ (c = '"' ∨ c = '\'') := by
  simpa [marks, blockMarks, quoteMarks, not_or, and_assoc] using hc

/-- A number is read up to its last digit. If it is too large, its digits are in the fault, and no
shorter number is read. -/
theorem tokenAt_of_isDigit (hc : c.isDigit = true) :
    tokenAt offset c s =
      if Nat.ofDigitChars 10 (c :: s.takeWhile Char.isDigit) 0 ≤ maxInt then
        .ok ⟨.int (Nat.ofDigitChars 10 (c :: s.takeWhile Char.isDigit) 0),
          s.dropWhile Char.isDigit, length_dropWhile_le _ _⟩
      else .error (.integerRange (String.ofList (c :: s.takeWhile Char.isDigit))) := by
  obtain ⟨hblock, hquote⟩ := ne_of_notMem_marks (ne_of_isDigit hc).2
  rw [tokenAt, if_neg hblock, if_neg hquote, if_pos hc]

/-- A word is read up to its last character, and only then compared with the words of statements.
-/
theorem tokenAt_of_isIdentStart (hc : isIdentStart c = true) :
    tokenAt offset c s =
      if statementWords.contains (String.ofList (c :: s.takeWhile isIdentPart)) then
        .error (.keyword (String.ofList (c :: s.takeWhile isIdentPart)) offset)
      else .ok ⟨.ident (String.ofList (c :: s.takeWhile isIdentPart)), s.dropWhile isIdentPart,
        length_dropWhile_le _ _⟩ := by
  obtain ⟨hdigit, hmark⟩ := ne_of_isIdentStart hc
  obtain ⟨hblock, hquote⟩ := ne_of_notMem_marks hmark
  rw [tokenAt, if_neg hblock, if_neg hquote, if_neg (by simp [hdigit]), if_pos hc]

/-- Everything else is a symbol or an error. -/
theorem tokenAt_of_symbolAt? (hmark : c ∉ marks) (hdigit : c.isDigit = false)
    (hstart : isIdentStart c = false) :
    tokenAt offset c s = match symbolAt? c s with
      | some r => .ok r
      | none => .error (.strayCharacter c offset) := by
  obtain ⟨hblock, hquote⟩ := ne_of_notMem_marks hmark
  have hdigit : ¬ c.isDigit = true := by simp [hdigit]
  have hstart : ¬ isIdentStart c = true := by simp [hstart]
  calc tokenAt offset c s
    _ = _ := if_neg hblock
    _ = _ := if_neg hquote
    _ = _ := if_neg hdigit
    _ = _ := if_neg hstart

/-- The symbol of two characters comes before that of one. -/
theorem symbolAt?_eq_some_iff :
    (∃ r, symbolAt? c s = some r ∧ r.value = kind ∧ r.rest = rest) ↔
      (∃ d, s = d :: rest ∧ longSymbol? c d = some kind) ∨
        (s = rest ∧ shortSymbol? c = some kind ∧ ∀ d ∈ s.head?, longSymbol? c d = none) := by
  cases s with
  | nil => cases hshort : shortSymbol? c <;> simp [symbolAt?, hshort, eq_comm, and_comm]
  | cons d s =>
    cases hlong : longSymbol? c d with
    | some kind' =>
      simp only [symbolAt?, hlong, Option.some.injEq, exists_eq_left', List.cons.injEq, and_assoc,
        Reading.value_next, Reading.rest_next, List.head?_cons, Option.mem_def]
      simp [hlong, and_comm]
    | none => cases hshort : shortSymbol? c <;> simp [symbolAt?, hlong, hshort, and_comm]

/-- A symbol of two characters does not go on, and no symbol is a word or a number. -/
theorem goesOn_of_longSymbol? (h : longSymbol? c d = some kind) :
    (∀ e, kind.goesOn e = false) ∧ kind.IsAllowed := by
  unfold longSymbol? at h
  split at h
  case h_6 => cases h
  all_goals
    cases h
    exact ⟨fun _ => rfl, trivial⟩

/-- A symbol of one character goes on as one of two or not at all. -/
theorem goesOn_of_shortSymbol? (h : shortSymbol? c = some kind) :
    (∀ e, longSymbol? c e = none → kind.goesOn e = false) ∧ kind.IsAllowed := by
  unfold shortSymbol? at h
  split at h
  case h_10 =>
    cases h
    refine ⟨fun e hlong => ?_, trivial⟩
    rw [TokenKind.goesOn, Bool.eq_false_iff]
    intro hd
    rw [eq_of_beq hd] at hlong
    cases hlong
  case h_11 => cases h
  all_goals
    cases h
    exact ⟨fun _ _ => rfl, trivial⟩

/-! ### The reader reads longest spellings -/

/-- A token that is read is at the front, and it is allowed. The cases are those of the first
character. -/
theorem isFirst_of_gives_tokenAt (h : Gives (tokenAt offset c s) kind rest) :
    (∃ w, IsFirst (c :: s) w kind rest) ∧ kind.IsAllowed := by
  by_cases hblock : c ∈ blockMarks
  · simp [tokenAt_of_mem_blockMarks hblock] at h
  by_cases hquote : c ∈ quoteMarks
  · rw [tokenAt_of_mem_quoteMarks hquote] at h
    split at h
    · simp at h
    · next r hr =>
      obtain ⟨rfl, rfl⟩ := gives_ok_iff.mp h
      obtain ⟨body, hbody, hquotes⟩ := exists_quotes_of_literalAt? hr
      refine ⟨⟨_, isFirst_iff.mpr ⟨.literal hquote hquotes, ?_, fun _ _ => rfl⟩⟩, trivial⟩
      simpa using hbody
  by_cases hdigit : c.isDigit = true
  · rw [tokenAt_of_isDigit hdigit] at h
    split at h
    · next hmax =>
      obtain ⟨rfl, rfl⟩ := gives_ok_iff.mp h
      have hdigits : ∀ d ∈ c :: s.takeWhile Char.isDigit, d.isDigit = true :=
        List.forall_mem_cons.mpr ⟨hdigit, fun d hd => List.mem_takeWhile_imp hd⟩
      refine ⟨⟨_, isFirst_iff.mpr ⟨.number (List.cons_ne_nil _ _) hdigits, ?_,
        ends_dropWhile _ s⟩⟩, hmax⟩
      rw [List.cons_append, List.takeWhile_append_dropWhile]
    · simp at h
  by_cases hstart : isIdentStart c = true
  · rw [tokenAt_of_isIdentStart hstart] at h
    split at h
    · simp at h
    · next hword =>
      obtain ⟨rfl, rfl⟩ := gives_ok_iff.mp h
      refine ⟨⟨_, isFirst_of_isIdentStart s hstart⟩, ?_⟩
      show _ ∉ statementWords
      simpa using hword
  · -- What is left is a symbol or an error, and which symbol depends on two characters.
    have hmark : c ∉ marks := by simp [marks, hblock, hquote]
    rw [tokenAt_of_symbolAt? hmark (by simpa using hdigit) (by simpa using hstart)] at h
    split at h
    · next r hr =>
      obtain ⟨hvalue, hrest⟩ := gives_ok_iff.mp h
      rcases symbolAt?_eq_some_iff.mp ⟨r, hr, hvalue, hrest⟩ with ⟨d, rfl, hlong⟩ |
        ⟨rfl, hshort, hnone⟩
      · obtain ⟨hgoes, hallowed⟩ := goesOn_of_longSymbol? hlong
        exact ⟨⟨_, isFirst_iff.mpr ⟨.longSymbol hlong, rfl, fun e _ => hgoes e⟩⟩, hallowed⟩
      · obtain ⟨hgoes, hallowed⟩ := goesOn_of_shortSymbol? hshort
        exact ⟨⟨_, isFirst_iff.mpr ⟨.shortSymbol hshort, rfl, fun e he => hgoes e (hnone e he)⟩⟩,
          hallowed⟩
    · simp at h

/-- A spelling that does not go on is read, if its token is allowed. The first character tells
which case of the reader it is, and the next one where that ends. -/
theorem Spells.gives_tokenAt (h : Spells (c :: w) kind) (hends : Ends kind.goesOn rest)
    (hallowed : kind.IsAllowed) : Gives (tokenAt offset c (w ++ rest)) kind rest := by
  obtain ⟨c', v, hcons, hc⟩ := h.exists_cons
  obtain ⟨rfl, rfl⟩ := List.cons.inj hcons
  rcases hc with hc | hc | hc | hc
  · obtain ⟨rfl, hpart⟩ := h.of_isIdentStart hc
    rw [tokenAt_of_isIdentStart hc, takeWhile_append_of_ends hpart hends, if_neg]
    · exact gives_ok_iff.mpr ⟨rfl, dropWhile_append_of_ends hpart hends⟩
    · rw [List.contains_iff_mem]
      exact hallowed
  · obtain ⟨rfl, hdigits⟩ := h.of_isDigit hc
    rw [tokenAt_of_isDigit hc, takeWhile_append_of_ends hdigits hends, if_pos]
    · exact gives_ok_iff.mpr ⟨rfl, dropWhile_append_of_ends hdigits hends⟩
    · exact hallowed
  · obtain ⟨body, value, rfl, hbody, rfl⟩ := h.of_mem_quoteMarks hc
    rw [List.append_assoc, List.singleton_append, tokenAt_of_mem_quoteMarks hc]
    obtain ⟨r, hr, hvalue, hrest⟩ := hbody.literalAt? (ne_of_mem_quoteMarks hc) rest
    rw [hr]
    exact gives_ok_iff.mpr ⟨by rw [Reading.value_map, hvalue], hrest⟩
  · have hsymbol : ∃ r, symbolAt? c (w ++ rest) = some r ∧ r.value = kind ∧ r.rest = rest := by
      refine symbolAt?_eq_some_iff.mpr ?_
      rcases h.of_isSymbol hc with ⟨rfl, hshort⟩ | ⟨d, rfl, hlong⟩
      · refine .inr ⟨rfl, hshort, fun d hd => ?_⟩
        -- A symbol of two characters would be a longer spelling.
        rw [Option.eq_none_iff_forall_not_mem]
        intro kind' hlong
        obtain ⟨tail, rfl⟩ := List.head?_eq_some_iff.mp hd
        have hle := h.length_le hends (.longSymbol hlong) ⟨tail, rfl⟩
        simp at hle
      · exact .inl ⟨d, rfl, hlong⟩
    obtain ⟨r, hr, hvalue, hrest⟩ := hsymbol
    obtain ⟨-, hdigit, hstart, hmark⟩ := hc
    rw [tokenAt_of_symbolAt? hmark hdigit hstart, hr]
    exact gives_ok_iff.mpr ⟨hvalue, hrest⟩

/-- The reader gives the allowed token that is at the front. With this the proofs about sources
need not look into the reader any more. -/
theorem gives_tokenAt_iff (offset : Nat) :
    Gives (tokenAt offset c s) kind rest ↔
      (∃ w, IsFirst (c :: s) w kind rest) ∧ kind.IsAllowed := by
  refine ⟨isFirst_of_gives_tokenAt, ?_⟩
  rintro ⟨⟨w, hfirst⟩, hallowed⟩
  obtain ⟨hspells, happend, hends⟩ := isFirst_iff.mp hfirst
  obtain ⟨c', v, rfl, -⟩ := hspells.exists_cons
  obtain ⟨rfl, rfl⟩ := List.cons.inj happend
  exact hspells.gives_tokenAt hends hallowed

end

end Fixtures.Provider
