import Fixtures.Proofs.Failing
import Fixtures.Proofs.Provider.Text

/-!
# `Fixtures.Proofs.Provider.Renaming`: a header only renames the inputs

A name in a source is one of four things, and its neighbours decide which. After a dot it is a
property or a method, before an opening parenthesis it is called, and anywhere else it is an input
or a constant. So an input can have any name, that of the other input, of a property or of a
built-in included, and names can be swapped: `InputNames.renamed` replaces the inputs of a text and
nothing else, `InputNames.headed` says in front of it which names they have got, and the result
compiles to what the source compiles to.

A text is renamed token by token, as it is read. `Lexes.renamed` says that its tokens become the
renamed ones: a new name ends where the old one ended, and what stands in front of a name does not
go on with it, whatever its first letter is (`Ends.renamed`). On tokens the law is an induction over
the grammar (`Derives.isRenamed`). It needs to know of what follows a phrase only that it does not
call the last name of the phrase, and that is what `Loose 7` says. The same induction shows that
behind a header no third name stands where inputs do (`Derives.onlyKnown`).
-/

set_option autoImplicit false

namespace Fixtures.Provider

open Text

/-! ### Renaming -/

namespace InputNames

/-- The names can be given to the inputs and are read as inputs: they are words, they are not the
same, and neither is one of the words that stand for constants, which would be read as such. -/
structure AreUsable (names : InputNames) : Prop where
  isWord : ∀ which, IsWord (names.of which)
  notMem_constantWords : ∀ which, names.of which ∉ constantWords
  ne : names.field ≠ names.type

/-- What an input with a standard name is called in these names; every other name stays. The names
may be swapped, so each one is looked up once and what it becomes is not looked up again. -/
def rename (names : InputNames) (name : String) : String :=
  if name = standard.field then names.field
  else if name = standard.type then names.type
  else name

/-- What becomes of a token. Names that are no inputs are kept, which is decided by the neighbours
of the token and not by the token. -/
def renameKind (names : InputNames) (kept : Bool) : TokenKind → TokenKind
  | .ident name => .ident (if kept then name else names.rename name)
  | kind => kind

end InputNames

/-- The text that a token has when `w` was its text before it got another name. Only a name has
another text then; of a literal this keeps the quotes and the escapes that were written. -/
def TokenKind.spelling (w : List Char) : TokenKind → List Char
  | .ident name => name.toList
  | _ => w

/-- The tokens call the name in front of them. A header is no call, but it has no name in front of
it either. -/
def callFollows (rest : List Token) : Bool :=
  rest.head?.any fun token => token.kind = .openParen

/-- The text calls the name in front of it. This is asked before the text is cut into tokens, so
blanks are passed over here. -/
def callFollowsText (rest : List Char) : Bool := (rest.dropWhile isBlank).head? = some '('

namespace InputNames

variable (names : InputNames)

/-- What becomes of the tokens. The names that neither follow a dot nor are called are inputs.
Offsets are left out: the new names may be longer or shorter. -/
def renamedKinds (afterDot : Bool) : List Token → List TokenKind
  | [] => []
  | token :: rest =>
    names.renameKind (afterDot || callFollows rest) token.kind ::
      renamedKinds (token.kind = .dot) rest

/-- What becomes of a text. Its tokens are renamed, and what is no token stays as it is, blanks
between tokens included. A text that cannot be cut into tokens is left alone from there on. -/
def renamed (afterDot : Bool) (s : List Char) : List Char :=
  match s with
  | [] => []
  | c :: s =>
    if isBlank c then
      c :: renamed afterDot s
    else
      match tokenAt 0 c s with
      | .error _ => c :: s
      | .ok r =>
        -- What was read is the text up to what is left of it.
        have := r.rest_le
        (names.renameKind (afterDot || callFollowsText r.rest) r.value).spelling
            ((c :: s).take (s.length + 1 - r.rest.length)) ++
          renamed (r.value = .dot) r.rest
termination_by s.length
decreasing_by all_goals simp only [List.length_cons]; omega

/-- The source with these names for the inputs, behind a header that says so. The names are the
ones that the inputs have in what follows. -/
def headed (source : String) : String :=
  "(" ++ names.field ++ ", " ++ names.type ++ ") ->" ++
    String.ofList (names.renamed false source.toList)

@[simp]
theorem rename_of (which : Input) : names.rename (standard.of which) = names.of which := by
  cases which with
  | field => rfl
  | type => rfl

/-- The constants keep their names, because no input is called so by default. -/
theorem rename_of_mem_constantWords {name : String} (h : name ∈ constantWords) :
    names.rename name = name := by
  have hor : name = "true" ∨ name = "false" ∨ name = "null" := by simpa [constantWords] using h
  rcases hor with rfl | rfl | rfl
  · rfl
  · rfl
  · rfl

variable {names}

/-- A word that is renamed is a word. -/
theorem AreUsable.isWord_rename (hnames : names.AreUsable) {name : String} (h : IsWord name) :
    IsWord (names.rename name) := by
  unfold rename
  split
  · exact hnames.isWord .field
  · split
    · exact hnames.isWord .type
    · exact h

end InputNames

/-! ### Renamed texts have renamed tokens -/

section

variable {names : InputNames} {kept afterDot : Bool} {total : Nat} {c : Char}
  {s w rest : List Char} {kind : TokenKind} {ts : List Token}

/-- The new name of a word is spelled and allowed as the word was, and no other token changes. This
is where the new names have to be words. -/
theorem Spells.renameKind (kept : Bool) (hnames : names.AreUsable) (h : Spells w kind)
    (hallowed : kind.IsAllowed) :
    Spells ((names.renameKind kept kind).spelling w) (names.renameKind kept kind) ∧
      (names.renameKind kept kind).IsAllowed := by
  cases kind with
  | ident name =>
    obtain ⟨rfl, hident⟩ := h.of_ident
    have hname : IsWord name := ⟨hident, hallowed⟩
    have hrenamed : IsWord (if kept then name else names.rename name) := by
      split
      · exact hname
      · exact hnames.isWord_rename hname
    exact ⟨.word hrenamed.1, hrenamed.2⟩
  | _ => exact ⟨h, hallowed⟩

/-- A token goes on as it did before it was renamed. Whether a character goes on with a name does
not depend on the name, so a renamed name ends where the old one ended. -/
theorem goesOn_renameKind (names : InputNames) (kept : Bool) :
    (names.renameKind kept kind).goesOn = kind.goesOn := by
  cases kind <;> rfl

/-- A token goes on with all letters or with none. So it makes no difference to it which letter a
name behind it starts with. -/
theorem goesOn_eq_of_isIdentStart {d : Char} (hc : isIdentStart c = true)
    (hd : isIdentStart d = true) : kind.goesOn c = kind.goesOn d := by
  cases kind with
  | ident name =>
    show isIdentPart c = isIdentPart d
    rw [isIdentPart_of_isIdentStart c hc, isIdentPart_of_isIdentStart d hd]
  | int n =>
    show c.isDigit = d.isDigit
    rw [(ne_of_isIdentStart hc).1, (ne_of_isIdentStart hd).1]
  | bang =>
    -- The only character that goes on with `!` is `=`, which starts no name.
    have hne : ∀ e, isIdentStart e = true → (e == '=') = false := by
      intro e he
      rw [beq_eq_false_iff_ne]
      rintro rfl
      cases he
    show (c == '=') = (d == '=')
    rw [hne c hc, hne d hd]
  | _ => rfl

/-- Nothing becomes nothing. -/
theorem renamed_nil : names.renamed afterDot [] = [] := by
  rw [InputNames.renamed.eq_def]

/-- A blank stays, and does not end a dot or a call. -/
theorem renamed_blank (hc : isBlank c = true) :
    names.renamed afterDot (c :: s) = c :: names.renamed afterDot s := by
  rw [InputNames.renamed.eq_def]
  simp only [hc, if_true]

/-- The token at the front is renamed, and the rest is. This says of the text what the definition
does with the result of the reader. -/
theorem renamed_of_isFirst (h : IsFirst (c :: s) w kind rest) (hallowed : kind.IsAllowed) :
    names.renamed afterDot (c :: s) =
      (names.renameKind (afterDot || callFollowsText rest) kind).spelling w ++
        names.renamed (kind = .dot) rest := by
  -- The text of the token is what is missing from the rest.
  have htake : (c :: s).take (s.length + 1 - rest.length) = w := by
    have hlength := congrArg List.length h.eq_append
    rw [List.length_cons, List.length_append] at hlength
    rw [h.eq_append, List.take_left' (by omega)]
  obtain ⟨r, hr, rfl, rfl⟩ := (gives_tokenAt_iff 0).mpr ⟨⟨_, h⟩, hallowed⟩
  rw [InputNames.renamed.eq_def]
  simp only [h.isBlank_eq_false, Bool.false_eq_true, if_false, hr, htake]

/-- A renamed token starts as it did before, or with a letter in the place of a letter. -/
theorem exists_cons_spelling (hnames : names.AreUsable) (h : Spells (c :: w) kind)
    (hallowed : kind.IsAllowed) :
    ∃ d v, (names.renameKind kept kind).spelling (c :: w) = d :: v ∧
      (d = c ∨ isIdentStart c = true ∧ isIdentStart d = true) := by
  cases kind with
  | ident name =>
    obtain ⟨hspells, -⟩ := h.renameKind kept hnames hallowed
    obtain ⟨c', cs, hcs, hc, -⟩ := exists_cons_of_isIdent h.of_ident.2
    obtain ⟨d, v, hdv, hd, -⟩ := exists_cons_of_isIdent hspells.of_ident.2
    rw [← h.of_ident.1, List.cons.injEq] at hcs
    exact ⟨d, v, hdv, .inr ⟨hcs.1 ▸ hc, hd⟩⟩
  | _ => exact ⟨c, w, rfl, .inl rfl⟩

/-- What does not go on with the first character of a text does not after the text is renamed. The
first character may have become another one, but then both are such as start a name. -/
theorem Ends.renamed {p : Char → Bool} (afterDot : Bool) (hnames : names.AreUsable)
    (hp : ∀ c d, isIdentStart c = true → isIdentStart d = true → p c = p d) (h : Ends p s) :
    Ends p (names.renamed afterDot s) := by
  cases s with
  | nil => rwa [renamed_nil]
  | cons c s =>
    have hc : p c = false := h c rfl
    cases hblank : isBlank c with
    | true =>
      rw [renamed_blank hblank]
      exact ends_cons hc
    | false =>
      cases hr : tokenAt 0 c s with
      | error fault =>
        rw [InputNames.renamed.eq_def]
        simp only [hblank, Bool.false_eq_true, if_false, hr]
        exact ends_cons hc
      | ok r =>
        obtain ⟨⟨w, hfirst⟩, hallowed⟩ := isFirst_of_gives_tokenAt (gives_of_eq_ok hr)
        rw [renamed_of_isFirst hfirst hallowed]
        obtain ⟨c', v, rfl, -⟩ := hfirst.spells.exists_cons
        obtain ⟨rfl, -⟩ := List.cons.inj hfirst.eq_append
        -- Either the first character is still there, or a letter has come in the place of a
        -- letter.
        obtain ⟨d, v', hd, hor⟩ := exists_cons_spelling hnames hfirst.spells hallowed
        rw [hd, List.cons_append]
        rcases hor with rfl | ⟨hstart, hstart'⟩
        · exact ends_cons hc
        · exact ends_cons (hp c d hstart hstart' ▸ hc)

/-- A text calls the name in front of it when its tokens do. So the renaming of texts and that of
tokens keep the same names. -/
theorem callFollowsText_eq_of_lexes : ∀ {s : List Char} {ts : List Token}, Lexes total s ts →
    callFollowsText s = callFollows ts
  | [], ts, h => by
    cases h.symm.trans (lexes_nil total)
    rfl
  | c :: s, ts, h => by
    cases hc : isBlank c with
    | true =>
      rw [Lexes, tokensFrom.eq_def] at h
      simp only [hc, if_true] at h
      rw [← callFollowsText_eq_of_lexes h]
      simp only [callFollowsText, List.dropWhile_cons_of_pos hc]
    | false =>
      obtain ⟨w, kind, rest, o, ts', hfirst, -, -, -, rfl⟩ := exists_isFirst_of_lexes hc h
      -- The first token is an opening parenthesis exactly if the first character is one.
      have hparen : c = '(' ↔ kind = .openParen := by
        obtain ⟨c', v, rfl, -⟩ := hfirst.spells.exists_cons
        obtain ⟨rfl, -⟩ := List.cons.inj hfirst.eq_append
        exact hfirst.spells.eq_openParen_iff
      simp only [callFollowsText, hc, Bool.false_eq_true, not_false_eq_true,
        List.dropWhile_cons_of_neg, List.head?_cons, Option.some.injEq, callFollows,
        Option.any_some, hparen]

/-- A renamed text has the tokens of the text, renamed. The induction goes from token to token;
each is spelled anew, and the one before it must not go on with what it starts with now. -/
theorem Lexes.renamed (hnames : names.AreUsable) (total' : Nat) (afterDot : Bool) :
    ∀ {s : List Char} {ts : List Token}, Lexes total s ts →
    ∃ ts', Lexes total' (names.renamed afterDot s) ts' ∧
      ts'.map (·.kind) = names.renamedKinds afterDot ts
  | [], ts, h => by
    cases h.symm.trans (lexes_nil total)
    refine ⟨[], ?_, rfl⟩
    rw [renamed_nil]
    exact lexes_nil total'
  | c :: s, ts, h => by
    cases hc : isBlank c with
    | true =>
      rw [Lexes, tokensFrom.eq_def] at h
      simp only [hc, if_true] at h
      obtain ⟨ts', hlexes, hkinds⟩ := Lexes.renamed hnames total' afterDot h
      rw [renamed_blank hc]
      exact ⟨ts', hlexes.blank c hc, hkinds⟩
    | false =>
      obtain ⟨w, kind, rest, o, ts₁, hfirst, hallowed, hle, hrest, rfl⟩ :=
        exists_isFirst_of_lexes hc h
      obtain ⟨ts₁', hlexes, hkinds⟩ := Lexes.renamed hnames total' (kind = .dot) hrest
      obtain ⟨hspells, hallowed'⟩ :=
        hfirst.spells.renameKind (afterDot || callFollowsText rest) hnames hallowed
      -- The token before does not go on with the renamed rest either, so it ends where it did.
      have hends := Ends.renamed (kind = .dot) hnames
        (fun c d => goesOn_eq_of_isIdentStart) (isFirst_iff.mp hfirst).2.2
      rw [← goesOn_renameKind names (afterDot || callFollowsText rest)] at hends
      rw [renamed_of_isFirst hfirst hallowed]
      refine ⟨_, hlexes.spelled hspells hallowed' hends, ?_⟩
      rw [List.map_cons, hkinds, callFollowsText_eq_of_lexes hrest]
      rfl
termination_by s => s.length
decreasing_by all_goals simp only [List.length_cons]; omega

end

/-! ### Renamed phrases are phrases -/

/-- The token has nothing to do with names: it is none, and it does not make a name something else
than an input. All tokens are neutral but names, dots and opening parentheses. -/
def TokenKind.isNeutral : TokenKind → Bool
  | .ident _ | .dot | .openParen => false
  | _ => true

/-- With new names for the inputs the tokens still start with the phrase, and then with the same
expressions. What follows the phrase must not call its last name, since that name would be no input
then. -/
def Phrase.IsRenamed (names : InputNames) (s rest : List Token) (phrase : Phrase) : Prop :=
  Loose 7 rest → ∀ s', s'.map (·.kind) = names.renamedKinds false s →
    ∃ rest', rest'.map (·.kind) = names.renamedKinds false rest ∧ Derives names phrase s' rest'

section

variable {names : InputNames} {s s₁ rest : List Token} {kind : TokenKind} {o : Nat}
  {phrase phrase₁ phrase₂ : Phrase}

/-- Tokens of certain kinds are taken apart as their kinds are. -/
theorem exists_cons_of_map_kind {ts : List Token} {kinds : List TokenKind}
    (h : ts.map (·.kind) = kind :: kinds) :
    ∃ o ts', ts = ⟨kind, o⟩ :: ts' ∧ ts'.map (·.kind) = kinds := by
  obtain ⟨token, ts', rfl, rfl, hkinds⟩ := List.map_eq_cons_iff.mp h
  exact ⟨token.offset, ts', rfl, hkinds⟩

/-- A neutral token stays, and the names behind it are looked at anew. -/
theorem renamedKinds_neutral (h : kind.isNeutral = true) :
    names.renamedKinds false (⟨kind, o⟩ :: s) = kind :: names.renamedKinds false s := by
  cases kind with
  | ident name => cases h
  | dot => cases h
  | openParen => cases h
  | _ => rfl

/-- A neutral token does not call what is before it. -/
theorem loose_neutral (h : kind.isNeutral = true) : Loose 7 (⟨kind, o⟩ :: s) := by
  refine loose_cons ?_
  cases kind with
  | openParen => cases h
  | _ => simp [TokenKind.grip]

/-- What follows a phrase does not call its last name: an opening parenthesis would have been read
with the phrase. -/
theorem Loose.callFollows_eq_false (h : Loose 7 rest) : callFollows rest = false := by
  cases rest with
  | nil => rfl
  | cons token rest =>
    have hne : token.kind ≠ .openParen := by
      intro hkind
      have hlt := h token rfl
      rw [hkind] at hlt
      exact absurd hlt (by decide)
    simp [callFollows, hne]

/-- A name that is not called is renamed. -/
theorem renamedKinds_ident {name : String} (hrest : Loose 7 rest) :
    names.renamedKinds false (⟨.ident name, o⟩ :: rest) =
      .ident (names.rename name) :: names.renamedKinds false rest := by
  simp [InputNames.renamedKinds, InputNames.renameKind, hrest.callFollows_eq_false]

/-- What is renamed as one phrase is renamed as another one that it makes. -/
theorem Phrase.IsRenamed.imp (h : phrase₁.IsRenamed names s rest)
    (himp : ∀ s' rest', Derives names phrase₁ s' rest' → Derives names phrase s' rest') :
    phrase.IsRenamed names s rest := by
  intro hrest s' hs
  obtain ⟨rest', hrest', h⟩ := h hrest s' hs
  exact ⟨rest', hrest', himp s' rest' h⟩

/-- Two phrases with a neutral token between them are renamed one after the other. -/
theorem Phrase.IsRenamed.andThen (hkind : kind.isNeutral = true)
    (h₁ : phrase₁.IsRenamed names s (⟨kind, o⟩ :: s₁)) (h₂ : phrase₂.IsRenamed names s₁ rest)
    (himp : ∀ s' s₁' rest' o', Derives names phrase₁ s' (⟨kind, o'⟩ :: s₁') →
      Derives names phrase₂ s₁' rest' → Derives names phrase s' rest') :
    phrase.IsRenamed names s rest := by
  intro hrest s' hs
  obtain ⟨t', ht, h₁⟩ := h₁ (loose_neutral hkind) s' hs
  rw [renamedKinds_neutral hkind] at ht
  obtain ⟨o', s₁', rfl, hs₁⟩ := exists_cons_of_map_kind ht
  obtain ⟨rest', hrest', h₂⟩ := h₂ hrest s₁' hs₁
  exact ⟨rest', hrest', himp _ _ _ _ h₁ h₂⟩

/-- The neutral token behind a phrase stays behind it. -/
theorem Phrase.IsRenamed.before (hkind : kind.isNeutral = true)
    (h : phrase.IsRenamed names s (⟨kind, o⟩ :: rest)) {s' : List Token}
    (hs : s'.map (·.kind) = names.renamedKinds false s) :
    ∃ o' rest', rest'.map (·.kind) = names.renamedKinds false rest ∧
      Derives names phrase s' (⟨kind, o'⟩ :: rest') := by
  obtain ⟨t', ht, h⟩ := h (loose_neutral hkind) s' hs
  rw [renamedKinds_neutral hkind] at ht
  obtain ⟨o', rest', rfl, hrest⟩ := exists_cons_of_map_kind ht
  exact ⟨o', rest', hrest, h⟩

/-- A constant has its name whatever the inputs are called. -/
theorem isRenamed_constant {name : String} (hname : name ∈ constantWords)
    (h : ∀ o' rest', Derives names phrase (⟨.ident name, o'⟩ :: rest') rest') :
    phrase.IsRenamed names (⟨.ident name, o⟩ :: rest) rest := by
  intro hrest s' hs
  rw [renamedKinds_ident hrest, names.rename_of_mem_constantWords hname] at hs
  obtain ⟨o', rest', rfl, hrest'⟩ := exists_cons_of_map_kind hs
  exact ⟨rest', hrest', h o' rest'⟩

/-- A literal has no name. -/
theorem isRenamed_literal (hkind : kind.isNeutral = true)
    (h : ∀ o' rest', Derives names phrase (⟨kind, o'⟩ :: rest') rest') :
    phrase.IsRenamed names (⟨kind, o⟩ :: rest) rest := by
  intro hrest s' hs
  rw [renamedKinds_neutral hkind] at hs
  obtain ⟨o', rest', rfl, hrest'⟩ := exists_cons_of_map_kind hs
  exact ⟨rest', hrest', h o' rest'⟩

/-- Every phrase with the standard names is the same phrase with other names, renamed. -/
theorem Derives.isRenamed (hnames : names.AreUsable) (h : Derives .standard phrase s rest) :
    phrase.IsRenamed names s rest := by
  induction h with
  | plain h ih => exact ih.imp fun _ _ => .plain
  | conditional hc hy hn ihc ihy ihn =>
    intro hrest s' hs
    obtain ⟨o₁', s₁', hs₁, hc'⟩ := ihc.before rfl hs
    obtain ⟨o₂', s₂', hs₂, hy'⟩ := ihy.before rfl hs₁
    obtain ⟨rest', hrest', hn'⟩ := ihn hrest s₂' hs₂
    exact ⟨rest', hrest', .conditional hc' hy' hn'⟩
  | orOperand h ih => exact ih.imp fun _ _ => .orOperand
  | andOperand h ih => exact ih.imp fun _ _ => .andOperand
  | equalityOperand h ih => exact ih.imp fun _ _ => .equalityOperand
  | additiveOperand h ih => exact ih.imp fun _ _ => .additiveOperand
  | disjunction hl hr ihl ihr => exact ihl.andThen rfl ihr fun _ _ _ _ => .disjunction
  | conjunction hl hr ihl ihr => exact ihl.andThen rfl ihr fun _ _ _ _ => .conjunction
  | equal hl hr ihl ihr => exact ihl.andThen rfl ihr fun _ _ _ _ => .equal
  | notEqual hl hr ihl ihr => exact ihl.andThen rfl ihr fun _ _ _ _ => .notEqual
  | add hl hr ihl ihr => exact ihl.andThen rfl ihr fun _ _ _ _ => .add
  | negation h ih =>
    intro hrest s' hs
    rw [renamedKinds_neutral rfl] at hs
    obtain ⟨o', s₁', rfl, hs₁⟩ := exists_cons_of_map_kind hs
    obtain ⟨rest', hrest', h'⟩ := ih hrest s₁' hs₁
    exact ⟨rest', hrest', .negation h'⟩
  | unaryOperand h ih => exact ih.imp fun _ _ => .unaryOperand
  | postfixedOperand h ih => exact ih.imp fun _ _ => .postfixedOperand
  -- The name after a dot stays, whether it is called or not.
  | property ht ih =>
    intro hrest s' hs
    obtain ⟨t', ht', h'⟩ := ih (loose_cons (by decide)) s' hs
    obtain ⟨o₁', t₁', rfl, ht₁⟩ := exists_cons_of_map_kind ht'
    obtain ⟨o₂', rest', rfl, hrest'⟩ := exists_cons_of_map_kind ht₁
    exact ⟨rest', hrest', .property h'⟩
  | method ht hes harity iht ihes =>
    intro hrest s' hs
    obtain ⟨t', ht', h'⟩ := iht (loose_cons (by decide)) s' hs
    obtain ⟨o₁', t₁', rfl, ht₁⟩ := exists_cons_of_map_kind ht'
    obtain ⟨o₂', t₂', rfl, ht₂⟩ := exists_cons_of_map_kind ht₁
    obtain ⟨o₃', t₃', rfl, ht₃⟩ := exists_cons_of_map_kind ht₂
    obtain ⟨o₄', rest', hrest', hes'⟩ := ihes.before rfl ht₃
    exact ⟨rest', hrest', .method h' hes' harity⟩
  | index ht hp iht ihp =>
    intro hrest s' hs
    obtain ⟨o₁', t', ht', h'⟩ := iht.before rfl hs
    obtain ⟨o₂', rest', hrest', hp'⟩ := ihp.before rfl ht'
    exact ⟨rest', hrest', .index h' hp'⟩
  | text => exact isRenamed_literal rfl fun _ _ => .text
  | int => exact isRenamed_literal rfl fun _ _ => .int
  | trueWord => exact isRenamed_constant (by decide) fun _ _ => .trueWord
  | falseWord => exact isRenamed_constant (by decide) fun _ _ => .falseWord
  | nullWord => exact isRenamed_constant (by decide) fun _ _ => .nullWord
  -- So does a name that is called.
  | call hes harity ih =>
    intro hrest s' hs
    obtain ⟨o₁', t₁', rfl, ht₁⟩ := exists_cons_of_map_kind hs
    obtain ⟨o₂', t₂', rfl, ht₂⟩ := exists_cons_of_map_kind ht₁
    obtain ⟨o₃', rest', hrest', hes'⟩ := ih.before rfl ht₂
    exact ⟨rest', hrest', .call hes' harity⟩
  | @input which rest o hword =>
    intro hrest s' hs
    rw [renamedKinds_ident hrest, names.rename_of] at hs
    obtain ⟨o', rest', rfl, hrest'⟩ := exists_cons_of_map_kind hs
    exact ⟨rest', hrest', .input (hnames.notMem_constantWords which)⟩
  | parens h ih =>
    intro hrest s' hs
    obtain ⟨o₁', t₁', rfl, ht₁⟩ := exists_cons_of_map_kind hs
    obtain ⟨o₂', rest', hrest', h'⟩ := ih.before rfl ht₁
    exact ⟨rest', hrest', .parens h'⟩
  | noArguments =>
    intro hrest s' hs
    exact ⟨s', hs, .noArguments⟩
  | someArguments h ih => exact ih.imp fun _ _ => .someArguments
  | single h ih => exact ih.imp fun _ _ => .single
  | more h hes ih ihes => exact ih.andThen rfl ihes fun _ _ _ _ => .more

/-! ### Names that stand where inputs do -/

/-- The names that neither follow a dot nor are called, in order. These are the places where the
parser expects an input or a constant. -/
def inputNames (afterDot : Bool) : List Token → List String
  | [] => []
  | token :: rest =>
    match token.kind with
    | .ident name =>
      if afterDot || callFollows rest then inputNames false rest
      else name :: inputNames false rest
    | kind => inputNames (kind = .dot) rest

/-- The name is that of an input or a constant. Any other name in such a place is refused by the
parser. -/
def InputNames.Knows (names : InputNames) (name : String) : Prop :=
  name = names.field ∨ name = names.type ∨ name ∈ constantWords

/-- Up to `rest` only known names stand where inputs do. It is stated with what is left over, so
that it can be put together phrase by phrase. -/
def OnlyKnown (names : InputNames) (s rest : List Token) : Prop :=
  Loose 7 rest → ∀ name ∈ inputNames false s, names.Knows name ∨ name ∈ inputNames false rest

/-- No name is at a neutral token. -/
theorem inputNames_neutral (h : kind.isNeutral = true) :
    inputNames false (⟨kind, o⟩ :: s) = inputNames false s := by
  cases kind with
  | ident name => cases h
  | dot => cases h
  | openParen => cases h
  | _ => rfl

/-- A name that is not called stands where inputs do. -/
theorem inputNames_ident {name : String} (hrest : Loose 7 rest) :
    inputNames false (⟨.ident name, o⟩ :: rest) = name :: inputNames false rest := by
  simp [inputNames, hrest.callFollows_eq_false]

/-- Nothing is added by a neutral token. -/
theorem onlyKnown_neutral (hkind : kind.isNeutral = true) :
    OnlyKnown names (⟨kind, o⟩ :: rest) rest := by
  intro _ name hname
  rw [inputNames_neutral hkind] at hname
  exact .inr hname

/-- A known name can stand where inputs do. -/
theorem onlyKnown_ident {name : String} (hname : names.Knows name) :
    OnlyKnown names (⟨.ident name, o⟩ :: rest) rest := by
  intro hrest name' hname'
  rw [inputNames_ident hrest] at hname'
  rcases List.mem_cons.mp hname' with rfl | hname'
  · exact .inl hname
  · exact .inr hname'

/-- The names up to a neutral token and those behind it are all the names. -/
theorem OnlyKnown.andThen (hkind : kind.isNeutral = true)
    (h₁ : OnlyKnown names s (⟨kind, o⟩ :: s₁)) (h₂ : OnlyKnown names s₁ rest) :
    OnlyKnown names s rest := by
  intro hrest name hname
  rcases h₁ (loose_neutral hkind) name hname with hknown | hname
  · exact .inl hknown
  · rw [inputNames_neutral hkind] at hname
    exact h₂ hrest name hname

/-- A neutral token behind them changes nothing. -/
theorem OnlyKnown.before (hkind : kind.isNeutral = true)
    (h : OnlyKnown names s (⟨kind, o⟩ :: rest)) : OnlyKnown names s rest := by
  intro _ name hname
  rcases h (loose_neutral hkind) name hname with hknown | hname
  · exact .inl hknown
  · rw [inputNames_neutral hkind] at hname
    exact .inr hname

/-- In a phrase only the inputs and the constants stand where inputs do. The induction is the same
as for `Derives.isRenamed`, with the same cases for the names that do not count. -/
theorem Derives.onlyKnown (h : Derives names phrase s rest) : OnlyKnown names s rest := by
  induction h with
  | plain h ih => exact ih
  | conditional hc hy hn ihc ihy ihn => exact ihc.andThen rfl (ihy.andThen rfl ihn)
  | orOperand h ih => exact ih
  | andOperand h ih => exact ih
  | equalityOperand h ih => exact ih
  | additiveOperand h ih => exact ih
  | disjunction hl hr ihl ihr => exact ihl.andThen rfl ihr
  | conjunction hl hr ihl ihr => exact ihl.andThen rfl ihr
  | equal hl hr ihl ihr => exact ihl.andThen rfl ihr
  | notEqual hl hr ihl ihr => exact ihl.andThen rfl ihr
  | add hl hr ihl ihr => exact ihl.andThen rfl ihr
  | negation h ih =>
    intro hrest name hname
    rw [inputNames_neutral rfl] at hname
    exact ih hrest name hname
  | unaryOperand h ih => exact ih
  | postfixedOperand h ih => exact ih
  -- The name after a dot does not count, and neither does one that is called.
  | property ht ih =>
    intro _ name hname
    exact ih (loose_cons (by decide)) name hname
  | method ht hes harity iht ihes =>
    intro hrest name hname
    rcases iht (loose_cons (by decide)) name hname with hknown | hname
    · exact .inl hknown
    · exact ihes.before rfl hrest name hname
  | index ht hp iht ihp => exact iht.andThen rfl (ihp.before rfl)
  | text => exact onlyKnown_neutral rfl
  | int => exact onlyKnown_neutral rfl
  | trueWord => exact onlyKnown_ident (.inr (.inr (by decide)))
  | falseWord => exact onlyKnown_ident (.inr (.inr (by decide)))
  | nullWord => exact onlyKnown_ident (.inr (.inr (by decide)))
  | call hes harity ih => exact fun hrest name hname => ih.before rfl hrest name hname
  | @input which rest o hword =>
    cases which with
    | field => exact onlyKnown_ident (.inl rfl)
    | type => exact onlyKnown_ident (.inr (.inl rfl))
  | parens h ih => exact fun hrest name hname => ih.before rfl hrest name hname
  | noArguments => exact fun _ name hname => .inr hname
  | someArguments h ih => exact ih
  | single h ih => exact ih
  | more h hes ih ihes => exact ih.andThen rfl ihes

end

/-! ### Headers -/

/-- The tokens start with a header that gives the inputs these names, and then the body follows.
The names may be any words here; that the parser refuses a header with one name twice is not said.
-/
inductive HasHeader (names : InputNames) : List Token → List Token → Prop
  | intro {o₁ o₂ o₃ o₄ o₅ o₆ : Nat} {body : List Token} :
      HasHeader names (⟨.openParen, o₁⟩ :: ⟨.ident names.field, o₂⟩ :: ⟨.comma, o₃⟩ ::
        ⟨.ident names.type, o₄⟩ :: ⟨.closeParen, o₅⟩ :: ⟨.arrow, o₆⟩ :: body) body

section

variable {names : InputNames} {ts body : List Token} {e : Expr} {source : String}

/-- What is written behind a header has the tokens of the header in front of its own. The header is
read from its end: each piece is put in front of a text whose tokens are known. -/
theorem lexes_headed {total : Nat} (hnames : names.AreUsable)
    (h : Lexes total (names.renamed false source.toList) body) :
    ∃ ts, Lexes total (names.headed source).toList ts ∧ HasHeader names ts body := by
  -- From the back to the front.
  obtain ⟨o₆, h₆⟩ := h.longSymbol '-' '>' rfl
  obtain ⟨o₅, h₅⟩ := (h₆.blank ' ' rfl).symbol ')' rfl (by decide)
  obtain ⟨o₄, h₄⟩ := h₅.word names.type (hnames.isWord .type) (ends_cons (by decide))
  obtain ⟨o₃, h₃⟩ := (h₄.blank ' ' rfl).symbol ',' rfl (by decide)
  obtain ⟨o₂, h₂⟩ := h₃.word names.field (hnames.isWord .field) (ends_cons (by decide))
  obtain ⟨o₁, h₁⟩ := h₂.symbol '(' rfl (by decide)
  have htext : (names.headed source).toList = '(' :: (names.field.toList ++ ',' :: ' ' ::
      (names.type.toList ++ ')' :: ' ' :: '-' :: '>' :: names.renamed false source.toList)) := by
    simp [InputNames.headed]
  rw [htext]
  exact ⟨_, h₁, .intro⟩

/-- Without a header a provider is an expression with the standard names. -/
theorem IsProvider.derives_of_no_header (h : IsProvider ts e)
    (hnone : ∀ given body, ¬ HasHeader given ts body) : Derives .standard (.expr e) ts [] := by
  cases h with
  | plain h => exact h
  | @header given e s o₁ o₂ o₃ o₄ o₅ o₆ hne h => exact absurd .intro (hnone given s)

/-- Behind a header it is an expression with the names that the header gives. The same tokens
cannot be an expression without a header, since no expression starts so. -/
theorem IsProvider.derives_of_header (h : IsProvider ts e) (hheader : HasHeader names ts body) :
    Derives names (.expr e) body [] := by
  obtain ⟨field, type⟩ := names
  generalize hts : ts = ts' at h
  cases h with
  | plain h =>
    subst hts
    cases hheader with
    | intro => exact absurd rfl (h.noHeader.parens _ _ _ _ _)
  | @header given e s o₁ o₂ o₃ o₄ o₅ o₆ hne h =>
    obtain ⟨field', type'⟩ := given
    cases hheader with
    | intro =>
      cases hts
      exact h

/-- A header only renames the inputs. A source without one still compiles to the same expression
when its inputs are renamed and a header says so, whatever usable names they have got. Behind a
header nothing but these two names and the constants stands where inputs do. -/
theorem compile?_headed :
    (∀ (names : InputNames) (source : String) (ts : List Token) (e : Expr), names.AreUsable →
      tokens source = .ok ts → (∀ given body, ¬ HasHeader given ts body) →
      compile? source = .ok ⟨source, e⟩ →
      compile? (names.headed source) = .ok ⟨names.headed source, e⟩) ∧
    ∀ (names : InputNames) (source : String) (ts body : List Token) (e : Expr),
      tokens source = .ok ts → HasHeader names ts body → compile? source = .ok ⟨source, e⟩ →
      ∀ name ∈ inputNames false body, names.Knows name := by
  constructor
  · intro names source ts e hnames htokens hnone hcompile
    obtain ⟨ts', e', hlexes, hparse, hp⟩ := compile?_eq_ok.mp hcompile
    obtain rfl : ts' = ts := Except.ok.inj (hlexes.symm.trans htokens)
    obtain rfl : e = e' := congrArg Provider.body hp
    -- Text to tokens, tokens to phrase; then the phrase, the tokens and the text are renamed in
    -- turn.
    have hderives := (isProvider_of_parse hparse).derives_of_no_header hnone
    obtain ⟨body, hbody, hkinds⟩ :=
      hlexes.renamed hnames (names.headed source).utf8ByteSize false
    obtain ⟨rest, hrest, hrenamed⟩ := hderives.isRenamed hnames (loose_nil 7) body hkinds
    obtain rfl : rest = [] := List.map_eq_nil_iff.mp hrest
    obtain ⟨ts', hheaded, hheader⟩ := lexes_headed hnames hbody
    have hprovider : IsProvider ts' e := by
      -- The header is allowed, because the names are not the same.
      cases hheader with
      | intro => exact .header hnames.ne hrenamed
    exact compile?_eq_ok.mpr ⟨ts', e, hheaded, hprovider.parse_eq, rfl⟩
  · intro names source ts body e htokens hheader hcompile name hname
    obtain ⟨ts', e', hlexes, hparse, hp⟩ := compile?_eq_ok.mp hcompile
    obtain rfl : ts' = ts := Except.ok.inj (hlexes.symm.trans htokens)
    have hderives := (isProvider_of_parse hparse).derives_of_header hheader
    -- At the end of the source no names are left over.
    rcases hderives.onlyKnown (loose_nil 7) name hname with hknown | hname
    · exact hknown
    · cases hname

/-- The field is called as the type is by default, and the type as a built-in that the source uses.
The property behind the first dot and the call keep their names. -/
theorem compile?_headed_type_quote :
    InputNames.AreUsable ⟨"type", "quote"⟩ ∧
    (∃ e, compile? "quote(field.type + type . name)" =
        .ok ⟨"quote(field.type + type . name)", e⟩ ∧
      e.toText = "quote(((field.type) + (type.name)))" ∧
      compile? "(type, quote) ->quote(type.type + quote . name)" =
        .ok ⟨"(type, quote) ->quote(type.type + quote . name)", e⟩) ∧
    ∃ ts body, tokens "(type, quote) ->quote(type.type + quote . name)" = .ok ts ∧
      HasHeader ⟨"type", "quote"⟩ ts body ∧ inputNames false body = ["type", "quote"] ∧
      ∀ name ∈ inputNames false body, InputNames.Knows ⟨"type", "quote"⟩ name := by
  have husable : InputNames.AreUsable ⟨"type", "quote"⟩ := by
    refine ⟨fun which => ?_, fun which => ?_, by decide⟩
    · cases which <;> decide
    · cases which <;> decide
  have hheaded : InputNames.headed ⟨"type", "quote"⟩ "quote(field.type + type . name)" =
      "(type, quote) ->quote(type.type + quote . name)" := by
    decide +kernel
  -- The source without a header, and its first token.
  have htext : ((compile? "quote(field.type + type . name)").toOption.map (·.body.toText)) =
      some "quote(((field.type) + (type.name)))" := by
    decide +kernel
  have hfirst : ((tokens "quote(field.type + type . name)").toOption.bind (·.head?)) =
      some ⟨.ident "quote", 0⟩ := by
    decide +kernel
  obtain ⟨p, hp, htext⟩ := Option.map_eq_some_iff.mp htext
  have hp := toOption_eq_some_iff.mp hp
  obtain ⟨ts, e, hlexes, -, rfl⟩ := compile?_eq_ok.mp hp
  have hnone : ∀ given body, ¬ HasHeader given ts body := by
    rintro given body ⟨⟩
    have htokens : tokens "quote(field.type + type . name)" = .ok _ := hlexes
    rw [htokens] at hfirst
    cases hfirst
  -- The source with a header, and what follows the header.
  have htokens : (tokens "(type, quote) ->quote(type.type + quote . name)").toOption =
      some (⟨.openParen, 0⟩ :: ⟨.ident "type", 1⟩ :: ⟨.comma, 5⟩ :: ⟨.ident "quote", 7⟩ ::
        ⟨.closeParen, 12⟩ :: ⟨.arrow, 14⟩ ::
        [⟨.ident "quote", 16⟩, ⟨.openParen, 21⟩, ⟨.ident "type", 22⟩, ⟨.dot, 26⟩,
          ⟨.ident "type", 27⟩, ⟨.plus, 32⟩, ⟨.ident "quote", 34⟩, ⟨.dot, 40⟩, ⟨.ident "name", 42⟩,
          ⟨.closeParen, 46⟩]) := by
    decide +kernel
  have htokens := toOption_eq_some_iff.mp htokens
  obtain ⟨hrename, hknown⟩ := compile?_headed
  have hcompile := hrename _ _ ts e husable hlexes hnone hp
  rw [hheaded] at hcompile
  exact ⟨husable, ⟨e, hp, htext, hcompile⟩, _, _, htokens, .intro, by decide,
    hknown _ _ _ _ e htokens .intro hcompile⟩

end

end Fixtures.Provider
