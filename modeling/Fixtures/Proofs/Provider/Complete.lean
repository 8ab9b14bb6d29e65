import Fixtures.Proofs.Provider.Sound

/-!
# `Fixtures.Proofs.Provider.Complete`: the parser reads providers and nothing else

Every phrase of the grammar is read where it stands. A reader goes on as long as the next token
allows it, so this needs that the next token does not hold on to the phrase: each kind of token has
a `grip`, which is the strength of the operators it belongs to, and a phrase is read in front of
tokens that hold on less than its own operators do (`Loose`).

Phrases that are repeated on their left are read in another order than they are derived: the reader
starts with the first operand and carries it along. The statement about such a phrase (`IsRead`)
therefore says how a reading of what follows the phrase becomes a reading from its start.

With the converse, `parse_eq_ok_iff_isProvider` says that the parser accepts the grammar. What is
left for it is the header: a list with a header is no expression, because no expression starts with
a name in parentheses that a comma follows.
-/

set_option autoImplicit false

namespace Fixtures.Provider

/-! ### How tokens hold on to what is before them -/

/-- How tightly a token holds on to the phrase before it. An opening parenthesis holds on most: it
makes a call of a name, whatever operators there are. Zero is for the tokens that belong to no
operator. -/
def TokenKind.grip : TokenKind → Nat
  | .question => 1
  | .or => 2
  | .and => 3
  | .equal | .notEqual => 4
  | .plus => 5
  | .dot | .openBracket => 6
  | .openParen => 7
  | _ => 0

/-- How tightly the operators of a level hold their operands. -/
def Level.strength : Level → Nat
  | or => 2
  | and => 3
  | equality => 4
  | additive => 5

/-- The next token, if there is one, holds on less than that. So it does not take part of what was
read before it. -/
def Loose (n : Nat) (rest : List Token) : Prop := ∀ token ∈ rest.head?, token.kind.grip < n

theorem Loose.mono {m n : Nat} {rest : List Token} (h : Loose m rest) (hle : m ≤ n) :
    Loose n rest :=
  fun token htoken => Nat.lt_of_lt_of_le (h token htoken) hle

theorem loose_nil (n : Nat) : Loose n [] := by
  intro token htoken
  simp at htoken

theorem loose_cons {n : Nat} {kind : TokenKind} {o : Nat} {s : List Token}
    (h : kind.grip < n) : Loose n (⟨kind, o⟩ :: s) := by
  intro token htoken
  cases htoken
  exact h

/-- A token that is next where none of its grip is, is not. -/
theorem Loose.ne {n : Nat} {kind : TokenKind} {o : Nat} {s rest : List Token} (h : Loose n rest)
    (hn : n ≤ kind.grip) : rest ≠ ⟨kind, o⟩ :: s := by
  rintro rfl
  exact Nat.not_lt.mpr hn (h _ rfl)

/-- The operators of a level have the grip of the level. -/
theorem Level.grip_of_operator? {level : Level} {kind : TokenKind} {operator : Operator}
    (h : level.operator? kind = some operator) : kind.grip = level.strength := by
  unfold Level.operator? at h
  split at h
  · rfl
  · rfl
  · rfl
  · rfl
  · rfl
  · simp at h

/-! ### One lemma for each rule

They say how a reader gets from what its parts give to what it gives itself. -/

/-- Every built-in is found by its name. -/
theorem Builtin.ofName?_name (f : Builtin) : Builtin.ofName? f.name = some f := by
  cases f <;> rfl

/-- Every property is found by its word. -/
theorem Property.ofWord?_word (p : Property) : Property.ofWord? p.word = some p := by
  cases p <;> rfl

/-- Every method is found by its word. The words of properties are looked up apart, since the
parenthesis tells which is meant. -/
theorem Method.ofWord?_word (m : Method) : Method.ofWord? m.word = some m := by
  cases m <;> rfl

/-- A method is accepted with a number of arguments it takes. -/
theorem checkMethod_word {m : Method} {supplied : Nat} (h : supplied ∈ m.arities) :
    checkMethod m.word supplied = .ok m := by
  simp [checkMethod, Method.ofWord?_word, h]

section

variable {names : InputNames} {size : Nat} {s s₁ s₂ rest : List Token}

/-- A token that has to be there is found. -/
theorem expect_cons (kind : TokenKind) (what : Missing) (o : Nat) (s : List Token) :
    expect kind what (⟨kind, o⟩ :: s) = .ok ⟨s, Nat.lt_succ_self _⟩ := by
  simp [expect]

/-- An expression without a question mark behind it ends where its last operand does. -/
theorem gives_exprAt_plain {e : Expr} (h : Gives (levelAt names size .or s) e rest)
    (hrest : Loose 1 rest) : Gives (exprAt names size s) e rest := by
  obtain ⟨r, hr, rfl, rfl⟩ := h
  rw [exprAt]
  simp only [hr]
  split
  · next hquestion => exact absurd hquestion (hrest.ne (by decide))
  · exact gives_ok_iff.mpr ⟨rfl, rfl⟩

/-- A question mark goes on with two more expressions. -/
theorem gives_exprAt_conditional {c y n : Expr} {o₁ o₂ : Nat}
    (hc : Gives (levelAt names size .or s) c (⟨.question, o₁⟩ :: s₁))
    (hy : Gives (exprAt names size s₁) y (⟨.colon, o₂⟩ :: s₂))
    (hn : Gives (exprAt names size s₂) n rest) :
    Gives (exprAt names size s) (.conditional c y n) rest := by
  obtain ⟨⟨_, _, _⟩, hc, rfl, rfl⟩ := hc
  obtain ⟨⟨_, _, _⟩, hy, rfl, rfl⟩ := hy
  obtain ⟨rn, hn, rfl, rfl⟩ := hn
  rw [exprAt]
  simp [hc, hy, hn, expect_cons]

/-- A phrase of a level is read from its first operand on. -/
theorem gives_levelAt {level : Level} {l e : Expr} (hl : Gives (operandAt names size level s) l s₁)
    (h : Gives (operationsAt names size level l s₁) e rest) :
    Gives (levelAt names size level s) e rest := by
  obtain ⟨⟨_, _, _⟩, hl, rfl, rfl⟩ := hl
  obtain ⟨r, hr, rfl, rfl⟩ := h
  rw [levelAt]
  simp [hl, hr]

/-- Where no operator of the level is next, the phrase ends. -/
theorem gives_operationsAt_here {level : Level} {l : Expr} (hrest : Loose level.strength rest) :
    Gives (operationsAt names size level l rest) l rest := by
  rw [operationsAt.eq_def]
  split
  · exact gives_ok_iff.mpr ⟨rfl, rfl⟩
  · next token s =>
    split
    · exact gives_ok_iff.mpr ⟨rfl, rfl⟩
    · next operator hop =>
      have hgrip := hrest token rfl
      rw [Level.grip_of_operator? hop] at hgrip
      exact absurd hgrip (Nat.lt_irrefl _)

/-- Where one is next, its operand is read, and both make the phrase that is carried on. -/
theorem gives_operationsAt_operation {level : Level} {kind : TokenKind} {operator : Operator}
    {l r e : Expr} {o : Nat} (hop : level.operator? kind = some operator)
    (hr : Gives (operandAt names size level s) r s₁)
    (h : Gives (operationsAt names size level (.binary operator l r) s₁) e rest) :
    Gives (operationsAt names size level l (⟨kind, o⟩ :: s)) e rest := by
  obtain ⟨⟨_, _, _⟩, hr, rfl, rfl⟩ := hr
  obtain ⟨r, h, rfl, rfl⟩ := h
  rw [operationsAt]
  split
  · next hnone => simp [hop] at hnone
  · next hop' =>
    cases hop.symm.trans hop'
    simp [hr, h]

/-- A negation is read with all that it negates. -/
theorem gives_unaryAt_negation {e : Expr} {o : Nat} (h : Gives (unaryAt names size s) e rest) :
    Gives (unaryAt names size (⟨.bang, o⟩ :: s)) (.not e) rest := by
  obtain ⟨r, hr, rfl, rfl⟩ := h
  rw [unaryAt]
  simp [hr]

/-- A primary and what follows it are read from the primary on. -/
theorem gives_unaryAt {t e : Expr} (ht : Gives (primaryAt names size s) t s₁)
    (h : Gives (postfixAt names size t s₁) e rest) : Gives (unaryAt names size s) e rest := by
  obtain ⟨⟨_, _, _⟩, ht, rfl, rfl⟩ := ht
  obtain ⟨r, hr, rfl, rfl⟩ := h
  rw [unaryAt.eq_def]
  split
  · rw [primaryAt] at ht
    · simp at ht
    all_goals simp
  · simp [ht, hr]

/-- Where neither a dot nor a bracket is next, the phrase ends. -/
theorem gives_postfixAt_here {t : Expr} (hrest : Loose 6 rest) :
    Gives (postfixAt names size t rest) t rest := by
  rw [postfixAt.eq_def]
  split
  · exact absurd rfl (hrest.ne (by decide))
  · exact absurd rfl (hrest.ne (by decide))
  · exact absurd rfl (hrest.ne (by decide))
  · exact absurd rfl (hrest.ne (by decide))
  · exact absurd rfl (hrest.ne (by decide))
  · exact gives_ok_iff.mpr ⟨rfl, rfl⟩

/-- A name behind a dot is a property, if it is not called. -/
theorem gives_postfixAt_property {t e : Expr} {p : Property} {o₁ o₂ : Nat} (hs : Loose 7 s)
    (h : Gives (postfixAt names size (.property t p) s) e rest) :
    Gives (postfixAt names size t (⟨.dot, o₁⟩ :: ⟨.ident p.word, o₂⟩ :: s)) e rest := by
  obtain ⟨r, hr, rfl, rfl⟩ := h
  rw [postfixAt]
  · simp [Property.ofWord?_word, hr]
  · exact fun _ _ => hs.ne (by decide)

/-- A name behind a dot is a method if it is called, and so it goes on behind the call. -/
theorem gives_postfixAt_method {t e : Expr} {m : Method} {es : List Expr} {o₁ o₂ o₃ : Nat}
    (hes : Gives (argumentsAt names size s) es s₁) (harity : es.length ∈ m.arities)
    (h : Gives (postfixAt names size (.method t m es) s₁) e rest) :
    Gives (postfixAt names size t (⟨.dot, o₁⟩ :: ⟨.ident m.word, o₂⟩ :: ⟨.openParen, o₃⟩ :: s)) e
      rest := by
  obtain ⟨⟨_, _, _⟩, hes, rfl, rfl⟩ := hes
  obtain ⟨r, hr, rfl, rfl⟩ := h
  rw [postfixAt]
  simp [hes, hr, checkMethod_word harity]

/-- A position stands in brackets, and it goes on behind them. -/
theorem gives_postfixAt_index {t p e : Expr} {o₁ o₂ : Nat}
    (hp : Gives (exprAt names size s) p (⟨.closeBracket, o₂⟩ :: s₁))
    (h : Gives (postfixAt names size (.index t p) s₁) e rest) :
    Gives (postfixAt names size t (⟨.openBracket, o₁⟩ :: s)) e rest := by
  obtain ⟨⟨_, _, _⟩, hp, rfl, rfl⟩ := hp
  obtain ⟨r, hr, rfl, rfl⟩ := h
  rw [postfixAt]
  simp [hp, hr, expect_cons]

/-- An expression in parentheses is a primary. -/
theorem gives_primaryAt_parens {e : Expr} {o₁ o₂ : Nat}
    (h : Gives (exprAt names size s) e (⟨.closeParen, o₂⟩ :: rest)) :
    Gives (primaryAt names size (⟨.openParen, o₁⟩ :: s)) e rest := by
  obtain ⟨⟨_, _, _⟩, h, rfl, rfl⟩ := h
  rw [primaryAt]
  simp [h, expect_cons]

/-- So is a call, and its name is looked up among the built-ins alone. -/
theorem gives_primaryAt_call {f : Builtin} {es : List Expr} {o₁ o₂ : Nat}
    (hes : Gives (argumentsAt names size s) es rest) (harity : es.length = f.arity) :
    Gives (primaryAt names size (⟨.ident f.name, o₁⟩ :: ⟨.openParen, o₂⟩ :: s)) (.call f es)
      rest := by
  obtain ⟨r, hr, rfl, rfl⟩ := hes
  have hword : f.name ≠ "true" ∧ f.name ≠ "false" ∧ f.name ≠ "null" := by cases f <;> decide
  rw [primaryAt, if_neg hword.1, if_neg hword.2.1, if_neg hword.2.2]
  simp [Builtin.ofName?_name, hr, harity]

/-- So is the name of an input, if it is not called. The name of the field is compared first, and
this is why the two have to differ. -/
theorem gives_primaryAt_input {which : Input} {o : Nat} (hword : names.of which ∉ constantWords)
    (hne : names.field ≠ names.type) (hrest : Loose 7 rest) :
    Gives (primaryAt names size (⟨.ident (names.of which), o⟩ :: rest)) (.input which) rest := by
  have hword : names.of which ≠ "true" ∧ names.of which ≠ "false" ∧ names.of which ≠ "null" := by
    simpa [constantWords] using hword
  rw [primaryAt]
  · rw [if_neg hword.1, if_neg hword.2.1, if_neg hword.2.2]
    cases which with
    | field => simp [InputNames.of]
    | type => simp [InputNames.of, hne.symm]
  · exact fun _ _ => hrest.ne (by decide)

/-- A closing parenthesis at once means that there are no arguments. -/
theorem gives_argumentsAt_none {o : Nat} :
    Gives (argumentsAt names size (⟨.closeParen, o⟩ :: rest)) [] rest := by
  rw [argumentsAt]
  simp

/-- Any other token starts the first argument. -/
theorem gives_argumentsAt_some {es : List Expr} (h : Gives (listAt names size s) es rest)
    (hs : ∀ o s', s ≠ ⟨.closeParen, o⟩ :: s') : Gives (argumentsAt names size s) es rest := by
  rw [argumentsAt.eq_def]
  split
  · exact absurd rfl (hs _ _)
  · exact h

/-- One expression up to the closing parenthesis is a list. -/
theorem gives_listAt_single {e : Expr} {o : Nat}
    (h : Gives (exprAt names size s) e (⟨.closeParen, o⟩ :: rest)) :
    Gives (listAt names size s) [e] rest := by
  obtain ⟨⟨_, _, _⟩, h, rfl, rfl⟩ := h
  rw [listAt]
  simp [h]

/-- So is one up to a comma, with a list behind it. -/
theorem gives_listAt_more {e : Expr} {es : List Expr} {o : Nat}
    (h : Gives (exprAt names size s) e (⟨.comma, o⟩ :: s₁))
    (hes : Gives (listAt names size s₁) es rest) : Gives (listAt names size s) (e :: es) rest := by
  obtain ⟨⟨_, _, _⟩, h, rfl, rfl⟩ := h
  obtain ⟨r, hr, rfl, rfl⟩ := hes
  rw [listAt]
  simp [h, hr, expect_cons]

/-! ### How phrases start -/

/-- A phrase other than arguments starts with no closing parenthesis. So the reader of arguments
can tell by the first token whether there are any. -/
def Phrase.NotClosed (s : List Token) : Phrase → Prop
  | .arguments _ => True
  | _ => ∀ o s', s ≠ ⟨.closeParen, o⟩ :: s'

/-- That is so for every phrase of the grammar, by its first token. -/
theorem Derives.notClosed {phrase : Phrase} (h : Derives names phrase s rest) :
    phrase.NotClosed s := by
  induction h with
  | plain h ih | orOperand h ih | andOperand h ih | equalityOperand h ih => exact ih
  | additiveOperand h ih | unaryOperand h ih | postfixedOperand h ih | single h ih => exact ih
  | conditional hc hy hn ih => exact ih
  | disjunction hl hr ih | conjunction hl hr ih | equal hl hr ih => exact ih
  | notEqual hl hr ih | add hl hr ih => exact ih
  | property ht ih => exact ih
  | method ht hes harity ih => exact ih
  | index ht hp ih => exact ih
  | more h hes ih => exact ih
  | negation | text | int | trueWord | falseWord | nullWord | call | input | parens =>
    intro o s' hs
    simp at hs
  | noArguments | someArguments => trivial

/-- What starts with a name and a comma ends in front of the comma, and nothing starts so behind a
parenthesis. -/
structure NoHeader (s rest : List Token) : Prop where
  comma : ∀ name o₁ o₂ s', s = ⟨.ident name, o₁⟩ :: ⟨.comma, o₂⟩ :: s' → rest = ⟨.comma, o₂⟩ :: s'
  parens : ∀ name o₁ o₂ o₃ s', s ≠ ⟨.openParen, o₁⟩ :: ⟨.ident name, o₂⟩ :: ⟨.comma, o₃⟩ :: s'

/-- What goes on with another token than a comma does not start with a name and a comma. -/
theorem NoHeader.longer {kind : TokenKind} {o : Nat} (h : NoHeader s (⟨kind, o⟩ :: s₁))
    (hkind : kind ≠ .comma) : NoHeader s rest := by
  refine ⟨fun name o₁ o₂ s' hs => ?_, h.parens⟩
  have hcomma := h.comma name o₁ o₂ s' hs
  simp [hkind] at hcomma

/-- A token other than a name or a parenthesis starts no header. -/
theorem noHeader_cons {kind : TokenKind} {o : Nat} (hname : ∀ name, kind ≠ .ident name)
    (hparen : kind ≠ .openParen) : NoHeader (⟨kind, o⟩ :: s) rest := by
  constructor
  · intro name o₁ o₂ s' hs
    simp [hname] at hs
  · intro name o₁ o₂ o₃ s' hs
    simp [hparen] at hs

/-- A name by itself starts no header. -/
theorem noHeader_name {name : String} {o : Nat} : NoHeader (⟨.ident name, o⟩ :: rest) rest := by
  constructor
  · intro name' o₁ o₂ s' hs
    simp only [List.cons.injEq] at hs
    exact hs.2
  · intro name' o₁ o₂ o₃ s' hs
    simp at hs

/-- An expression does not start like a header. Arguments and lists do, but they stand behind a
parenthesis of their own. -/
def Phrase.NoHeader (s rest : List Token) : Phrase → Prop
  | .arguments _ | .list _ => True
  | _ => Provider.NoHeader s rest

/-- No expression starts with a name in parentheses that a comma follows. The case with an argument
in it is that of parentheses; everything else starts with another token or goes on with one. -/
theorem Derives.noHeader {phrase : Phrase} (h : Derives names phrase s rest) :
    phrase.NoHeader s rest := by
  induction h with
  | plain h ih | orOperand h ih | andOperand h ih | equalityOperand h ih => exact ih
  | additiveOperand h ih | unaryOperand h ih | postfixedOperand h ih => exact ih
  | conditional hc hy hn ih => exact ih.longer (by decide)
  | disjunction hl hr ih | conjunction hl hr ih | equal hl hr ih => exact ih.longer (by decide)
  | notEqual hl hr ih | add hl hr ih => exact ih.longer (by decide)
  | property ht ih => exact ih.longer (by decide)
  | method ht hes harity ih => exact ih.longer (by decide)
  | index ht hp ih => exact ih.longer (by decide)
  | negation | text | int => exact noHeader_cons (by simp) (by simp)
  | trueWord | falseWord | nullWord | input => exact noHeader_name
  | call hes harity =>
    constructor
    · intro name o₁ o₂ s' hs
      simp at hs
    · intro name o₁ o₂ o₃ s' hs
      simp at hs
  | parens h ih =>
    constructor
    · intro name o₁ o₂ s' hs
      simp at hs
    · intro name o₁ o₂ o₃ s' hs
      simp only [List.cons.injEq] at hs
      -- The name and the comma would be an expression in front of the closing parenthesis.
      have hclose := ih.comma name o₂ o₃ s' hs.2
      simp at hclose
  | noArguments | someArguments | single | more => trivial

/-! ### All phrases are read -/

/-- A phrase of a level is read together with the operators behind it, which continue it. What
comes after must not hold on to the last operand more than the level does. -/
def Level.IsRead (names : InputNames) (size : Nat) (s rest : List Token) (level : Level)
    (e : Expr) : Prop :=
  ∀ v r, Loose (level.strength + 1) rest → Gives (operationsAt names size level e rest) v r →
    Gives (levelAt names size level s) v r

/-- How a phrase is read where it stands. One that may be repeated on its left is read together
with what the reader finds behind it. -/
def Phrase.IsRead (names : InputNames) (size : Nat) (s rest : List Token) : Phrase → Prop
  | .expr e => Loose 1 rest → Gives (exprAt names size s) e rest
  | .or e => Level.or.IsRead names size s rest e
  | .and e => Level.and.IsRead names size s rest e
  | .equality e => Level.equality.IsRead names size s rest e
  | .additive e => Level.additive.IsRead names size s rest e
  | .unary e => Loose 6 rest → Gives (unaryAt names size s) e rest
  | .postfixed e => ∀ v r, Loose 7 rest → Gives (postfixAt names size e rest) v r →
      Gives (unaryAt names size s) v r
  | .primary e => Loose 7 rest → Gives (primaryAt names size s) e rest
  | .arguments es => ∀ o r, rest = ⟨.closeParen, o⟩ :: r → Gives (argumentsAt names size s) es r
  | .list es => ∀ o r, rest = ⟨.closeParen, o⟩ :: r → Gives (listAt names size s) es r

/-- For a phrase of a level both statements are the same, whichever level it is. -/
theorem isRead_phrase_iff {level : Level} {e : Expr} :
    (level.phrase e).IsRead names size s rest ↔ level.IsRead names size s rest e := by
  cases level <;> rfl

/-- An operand is read where no tighter operator is next. -/
theorem gives_operandAt {level : Level} {e : Expr}
    (h : (level.operand e).IsRead names size s rest) (hrest : Loose (level.strength + 1) rest) :
    Gives (operandAt names size level s) e rest := by
  cases level with
  | or =>
    rw [operandAt]
    exact h e rest (hrest.mono (by decide)) (gives_operationsAt_here hrest)
  | and =>
    rw [operandAt]
    exact h e rest (hrest.mono (by decide)) (gives_operationsAt_here hrest)
  | equality =>
    rw [operandAt]
    exact h e rest (hrest.mono (by decide)) (gives_operationsAt_here hrest)
  | additive =>
    rw [operandAt]
    exact h hrest

/-- The first operand of a level starts the reading of the level. -/
theorem isRead_operand {level : Level} {e : Expr}
    (h : (level.operand e).IsRead names size s rest) :
    (level.phrase e).IsRead names size s rest := by
  refine isRead_phrase_iff.mpr fun v r hrest hv => ?_
  exact gives_levelAt (gives_operandAt h hrest) hv

/-- One more operator and operand continue it. The left operand is read first and handed on, so the
derivation on the left is used before the one on the right. -/
theorem isRead_operation {level : Level} {kind : TokenKind} {operator : Operator} {l r : Expr}
    {o : Nat} (hop : level.operator? kind = some operator)
    (hl : (level.phrase l).IsRead names size s (⟨kind, o⟩ :: s₁))
    (hr : (level.operand r).IsRead names size s₁ rest) :
    (level.phrase (.binary operator l r)).IsRead names size s rest := by
  refine isRead_phrase_iff.mpr fun v r' hrest hv => ?_
  -- The operator itself is no tighter than its level, so the left operand ends in front of it.
  have hgrip : kind.grip < level.strength + 1 := by
    rw [Level.grip_of_operator? hop]
    exact Nat.lt_succ_self _
  refine isRead_phrase_iff.mp hl v r' (loose_cons hgrip) ?_
  exact gives_operationsAt_operation hop (gives_operandAt hr hrest) hv

/-- Every phrase is read where it stands. The induction is over the derivation; each rule of the
grammar becomes the step of the reader that it describes. -/
theorem Derives.isRead {phrase : Phrase} (hne : names.field ≠ names.type)
    (h : Derives names phrase s rest) : phrase.IsRead names size s rest := by
  induction h with
  | plain h ih =>
    intro hrest
    refine gives_exprAt_plain ?_ hrest
    exact ih _ _ (hrest.mono (by decide)) (gives_operationsAt_here (hrest.mono (by decide)))
  | conditional hc hy hn ihc ihy ihn =>
    intro hrest
    -- The condition is read up to the question mark, which holds on less than any operator.
    have hcondition := ihc _ _ (loose_cons (by decide))
      (gives_operationsAt_here (loose_cons (by decide)))
    exact gives_exprAt_conditional hcondition (ihy (loose_cons (by decide))) (ihn hrest)
  -- The levels differ in nothing but their operators.
  | orOperand h ih => exact @isRead_operand _ _ _ _ .or _ ih
  | andOperand h ih => exact @isRead_operand _ _ _ _ .and _ ih
  | equalityOperand h ih => exact @isRead_operand _ _ _ _ .equality _ ih
  | additiveOperand h ih => exact @isRead_operand _ _ _ _ .additive _ ih
  | disjunction hl hr ihl ihr => exact @isRead_operation _ _ _ _ _ .or _ _ _ _ _ rfl ihl ihr
  | conjunction hl hr ihl ihr => exact @isRead_operation _ _ _ _ _ .and _ _ _ _ _ rfl ihl ihr
  | equal hl hr ihl ihr => exact @isRead_operation _ _ _ _ _ .equality _ _ _ _ _ rfl ihl ihr
  | notEqual hl hr ihl ihr => exact @isRead_operation _ _ _ _ _ .equality _ _ _ _ _ rfl ihl ihr
  | add hl hr ihl ihr => exact @isRead_operation _ _ _ _ _ .additive _ _ _ _ _ rfl ihl ihr
  | negation h ih =>
    intro hrest
    exact gives_unaryAt_negation (ih hrest)
  | unaryOperand h ih =>
    intro hrest
    exact ih _ _ (hrest.mono (by decide)) (gives_postfixAt_here hrest)
  | postfixedOperand h ih =>
    intro v r hrest hv
    exact gives_unaryAt (ih hrest) hv
  -- What follows a primary is read behind the phrase that it continues.
  | property ht ih =>
    intro v r hrest hv
    exact ih v r (loose_cons (by decide)) (gives_postfixAt_property hrest hv)
  | method ht hes harity iht ihes =>
    intro v r hrest hv
    exact iht v r (loose_cons (by decide)) (gives_postfixAt_method (ihes _ _ rfl) harity hv)
  | index ht hp iht ihp =>
    intro v r hrest hv
    exact iht v r (loose_cons (by decide))
      (gives_postfixAt_index (ihp (loose_cons (by decide))) hv)
  | text | int | trueWord | falseWord | nullWord =>
    intro hrest
    simp [primaryAt.eq_def]
  | call hes harity ih =>
    intro hrest
    exact gives_primaryAt_call (ih _ _ rfl) harity
  | input hword =>
    intro hrest
    exact gives_primaryAt_input hword hne hrest
  | parens h ih =>
    intro hrest
    exact gives_primaryAt_parens (ih (loose_cons (by decide)))
  -- Arguments are read together with the parenthesis that closes them.
  | noArguments =>
    rintro o r rfl
    exact gives_argumentsAt_none
  | someArguments h ih =>
    rintro o r rfl
    exact gives_argumentsAt_some (ih _ _ rfl) h.notClosed
  | single h ih =>
    rintro o r rfl
    exact gives_listAt_single (ih (loose_cons (by decide)))
  | more h hes ih ihes =>
    rintro o r rfl
    exact gives_listAt_more (ih (loose_cons (by decide))) (ihes _ _ rfl)

/-! ### Providers -/

/-- A parsed expression was read up to the end of the tokens, behind the header. Whatever is left
over is an error, not a shorter provider. -/
theorem parse_eq_ok {e : Expr} : parse size s = .ok e ↔
    ∃ names body, headerAt s = .ok (names, body) ∧ Gives (exprAt names size body) e [] := by
  unfold parse
  constructor
  · intro h
    cases hheader : headerAt s with
    | error fault =>
      rw [hheader] at h
      cases h
    | ok x =>
      obtain ⟨names, body⟩ := x
      rw [hheader] at h
      -- The header may be missing, and then the body is all of the tokens.
      cases hexpr : exprAt names size body with
      | error fault => simp [bind, Except.bind, hexpr] at h
      | ok r =>
        simp only [bind, Except.bind, hexpr] at h
        split at h
        · next hrest =>
          cases h
          exact ⟨names, body, rfl, r, hexpr, rfl, hrest⟩
        · cases h
  · rintro ⟨names, body, hheader, r, hr, rfl, hrest⟩
    simp only [bind, Except.bind, hheader, hr]
    split
    · rfl
    · next hne => simp [hrest] at hne

/-- Only providers are parsed. A header names two different inputs, and without one the names are
the standard ones. -/
theorem isProvider_of_parse {e : Expr} (h : parse size s = .ok e) : IsProvider s e := by
  obtain ⟨names, body, hheader, h⟩ := parse_eq_ok.mp h
  have hexpr := derives_of_exprAt h
  unfold headerAt at hheader
  split at hheader
  · split at hheader
    · cases hheader
    · next hne =>
      cases hheader
      exact @IsProvider.header _ _ _ _ _ _ _ _ _ hne hexpr
  · cases hheader
    exact .plain hexpr

/-- All providers are parsed. One without a header is not mistaken for one with a header, because
no expression starts so. -/
theorem IsProvider.parse_eq {e : Expr} (h : IsProvider s e) : parse size s = .ok e := by
  cases h with
  | plain h =>
    have hheader : headerAt s = .ok (.standard, s) := by
      unfold headerAt
      split
      · exact absurd rfl (h.noHeader.parens _ _ _ _ _)
      · rfl
    exact parse_eq_ok.mpr ⟨_, _, hheader, h.isRead (by decide) (loose_nil 1)⟩
  | header hne h =>
    exact parse_eq_ok.mpr ⟨_, _, if_neg hne, h.isRead hne (loose_nil 1)⟩

/-- The grammar is unambiguous: tokens are those of one expression. This follows from the parser,
which has only one answer. -/
theorem IsProvider.unique {e e' : Expr} (h : IsProvider s e) (h' : IsProvider s e') : e = e' := by
  have hparse : parse 0 s = .ok e := h.parse_eq
  rw [h'.parse_eq] at hparse
  exact (Except.ok.inj hparse).symm

/-- The parser accepts exactly the providers, each with its own expression. One direction is by
induction along the parser and the other one along the derivation. The size of the source is for
error messages only and has no part in it. -/
theorem parse_eq_ok_iff_isProvider {e : Expr} : parse size s = .ok e ↔ IsProvider s e :=
  ⟨isProvider_of_parse, IsProvider.parse_eq⟩

end

end Fixtures.Provider
