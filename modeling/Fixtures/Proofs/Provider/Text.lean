import Fixtures.Proofs.Provider.Complete
import Fixtures.Proofs.Provider.Lexer
import Fixtures.Provider.Basic

/-!
# `Fixtures.Proofs.Provider.Text`: expressions and their sources

Expressions that are compiled are well formed: their integers are in range, and their calls have
numbers of arguments that are accepted. That properties and methods exist is part of their types.
Conversely every well-formed expression is compiled from its own source (`Expr.toText`), in which
everything that is put together stands in parentheses.

Such a source is the source of a primary, whatever follows it, so one statement is carried through
the expression: in front of a text with given tokens, its tokens are those of a primary that denotes
it (`Expr.IsReadBack`). An expression in parentheses needs this only in front of the closing one
(`isReadBack_of_parens`), which ends the last word inside.
-/

set_option autoImplicit false

namespace Fixtures.Provider

open Text

/-! ### Sources -/

namespace Operator

/-- The symbol of an operator. -/
def symbol : Operator → String
  | add => "+"
  | equal => "=="
  | notEqual => "!="
  | and => "&&"
  | or => "||"

/-- The token of an operator. -/
def kind : Operator → TokenKind
  | add => .plus
  | equal => .equal
  | notEqual => .notEqual
  | and => .and
  | or => .or

/-- The level of an operator. -/
def level : Operator → Level
  | add => .additive
  | equal | notEqual => .equality
  | and => .and
  | or => .or

/-- The token of an operator is read as this operator, at its own level. -/
theorem operator?_kind (operator : Operator) :
    operator.level.operator? operator.kind = some operator := by
  cases operator <;> rfl

end Operator

namespace Expr

mutual

/-- The source of an expression, with parentheses around everything that is put together. They
leave no trace in the tree, so what is read back is the expression itself and not one with more in
it. -/
def toText : Expr → String
  | .text value => Literal.encode value
  | .int value => toString value
  | .bool true => "true"
  | .bool false => "false"
  | .null => "null"
  | .input which => InputNames.standard.of which
  | .call f es => f.name ++ "(" ++ listText es ++ ")"
  | .property t p => "(" ++ t.toText ++ "." ++ p.word ++ ")"
  | .method t m es => "(" ++ t.toText ++ "." ++ m.word ++ "(" ++ listText es ++ "))"
  | .index t p => "(" ++ t.toText ++ "[" ++ p.toText ++ "])"
  | .not e => "(!" ++ e.toText ++ ")"
  | .binary operator l r => "(" ++ l.toText ++ " " ++ operator.symbol ++ " " ++ r.toText ++ ")"
  | .conditional c y n => "(" ++ c.toText ++ " ? " ++ y.toText ++ " : " ++ n.toText ++ ")"

/-- The sources of expressions, with commas between them. -/
def listText : List Expr → String
  | [] => ""
  | [e] => e.toText
  | e :: e' :: es => e.toText ++ ", " ++ listText (e' :: es)

end

/-- The integers of the expression are in range, and its calls have numbers of arguments that are
accepted. That the names of properties, methods and built-ins exist is part of their types. -/
inductive IsWellFormed : Expr → Prop
  | text {value : String} : IsWellFormed (.text value)
  | int {value : Int} (hle : 0 ≤ value) (hmax : value ≤ maxInt) : IsWellFormed (.int value)
  | bool {value : Bool} : IsWellFormed (.bool value)
  | null : IsWellFormed .null
  | input {which : Input} : IsWellFormed (.input which)
  | call {f : Builtin} {es : List Expr} (harity : es.length = f.arity)
      (hes : ∀ e ∈ es, IsWellFormed e) : IsWellFormed (.call f es)
  | property {t : Expr} {p : Property} (ht : IsWellFormed t) : IsWellFormed (.property t p)
  | method {t : Expr} {m : Method} {es : List Expr} (harity : es.length ∈ m.arities)
      (ht : IsWellFormed t) (hes : ∀ e ∈ es, IsWellFormed e) : IsWellFormed (.method t m es)
  | index {t p : Expr} (ht : IsWellFormed t) (hp : IsWellFormed p) : IsWellFormed (.index t p)
  | not {e : Expr} (he : IsWellFormed e) : IsWellFormed (.not e)
  | binary {operator : Operator} {l r : Expr} (hl : IsWellFormed l) (hr : IsWellFormed r) :
      IsWellFormed (.binary operator l r)
  | conditional {c y n : Expr} (hc : IsWellFormed c) (hy : IsWellFormed y) (hn : IsWellFormed n) :
      IsWellFormed (.conditional c y n)

end Expr

/-! ### What is compiled is well formed -/

/-- All expressions of a phrase are well formed. -/
def Phrase.IsWellFormed : Phrase → Prop
  | .expr e | .or e | .and e | .equality e | .additive e | .unary e | .postfixed e | .primary e =>
    e.IsWellFormed
  | .arguments es | .list es => ∀ e ∈ es, e.IsWellFormed

/-- Tokens with integers in range are those of well-formed phrases. The numbers of arguments are
checked by the grammar; the range is that of the tokens, which the lexer has checked. -/
theorem Derives.isWellFormed {names : InputNames} {phrase : Phrase} {s rest : List Token}
    (h : Derives names phrase s rest) (hs : ∀ token ∈ s, token.InRange) :
    phrase.IsWellFormed ∧ ∀ token ∈ rest, token.InRange := by
  -- Each part of a phrase starts where the part before it has left off, so the range of the
  -- tokens is handed on from one to the next.
  induction h with
  | plain h ih | orOperand h ih | andOperand h ih | equalityOperand h ih => exact ih hs
  | additiveOperand h ih | unaryOperand h ih | postfixedOperand h ih => exact ih hs
  | someArguments h ih => exact ih hs
  | conditional hc hy hn ihc ihy ihn =>
    obtain ⟨hc, hs⟩ := ihc hs
    obtain ⟨hy, hs⟩ := ihy (List.forall_mem_cons.mp hs).2
    obtain ⟨hn, hs⟩ := ihn (List.forall_mem_cons.mp hs).2
    exact ⟨.conditional hc hy hn, hs⟩
  | disjunction hl hr ihl ihr | conjunction hl hr ihl ihr | equal hl hr ihl ihr =>
    obtain ⟨hl, hs⟩ := ihl hs
    obtain ⟨hr, hs⟩ := ihr (List.forall_mem_cons.mp hs).2
    exact ⟨.binary hl hr, hs⟩
  | notEqual hl hr ihl ihr | add hl hr ihl ihr =>
    obtain ⟨hl, hs⟩ := ihl hs
    obtain ⟨hr, hs⟩ := ihr (List.forall_mem_cons.mp hs).2
    exact ⟨.binary hl hr, hs⟩
  | negation h ih =>
    obtain ⟨he, hs⟩ := ih (List.forall_mem_cons.mp hs).2
    exact ⟨.not he, hs⟩
  | property ht ih =>
    obtain ⟨ht, hs⟩ := ih hs
    simp only [List.forall_mem_cons] at hs
    exact ⟨.property ht, hs.2.2⟩
  | method ht hes harity iht ihes =>
    obtain ⟨ht, hs⟩ := iht hs
    simp only [List.forall_mem_cons] at hs
    obtain ⟨hes, hs⟩ := ihes hs.2.2.2
    exact ⟨.method harity ht hes, (List.forall_mem_cons.mp hs).2⟩
  | index ht hp iht ihp =>
    obtain ⟨ht, hs⟩ := iht hs
    obtain ⟨hp, hs⟩ := ihp (List.forall_mem_cons.mp hs).2
    exact ⟨.index ht hp, (List.forall_mem_cons.mp hs).2⟩
  | text => exact ⟨.text, (List.forall_mem_cons.mp hs).2⟩
  | int =>
    obtain ⟨hint, hs⟩ := List.forall_mem_cons.mp hs
    exact ⟨.int (Int.natCast_nonneg _) (Int.ofNat_le.mpr (hint _ rfl)), hs⟩
  | trueWord | falseWord => exact ⟨.bool, (List.forall_mem_cons.mp hs).2⟩
  | nullWord => exact ⟨.null, (List.forall_mem_cons.mp hs).2⟩
  | call hes harity ih =>
    simp only [List.forall_mem_cons] at hs
    obtain ⟨hes, hs⟩ := ih hs.2.2
    exact ⟨.call harity hes, (List.forall_mem_cons.mp hs).2⟩
  | input => exact ⟨.input, (List.forall_mem_cons.mp hs).2⟩
  | parens h ih =>
    obtain ⟨he, hs⟩ := ih (List.forall_mem_cons.mp hs).2
    exact ⟨he, (List.forall_mem_cons.mp hs).2⟩
  | noArguments => exact ⟨by simp [Phrase.IsWellFormed], hs⟩
  | single h ih =>
    obtain ⟨he, hs⟩ := ih hs
    exact ⟨by simpa [Phrase.IsWellFormed] using he, hs⟩
  | more h hes ih ihes =>
    obtain ⟨he, hs⟩ := ih hs
    obtain ⟨hes, hs⟩ := ihes (List.forall_mem_cons.mp hs).2
    exact ⟨List.forall_mem_cons.mpr ⟨he, hes⟩, hs⟩

/-- The expression of a provider is well formed if its tokens are in range. The header has no
expressions. -/
theorem IsProvider.isWellFormed {s : List Token} {e : Expr} (h : IsProvider s e)
    (hs : ∀ token ∈ s, token.InRange) : e.IsWellFormed := by
  cases h with
  | plain h => exact (h.isWellFormed hs).1
  | header hne h =>
    simp only [List.forall_mem_cons] at hs
    exact (h.isWellFormed hs.2.2.2.2.2.2).1

/-! ### Phrases of primaries -/

section

variable {names : InputNames} {s rest : List Token} {e : Expr}

/-- A primary is an operand of every level. So in a source with all parentheses no operator
competes with another one. -/
theorem Derives.operand_of_primary (h : Derives names (.primary e) s rest) (level : Level) :
    Derives names (level.operand e) s rest := by
  have hunary : Derives names (.unary e) s rest := .unaryOperand (.postfixedOperand h)
  have hequality : Derives names (.equality e) s rest := .equalityOperand (.additiveOperand hunary)
  cases level with
  | or => exact .andOperand hequality
  | and => exact hequality
  | equality => exact .additiveOperand hunary
  | additive => exact hunary

/-- A phrase of a level is an expression. -/
theorem Derives.expr_of_phrase {level : Level} (h : Derives names (level.phrase e) s rest) :
    Derives names (.expr e) s rest := by
  cases level with
  | or => exact .plain h
  | and => exact .plain (.orOperand h)
  | equality => exact .plain (.orOperand (.andOperand h))
  | additive => exact .plain (.orOperand (.andOperand (.equalityOperand h)))

/-- A negation, or what follows a primary, is an expression. -/
theorem Derives.expr_of_unary (h : Derives names (.unary e) s rest) :
    Derives names (.expr e) s rest :=
  @Derives.expr_of_phrase _ _ _ _ .additive (.additiveOperand h)

/-- So a primary is an expression, too. -/
theorem Derives.expr_of_primary (h : Derives names (.primary e) s rest) :
    Derives names (.expr e) s rest :=
  .expr_of_unary (h.operand_of_primary .additive)

end

/-! ### Sources are read back -/

/-- In front of a text that ends words and has the tokens `ts`, the source of the expression has
the tokens of a primary in front of `ts`. What follows has to end words, because the source may end
in one. -/
def Expr.IsReadBack (total : Nat) (e : Expr) : Prop :=
  ∀ rest ts, Ends isIdentPart rest → Lexes total rest ts →
    ∃ ts', Lexes total (e.toText.toList ++ rest) ts' ∧ Derives .standard (.primary e) ts' ts

section

variable {total : Nat}

/-- An expression in parentheses is read back if it is without them, in front of the closing one.
That parenthesis ends words, so what is behind it does not matter any more. -/
theorem isReadBack_of_parens {e : Expr} (body : List Char)
    (htext : e.toText.toList = '(' :: body ++ [')'])
    (h : ∀ rest ts, Ends isIdentPart rest → Lexes total rest ts →
      ∃ ts', Lexes total (body ++ rest) ts' ∧ Derives .standard (.expr e) ts' ts) :
    e.IsReadBack total := by
  intro rest ts _ hts
  -- From the back to the front: the closing parenthesis, what is inside, the opening one.
  obtain ⟨o₂, hclose⟩ := hts.symbol ')' rfl (by decide)
  obtain ⟨ts', hbody, hexpr⟩ := h (')' :: rest) _ (by simp [Ends, isIdentPart]) hclose
  obtain ⟨o₁, hopen⟩ := hbody.symbol '(' rfl (by decide)
  refine ⟨⟨.openParen, o₁⟩ :: ts', ?_, .parens hexpr⟩
  rw [htext]
  simpa using hopen

/-- A class ends in front of a character that it does not have. -/
theorem ends_cons {p : Char → Bool} {c : Char} {rest : List Char} (hc : p c = false) :
    Ends p (c :: rest) := by
  intro d hd
  cases hd
  exact hc

/-- The names of built-ins are words: they are identifiers, and no statement starts with them. -/
theorem Builtin.isWord (f : Builtin) : IsWord f.name := by
  cases f <;> decide

/-- So are the words for properties. -/
theorem Property.isWord (p : Property) : IsWord p.word := by
  cases p <;> decide

/-- So are the words for methods. -/
theorem Method.isWord (m : Method) : IsWord m.word := by
  cases m <;> decide

/-- The symbol of an operator is read, whatever follows it. None of these symbols is the start of
another one. -/
theorem lexes_operator (operator : Operator) {s : List Char} {ts : List Token}
    (h : Lexes total s ts) :
    ∃ o, Lexes total (operator.symbol.toList ++ s) (⟨operator.kind, o⟩ :: ts) := by
  cases operator with
  | add => exact h.symbol '+' rfl (by decide)
  | equal => exact h.longSymbol '=' '=' rfl
  | notEqual => exact h.longSymbol '!' '=' rfl
  | and => exact h.longSymbol '&' '&' rfl
  | or => exact h.longSymbol '|' '|' rfl

/-- A source starts with no equality sign. So a `!` in front of it stays a negation. -/
theorem head?_toText {e : Expr} (he : e.IsWellFormed) (rest : List Char) :
    ∀ c ∈ (e.toText.toList ++ rest).head?, c ≠ '=' := by
  cases he with
  | text => simp [Expr.toText, Literal.encode, Literal.encodeChars]
  | @int value hle hmax =>
    obtain ⟨n, rfl⟩ := Int.eq_ofNat_of_zero_le hle
    obtain ⟨c, cs, hcs, hc, -⟩ := exists_digits n
    have htext : (Expr.int n).toText.toList = c :: cs := hcs
    intro d hd
    obtain rfl : c = d := by simpa [htext] using hd
    rintro rfl
    simp at hc
  | @bool value => cases value <;> simp [Expr.toText]
  | null => simp [Expr.toText]
  | @input which => cases which <;> simp [Expr.toText, InputNames.standard, InputNames.of]
  | @call f es => cases f <;> simp [Expr.toText, Builtin.name]
  | property | method | index | not | binary | conditional => simp [Expr.toText]

/-- Sources with commas between them are read back as arguments. There may be none, and then
nothing is between the parentheses. -/
theorem exists_derives_listText {es : List Expr} (hes : ∀ e ∈ es, e.IsReadBack total)
    {rest : List Char} {ts : List Token} (hend : Ends isIdentPart rest)
    (hts : Lexes total rest ts) :
    ∃ ts', Lexes total ((Expr.listText es).toList ++ rest) ts' ∧
      Derives .standard (.arguments es) ts' ts := by
  have hlist : ∀ e es, (∀ e' ∈ e :: es, Expr.IsReadBack total e') →
      ∃ ts', Lexes total ((Expr.listText (e :: es)).toList ++ rest) ts' ∧
        Derives .standard (.list (e :: es)) ts' ts := by
    intro e es hes
    -- Induction on the expressions behind the first, which is derived in front of their text.
    induction es generalizing e with
    | nil =>
      obtain ⟨ts', hlexes, hderives⟩ := hes e (by simp) rest ts hend hts
      exact ⟨ts', by simpa [Expr.listText] using hlexes, .single hderives.expr_of_primary⟩
    | cons e' es ih =>
      obtain ⟨ts₁, hlexes, hmore⟩ := ih e' fun e'' he'' => hes e'' (by simp [he''])
      obtain ⟨o, hcomma⟩ := (hlexes.blank ' ' rfl).symbol ',' rfl (by decide)
      obtain ⟨ts₂, hlexes, hderives⟩ := hes e (by simp) _ _ (ends_cons rfl) hcomma
      exact ⟨ts₂, by simpa [Expr.listText] using hlexes, .more hderives.expr_of_primary hmore⟩
  cases es with
  | nil => exact ⟨ts, by simpa [Expr.listText] using hts, .noArguments⟩
  | cons e es =>
    obtain ⟨ts', hlexes, hderives⟩ := hlist e es hes
    exact ⟨ts', hlexes, .someArguments hderives⟩

/-- Every well-formed expression is read back. The tokens are put in front of each other from the
end of the source to its start, since what follows has to be known first. -/
theorem Expr.IsWellFormed.isReadBack {e : Expr} (h : e.IsWellFormed) : e.IsReadBack total := by
  induction h with
  | text =>
    intro rest ts hend hts
    obtain ⟨o, hlexes⟩ := hts.text
    exact ⟨_, hlexes, .text⟩
  | @int value hle hmax =>
    intro rest ts hend hts
    obtain ⟨n, rfl⟩ := Int.eq_ofNat_of_zero_le hle
    obtain ⟨o, hlexes⟩ := hts.int (Int.ofNat_le.mp hmax) hend
    exact ⟨_, hlexes, .int⟩
  | @bool value =>
    intro rest ts hend hts
    cases value with
    | true =>
      obtain ⟨o, hlexes⟩ := hts.word "true" (by decide) hend
      exact ⟨_, hlexes, .trueWord⟩
    | false =>
      obtain ⟨o, hlexes⟩ := hts.word "false" (by decide) hend
      exact ⟨_, hlexes, .falseWord⟩
  | null =>
    intro rest ts hend hts
    obtain ⟨o, hlexes⟩ := hts.word "null" (by decide) hend
    exact ⟨_, hlexes, .nullWord⟩
  | @input which =>
    intro rest ts hend hts
    have hword : InputNames.standard.of which ∉ constantWords := by cases which <;> decide
    have hname : IsWord (InputNames.standard.of which) := by cases which <;> decide
    obtain ⟨o, hlexes⟩ := hts.word _ hname hend
    exact ⟨_, hlexes, .input hword⟩
  | @call f es harity hes ih =>
    intro rest ts hend hts
    obtain ⟨o₃, hclose⟩ := hts.symbol ')' rfl (by decide)
    obtain ⟨ts₁, hlexes, hes⟩ := exists_derives_listText ih (ends_cons rfl) hclose
    obtain ⟨o₂, hopen⟩ := hlexes.symbol '(' rfl (by decide)
    obtain ⟨o₁, hname⟩ := hopen.word f.name f.isWord (ends_cons rfl)
    exact ⟨_, by simpa [Expr.toText] using hname, .call hes harity⟩
  | @property t p ht ih =>
    refine isReadBack_of_parens (t.toText.toList ++ '.' :: p.word.toList) (by simp [Expr.toText])
      fun rest ts hend hts => ?_
    obtain ⟨o₂, hword⟩ := hts.word p.word p.isWord hend
    obtain ⟨o₁, hdot⟩ := hword.symbol '.' rfl (by decide)
    obtain ⟨ts', hlexes, ht⟩ := ih _ _ (ends_cons rfl) hdot
    refine ⟨ts', by simpa using hlexes, ?_⟩
    exact .expr_of_unary (.unaryOperand (.property (.postfixedOperand ht)))
  | @method t m es harity ht hes iht ihes =>
    -- Two parentheses close: that of the arguments, and that around the call.
    refine isReadBack_of_parens
      (t.toText.toList ++ '.' :: (m.word.toList ++ '(' :: ((Expr.listText es).toList ++ [')'])))
      (by simp [Expr.toText]) fun rest ts hend hts => ?_
    obtain ⟨o₄, hclose⟩ := hts.symbol ')' rfl (by decide)
    obtain ⟨ts₁, hlexes, hes⟩ := exists_derives_listText ihes (ends_cons rfl) hclose
    obtain ⟨o₃, hopen⟩ := hlexes.symbol '(' rfl (by decide)
    obtain ⟨o₂, hword⟩ := hopen.word m.word m.isWord (ends_cons rfl)
    obtain ⟨o₁, hdot⟩ := hword.symbol '.' rfl (by decide)
    obtain ⟨ts', hlexes, ht⟩ := iht _ _ (ends_cons rfl) hdot
    refine ⟨ts', by simpa using hlexes, ?_⟩
    exact .expr_of_unary (.unaryOperand (.method (.postfixedOperand ht) hes harity))
  | @index t p ht hp iht ihp =>
    refine isReadBack_of_parens (t.toText.toList ++ '[' :: (p.toText.toList ++ [']']))
      (by simp [Expr.toText]) fun rest ts hend hts => ?_
    obtain ⟨o₂, hclose⟩ := hts.symbol ']' rfl (by decide)
    obtain ⟨ts₁, hlexes, hp⟩ := ihp _ _ (ends_cons rfl) hclose
    obtain ⟨o₁, hopen⟩ := hlexes.symbol '[' rfl (by decide)
    obtain ⟨ts', hlexes, ht⟩ := iht _ _ (ends_cons rfl) hopen
    refine ⟨ts', by simpa using hlexes, ?_⟩
    exact .expr_of_unary (.unaryOperand (.index (.postfixedOperand ht) hp.expr_of_primary))
  | @not e he ih =>
    refine isReadBack_of_parens ('!' :: e.toText.toList) (by simp [Expr.toText])
      fun rest ts hend hts => ?_
    obtain ⟨ts₁, hlexes, he'⟩ := ih rest ts hend hts
    -- Before an equality sign the `!` would be half of an inequality.
    obtain ⟨o, hbang⟩ := hlexes.bang (head?_toText he rest)
    refine ⟨_, hbang, ?_⟩
    exact .expr_of_unary (.negation (he'.operand_of_primary .additive))
  | @binary operator l r hl hr ihl ihr =>
    refine isReadBack_of_parens
      (l.toText.toList ++ ' ' :: (operator.symbol.toList ++ ' ' :: r.toText.toList))
      (by simp [Expr.toText]) fun rest ts hend hts => ?_
    obtain ⟨ts₁, hlexes, hr⟩ := ihr rest ts hend hts
    obtain ⟨o, hoperator⟩ := lexes_operator operator (hlexes.blank ' ' rfl)
    obtain ⟨ts', hlexes, hl⟩ := ihl _ _ (ends_cons rfl) (hoperator.blank ' ' rfl)
    refine ⟨ts', by simpa using hlexes, ?_⟩
    exact .expr_of_phrase (.operation operator.operator?_kind (hl.operand_of_primary _).operand
      (hr.operand_of_primary _))
  | @conditional c y n hc hy hn ihc ihy ihn =>
    refine isReadBack_of_parens (c.toText.toList ++ ' ' :: '?' :: ' ' ::
      (y.toText.toList ++ ' ' :: ':' :: ' ' :: n.toText.toList))
      (by simp [Expr.toText]) fun rest ts hend hts => ?_
    obtain ⟨ts₂, hlexes, hn⟩ := ihn rest ts hend hts
    obtain ⟨o₂, hcolon⟩ := (hlexes.blank ' ' rfl).symbol ':' rfl (by decide)
    obtain ⟨ts₁, hlexes, hy⟩ := ihy _ _ (ends_cons rfl) (hcolon.blank ' ' rfl)
    obtain ⟨o₁, hquestion⟩ := (hlexes.blank ' ' rfl).symbol '?' rfl (by decide)
    obtain ⟨ts', hlexes, hc⟩ := ihc _ _ (ends_cons rfl) (hquestion.blank ' ' rfl)
    refine ⟨ts', by simpa using hlexes, ?_⟩
    have hor : Derives .standard (.or c) ts' _ := (hc.operand_of_primary .or).operand
    exact .conditional hor hy.expr_of_primary hn.expr_of_primary

/-- A source is compiled when its tokens are those of an expression. -/
theorem compile?_eq_ok {source : String} {p : Provider} : compile? source = .ok p ↔
    ∃ ts e, Lexes source.utf8ByteSize source.toList ts ∧
      parse source.utf8ByteSize ts = .ok e ∧ p = ⟨source, e⟩ := by
  unfold compile? tokens Lexes
  cases tokensFrom source.utf8ByteSize source.toList with
  | error fault => simp [bind, Except.bind]
  | ok ts =>
    cases hparse : parse source.utf8ByteSize ts with
    | error fault => simp [bind, Except.bind, hparse]
    | ok e => simp [bind, Except.bind, pure, Except.pure, hparse, eq_comm]

/-- The expression of a compiled provider is well formed. -/
theorem isWellFormed_of_compile? {source : String} {p : Provider} (h : compile? source = .ok p) :
    p.body.IsWellFormed := by
  obtain ⟨ts, e, hlexes, hparse, rfl⟩ := compile?_eq_ok.mp h
  exact (isProvider_of_parse hparse).isWellFormed hlexes.inRange

/-- The compiler returns only well-formed expressions, and returns each of them for its source. So
the sources of well-formed expressions are a form to which every source can be brought, and it
means the same. -/
theorem isWellFormed_of_compile_and_compile_toText :
    (∀ source p, compile? source = .ok p → p.body.IsWellFormed) ∧
      ∀ e : Expr, e.IsWellFormed → compile? e.toText = .ok ⟨e.toText, e⟩ := by
  refine ⟨fun source p => isWellFormed_of_compile?, fun e he => ?_⟩
  obtain ⟨ts, hlexes, hderives⟩ :=
    he.isReadBack [] [] (by simp [Ends]) (lexes_nil e.toText.utf8ByteSize)
  rw [List.append_nil] at hlexes
  have hprovider : IsProvider ts e := .plain hderives.expr_of_primary
  exact compile?_eq_ok.mpr ⟨ts, e, hlexes, hprovider.parse_eq, rfl⟩

/-- Property, escaped text and operator of a source are compiled to what it was written from. -/
theorem compile_toText_sum :
    compile? "((field.name) + \"a\\\"b\")" = .ok ⟨"((field.name) + \"a\\\"b\")",
      .binary .add (.property (.input .field) .name) (.text "a\"b")⟩ ∧
    (Expr.binary .add (.property (.input .field) .name) (.text "a\"b")).IsWellFormed := by
  have htext : (Expr.binary .add (.property (.input .field) .name) (.text "a\"b")).toText =
      "((field.name) + \"a\\\"b\")" := by rfl
  have hformed : (Expr.binary .add (.property (.input .field) .name) (.text "a\"b")).IsWellFormed :=
    .binary (.property .input) .text
  obtain ⟨hcompiled, hcompile⟩ := isWellFormed_of_compile_and_compile_toText
  have hsource := hcompile _ hformed
  have hbody := hcompiled _ _ hsource
  rw [htext] at hsource
  exact ⟨hsource, hbody⟩

end

end Fixtures.Provider
