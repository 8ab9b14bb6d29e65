import Fixtures.Proofs.Reading
import Fixtures.Provider.Parser

/-!
# `Fixtures.Proofs.Provider.Grammar`: the grammar of providers

`Derives` is the grammar of expressions, with the expression that each phrase denotes:

    expr       = or [ "?" expr ":" expr ]
    or         = and { "||" and }
    and        = equality { "&&" equality }
    equality   = additive { ("==" | "!=") additive }
    additive   = unary { "+" unary }
    unary      = "!" unary | postfix
    postfix    = primary { "." name [ "(" arguments ")" ] | "[" expr "]" }
    primary    = text | integer | "true" | "false" | "null"
               | name [ "(" arguments ")" ] | "(" expr ")"

It relates a phrase to two token lists, the one that starts with the phrase and the one that
follows it. A repetition is written with the phrase itself on the left, so operators of one level
and what follows a primary group to the left; the branches of a conditional are whole expressions,
so conditionals group to the right. No rule looks at what follows, and places of tokens count for
nothing.

Names mean something, and the rules say what: a name that is called is a built-in, a name after a
dot is a property or, when it is called, a method, and both calls have a number of arguments that is
accepted. Any other name is one of the two inputs (`InputNames`) or a constant. `IsProvider` adds
the header, which gives the inputs two different names.
-/

set_option autoImplicit false

namespace Fixtures.Provider

/-- The name of an input. -/
def InputNames.of (names : InputNames) : Input → String
  | .field => names.field
  | .type => names.type

/-- The names that are constants, whatever the inputs are called. A header may give an input such a
name, and then the input cannot be reached: the word is the constant. -/
def constantWords : List String := ["true", "false", "null"]

/-- The parts of a written expression, with what they denote. The levels of operators are apart, so
that the grammar says which of two operators binds tighter, and no rule has to compare them. -/
inductive Phrase where
  | expr (e : Expr)
  | or (e : Expr)
  | and (e : Expr)
  | equality (e : Expr)
  | additive (e : Expr)
  | unary (e : Expr)
  | postfixed (e : Expr)
  | primary (e : Expr)
  /-- The arguments of a call, without the parentheses. -/
  | arguments (es : List Expr)
  /-- Expressions with commas between them, at least one. -/
  | list (es : List Expr)

/-- The phrase stands at the front of a token list, in front of a rest. The rest may be anything,
also tokens that would have made a longer phrase; which phrase the parser takes is not said here.
-/
inductive Derives (names : InputNames) : Phrase → List Token → List Token → Prop
  | plain {e : Expr} {s rest : List Token} (h : Derives names (.or e) s rest) :
      Derives names (.expr e) s rest
  | conditional {c y n : Expr} {s s₁ s₂ rest : List Token} {o₁ o₂ : Nat}
      (hc : Derives names (.or c) s (⟨.question, o₁⟩ :: s₁))
      (hy : Derives names (.expr y) s₁ (⟨.colon, o₂⟩ :: s₂))
      (hn : Derives names (.expr n) s₂ rest) : Derives names (.expr (.conditional c y n)) s rest
  | orOperand {e : Expr} {s rest : List Token} (h : Derives names (.and e) s rest) :
      Derives names (.or e) s rest
  | disjunction {l r : Expr} {s s₁ rest : List Token} {o : Nat}
      (hl : Derives names (.or l) s (⟨.or, o⟩ :: s₁)) (hr : Derives names (.and r) s₁ rest) :
      Derives names (.or (.binary .or l r)) s rest
  | andOperand {e : Expr} {s rest : List Token} (h : Derives names (.equality e) s rest) :
      Derives names (.and e) s rest
  | conjunction {l r : Expr} {s s₁ rest : List Token} {o : Nat}
      (hl : Derives names (.and l) s (⟨.and, o⟩ :: s₁)) (hr : Derives names (.equality r) s₁ rest) :
      Derives names (.and (.binary .and l r)) s rest
  | equalityOperand {e : Expr} {s rest : List Token} (h : Derives names (.additive e) s rest) :
      Derives names (.equality e) s rest
  | equal {l r : Expr} {s s₁ rest : List Token} {o : Nat}
      (hl : Derives names (.equality l) s (⟨.equal, o⟩ :: s₁))
      (hr : Derives names (.additive r) s₁ rest) :
      Derives names (.equality (.binary .equal l r)) s rest
  | notEqual {l r : Expr} {s s₁ rest : List Token} {o : Nat}
      (hl : Derives names (.equality l) s (⟨.notEqual, o⟩ :: s₁))
      (hr : Derives names (.additive r) s₁ rest) :
      Derives names (.equality (.binary .notEqual l r)) s rest
  | additiveOperand {e : Expr} {s rest : List Token} (h : Derives names (.unary e) s rest) :
      Derives names (.additive e) s rest
  | add {l r : Expr} {s s₁ rest : List Token} {o : Nat}
      (hl : Derives names (.additive l) s (⟨.plus, o⟩ :: s₁))
      (hr : Derives names (.unary r) s₁ rest) : Derives names (.additive (.binary .add l r)) s rest
  | negation {e : Expr} {s rest : List Token} {o : Nat} (h : Derives names (.unary e) s rest) :
      Derives names (.unary (.not e)) (⟨.bang, o⟩ :: s) rest
  | unaryOperand {e : Expr} {s rest : List Token} (h : Derives names (.postfixed e) s rest) :
      Derives names (.unary e) s rest
  | postfixedOperand {e : Expr} {s rest : List Token} (h : Derives names (.primary e) s rest) :
      Derives names (.postfixed e) s rest
  | property {t : Expr} {p : Property} {s rest : List Token} {o₁ o₂ : Nat}
      (ht : Derives names (.postfixed t) s (⟨.dot, o₁⟩ :: ⟨.ident p.word, o₂⟩ :: rest)) :
      Derives names (.postfixed (.property t p)) s rest
  | method {t : Expr} {m : Method} {es : List Expr} {s s₁ rest : List Token} {o₁ o₂ o₃ o₄ : Nat}
      (ht : Derives names (.postfixed t) s
        (⟨.dot, o₁⟩ :: ⟨.ident m.word, o₂⟩ :: ⟨.openParen, o₃⟩ :: s₁))
      (hes : Derives names (.arguments es) s₁ (⟨.closeParen, o₄⟩ :: rest))
      (harity : es.length ∈ m.arities) : Derives names (.postfixed (.method t m es)) s rest
  | index {t p : Expr} {s s₁ rest : List Token} {o₁ o₂ : Nat}
      (ht : Derives names (.postfixed t) s (⟨.openBracket, o₁⟩ :: s₁))
      (hp : Derives names (.expr p) s₁ (⟨.closeBracket, o₂⟩ :: rest)) :
      Derives names (.postfixed (.index t p)) s rest
  | text {value : String} {rest : List Token} {o : Nat} :
      Derives names (.primary (.text value)) (⟨.text value, o⟩ :: rest) rest
  | int {value : Nat} {rest : List Token} {o : Nat} :
      Derives names (.primary (.int value)) (⟨.int value, o⟩ :: rest) rest
  | trueWord {rest : List Token} {o : Nat} :
      Derives names (.primary (.bool true)) (⟨.ident "true", o⟩ :: rest) rest
  | falseWord {rest : List Token} {o : Nat} :
      Derives names (.primary (.bool false)) (⟨.ident "false", o⟩ :: rest) rest
  | nullWord {rest : List Token} {o : Nat} :
      Derives names (.primary .null) (⟨.ident "null", o⟩ :: rest) rest
  | call {f : Builtin} {es : List Expr} {s rest : List Token} {o₁ o₂ o₃ : Nat}
      (hes : Derives names (.arguments es) s (⟨.closeParen, o₃⟩ :: rest))
      (harity : es.length = f.arity) :
      Derives names (.primary (.call f es)) (⟨.ident f.name, o₁⟩ :: ⟨.openParen, o₂⟩ :: s) rest
  | input {which : Input} {rest : List Token} {o : Nat} (hword : names.of which ∉ constantWords) :
      Derives names (.primary (.input which)) (⟨.ident (names.of which), o⟩ :: rest) rest
  | parens {e : Expr} {s rest : List Token} {o₁ o₂ : Nat}
      (h : Derives names (.expr e) s (⟨.closeParen, o₂⟩ :: rest)) :
      Derives names (.primary e) (⟨.openParen, o₁⟩ :: s) rest
  | noArguments {rest : List Token} : Derives names (.arguments []) rest rest
  | someArguments {es : List Expr} {s rest : List Token} (h : Derives names (.list es) s rest) :
      Derives names (.arguments es) s rest
  | single {e : Expr} {s rest : List Token} (h : Derives names (.expr e) s rest) :
      Derives names (.list [e]) s rest
  | more {e : Expr} {es : List Expr} {s s₁ rest : List Token} {o : Nat}
      (h : Derives names (.expr e) s (⟨.comma, o⟩ :: s₁))
      (hes : Derives names (.list es) s₁ rest) : Derives names (.list (e :: es)) s rest

/-- The tokens are those of a provider with this expression. Nothing is left over, and a header, if
there is one, names the inputs differently. -/
inductive IsProvider : List Token → Expr → Prop
  | plain {e : Expr} {s : List Token} (h : Derives .standard (.expr e) s []) : IsProvider s e
  | header {names : InputNames} {e : Expr} {s : List Token} {o₁ o₂ o₃ o₄ o₅ o₆ : Nat}
      (hne : names.field ≠ names.type) (h : Derives names (.expr e) s []) :
      IsProvider (⟨.openParen, o₁⟩ :: ⟨.ident names.field, o₂⟩ :: ⟨.comma, o₃⟩ ::
        ⟨.ident names.type, o₄⟩ :: ⟨.closeParen, o₅⟩ :: ⟨.arrow, o₆⟩ :: s) e

/-! ### Levels -/

/-- The phrases of a level of operators. -/
def Level.phrase : Level → Expr → Phrase
  | or => .or
  | and => .and
  | equality => .equality
  | additive => .additive

/-- The operands of a level: the phrases of the next tighter one. -/
def Level.operand : Level → Expr → Phrase
  | or => .and
  | and => .equality
  | equality => .additive
  | additive => .unary

section

variable {names : InputNames} {level : Level} {s s₁ rest : List Token}

/-- An operand alone is a phrase of its level. With `Derives.operation` this is all that the four
levels of operators have to say, so what is proved of one holds for each. -/
theorem Derives.operand {e : Expr} (h : Derives names (level.operand e) s rest) :
    Derives names (level.phrase e) s rest := by
  cases level with
  | or => exact .orOperand h
  | and => exact .andOperand h
  | equality => exact .equalityOperand h
  | additive => exact .additiveOperand h

/-- An operator of a level and one more operand make a longer phrase of the level. The phrase so
far is on the left: operators of one level group to the left. -/
theorem Derives.operation {l r : Expr} {kind : TokenKind} {operator : Operator} {o : Nat}
    (hop : level.operator? kind = some operator)
    (hl : Derives names (level.phrase l) s (⟨kind, o⟩ :: s₁))
    (hr : Derives names (level.operand r) s₁ rest) :
    Derives names (level.phrase (.binary operator l r)) s rest := by
  unfold Level.operator? at hop
  split at hop
  · cases hop
    exact .disjunction hl hr
  · cases hop
    exact .conjunction hl hr
  · cases hop
    exact .equal hl hr
  · cases hop
    exact .notEqual hl hr
  · cases hop
    exact .add hl hr
  · simp at hop

end

end Fixtures.Provider
