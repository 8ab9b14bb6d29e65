import Fixtures.Provider.Lexer

/-!
# `Fixtures.Provider.Parser`: from tokens to an expression

    provider   = [ "(" name "," name ")" "->" ] expr
    expr       = or [ "?" expr ":" expr ]
    or         = and { "||" and }
    and        = equality { "&&" equality }
    equality   = additive { ("==" | "!=") additive }
    additive   = unary { "+" unary }
    unary      = "!" unary | postfix
    postfix    = primary { "." name [ "(" arguments ")" ] | "[" expr "]" }
    primary    = text | integer | "true" | "false" | "null"
               | name [ "(" arguments ")" ] | "(" expr ")"

The four levels of operators between two operands differ in their operators only, so they are
one reader with a `Level`. The header names the two inputs; without it they are `field` and
`type`. A name that is called is a built-in, a name after a dot is a property or, when it is
called, a method, and any other name must be an input.
-/

set_option autoImplicit false

namespace Fixtures.Provider

/-- The names that a source gives to the two inputs. -/
structure InputNames where
  field : String
  type : String
deriving DecidableEq

/-- The names of the inputs in a source without a header. -/
def InputNames.standard : InputNames := ⟨"field", "type"⟩

/-- The levels of operators between two operands, from the loosest. -/
inductive Level where
  | or | and | equality | additive
deriving DecidableEq

namespace Level

/-- How many levels bind at least as tightly. -/
def rank : Level → Nat
  | or => 4
  | and => 3
  | equality => 2
  | additive => 1

/-- The operator of a level that a token stands for. -/
def operator? : Level → TokenKind → Option Operator
  | or, .or => some .or
  | and, .and => some .and
  | equality, .equal => some .equal
  | equality, .notEqual => some .notEqual
  | additive, .plus => some .add
  | _, _ => none

theorem rank_le (level : Level) : level.rank ≤ 4 := by cases level <;> decide

end Level

/-- What a reader at the front of a token list returns. -/
abbrev Step (s : List Token) (α : Type) := Except CompileFault (Reading s α)

/-- The rest after a token that has to be there. -/
def expect (kind : TokenKind) (what : Missing) (s : List Token) :
    Except CompileFault { rest : List Token // rest.length < s.length } :=
  match s with
  | [] => .error (.missing what none)
  | token :: rest =>
    if token.kind = kind then .ok ⟨rest, Nat.lt_succ_self _⟩
    else .error (.missing what (some token))

/-- Accepts a method with a number of arguments it takes. Whether the value that it is called on
has the method is not known yet. -/
def checkMethod (name : String) (supplied : Nat) : Except CompileFault Method :=
  match Method.ofWord? name with
  | none => .error (.unknownMethod name)
  | some method =>
    if method.arities.contains supplied then .ok method else .error (.methodArity name supplied)

section

-- `names` are the inputs in scope, `size` is the byte length of the source.
variable (names : InputNames) (size : Nat)

mutual

/-- An expression. -/
def exprAt (s : List Token) : Step s Expr :=
  match levelAt .or s with
  | .error fault => .error fault
  | .ok condition =>
    match h : condition.rest with
    | ⟨.question, _⟩ :: s₁ =>
      have lt : s₁.length < s.length := by
        have := condition.rest_le; rw [h, List.length_cons] at this; omega
      match exprAt s₁ with
      | .error fault => .error fault
      | .ok yes =>
        match expect .colon .colon yes.rest with
        | .error fault => .error fault
        | .ok ⟨s₂, lt₂⟩ =>
          have lt₃ : s₂.length < s.length :=
            Nat.lt_trans (Nat.lt_of_lt_of_le lt₂ yes.rest_le) lt
          match exprAt s₂ with
          | .error fault => .error fault
          | .ok no =>
            .ok ((no.map fun no => .conditional condition.value yes.value no).widen
              (Nat.le_of_lt lt₃))
    | _ => .ok condition
termination_by 16 * s.length + 11
decreasing_by all_goals have : Level.or.rank = 4 := rfl; omega

/-- The operands and operators of one level. -/
def levelAt (level : Level) (s : List Token) : Step s Expr :=
  match operandAt level s with
  | .error fault => .error fault
  | .ok first =>
    have := first.rest_le
    match operationsAt level first.value first.rest with
    | .error fault => .error fault
    | .ok r => .ok (r.widen first.rest_le)
termination_by 16 * s.length + 2 * level.rank + 2
decreasing_by all_goals have := level.rank_le; omega

/-- The operators of one level that follow the operand `left`, each with its right operand. What
they make is the left operand of the next, so operators of one level group to the left. -/
def operationsAt (level : Level) (left : Expr) (s : List Token) : Step s Expr :=
  match s with
  | [] => .ok (.here left)
  | token :: rest =>
    match level.operator? token.kind with
    | none => .ok (.here left)
    | some operator =>
      match operandAt level rest with
      | .error fault => .error fault
      | .ok right =>
        have le : right.rest.length ≤ (token :: rest).length :=
          Nat.le_trans right.rest_le (Nat.le_succ _)
        match operationsAt level (.binary operator left right.value) right.rest with
        | .error fault => .error fault
        | .ok r => .ok (r.widen le)
termination_by 16 * s.length
decreasing_by
  all_goals simp only [List.length_cons]
  · have := level.rank_le; omega
  · have := right.rest_le; omega

/-- One operand of a level: what the next tighter level reads. -/
def operandAt (level : Level) (s : List Token) : Step s Expr :=
  match level with
  | .or => levelAt .and s
  | .and => levelAt .equality s
  | .equality => levelAt .additive s
  | .additive => unaryAt s
termination_by 16 * s.length + 2 * level.rank + 1
decreasing_by all_goals simp only [Level.rank]; omega

/-- Negations and what they negate. -/
def unaryAt (s : List Token) : Step s Expr :=
  match s with
  | ⟨.bang, _⟩ :: rest =>
    match unaryAt rest with
    | .error fault => .error fault
    | .ok operand => .ok ((operand.map .not).after)
  | s =>
    match primaryAt s with
    | .error fault => .error fault
    | .ok target =>
      have := target.rest_le
      match postfixAt target.value target.rest with
      | .error fault => .error fault
      | .ok r => .ok (r.widen target.rest_le)
termination_by 16 * s.length + 2

/-- The properties, method calls and positions that follow `target`. Each of them makes the target
of the next. -/
def postfixAt (target : Expr) (s : List Token) : Step s Expr :=
  match s with
  | [⟨.dot, _⟩] => .error .missingProperty
  | ⟨.dot, _⟩ :: ⟨.ident name, _⟩ :: ⟨.openParen, _⟩ :: rest =>
    match argumentsAt rest with
    | .error fault => .error fault
    | .ok arguments =>
      match checkMethod name arguments.value.length with
      | .error fault => .error fault
      | .ok method =>
        have := arguments.rest_le
        match postfixAt (.method target method arguments.value) arguments.rest with
        | .error fault => .error fault
        | .ok r => .ok (r.widen (by simp only [List.length_cons]; omega))
  | ⟨.dot, _⟩ :: ⟨.ident name, _⟩ :: rest =>
    match Property.ofWord? name with
    | none => .error (.unknownProperty name)
    | some property =>
      match postfixAt (.property target property) rest with
      | .error fault => .error fault
      | .ok r => .ok (r.widen (by simp only [List.length_cons]; omega))
  | ⟨.dot, _⟩ :: token :: _ => .error (.unexpected token)
  | ⟨.openBracket, _⟩ :: rest =>
    match exprAt rest with
    | .error fault => .error fault
    | .ok position =>
      match expect .closeBracket .closeBracket position.rest with
      | .error fault => .error fault
      | .ok ⟨s₁, lt⟩ =>
        have le : s₁.length ≤ rest.length :=
          Nat.le_of_lt (Nat.lt_of_lt_of_le lt position.rest_le)
        match postfixAt (.index target position.value) s₁ with
        | .error fault => .error fault
        | .ok r => .ok (r.widen (Nat.le_trans le (Nat.le_succ _)))
  | s => .ok (.here target)
termination_by 16 * s.length + 1
decreasing_by all_goals simp only [List.length_cons]; omega

/-- A literal, an input, a call of a built-in or an expression in parentheses. A name that is
called is never an input, even if an input has it. -/
def primaryAt (s : List Token) : Step s Expr :=
  match s with
  | [] => .error (.endOfInput size)
  | ⟨.text value, _⟩ :: rest => .ok (.next (.text value))
  | ⟨.int value, _⟩ :: rest => .ok (.next (.int value))
  | ⟨.openParen, _⟩ :: rest =>
    match exprAt rest with
    | .error fault => .error fault
    | .ok inner =>
      match expect .closeParen .closeParen inner.rest with
      | .error fault => .error fault
      | .ok ⟨s₁, lt⟩ =>
        .ok ⟨inner.value, s₁,
          Nat.le_trans (Nat.le_of_lt (Nat.lt_of_lt_of_le lt inner.rest_le)) (Nat.le_succ _)⟩
  | ⟨.ident name, offset⟩ :: rest =>
    if name = "true" then .ok (.next (.bool true))
    else if name = "false" then .ok (.next (.bool false))
    else if name = "null" then .ok (.next .null)
    else
      match rest with
      | ⟨.openParen, _⟩ :: rest =>
        match Builtin.ofName? name with
        | none => .error (.unknownFunction name)
        | some function =>
          match argumentsAt rest with
          | .error fault => .error fault
          | .ok arguments =>
            if arguments.value.length = function.arity then
              .ok ((arguments.map (.call function)).widen
                (Nat.le_trans (Nat.le_succ _) (Nat.le_succ _)))
            else
              .error (.functionArity function arguments.value.length)
      | rest =>
        if name = names.field then .ok (.next (.input .field))
        else if name = names.type then .ok (.next (.input .type))
        else .error (.unknownName name offset)
  | token :: _ => .error (.unexpected token)
termination_by 16 * s.length
decreasing_by all_goals simp only [List.length_cons]; omega

/-- The arguments of a call, after its opening parenthesis and up to the closing one. -/
def argumentsAt (s : List Token) : Step s (List Expr) :=
  match s with
  | ⟨.closeParen, _⟩ :: rest => .ok (.next [])
  | s => listAt s
termination_by 16 * s.length + 13

/-- One or more expressions separated by commas, up to the closing parenthesis. -/
def listAt (s : List Token) : Step s (List Expr) :=
  match exprAt s with
  | .error fault => .error fault
  | .ok first =>
    match h : first.rest with
    | ⟨.closeParen, _⟩ :: rest =>
      .ok ⟨[first.value], rest, by
        have := first.rest_le; rw [h, List.length_cons] at this; omega⟩
    | _ =>
      match expect .comma .commaOrCloseParen first.rest with
      | .error fault => .error fault
      | .ok ⟨s₁, lt⟩ =>
        have lt₁ : s₁.length < s.length := Nat.lt_of_lt_of_le lt first.rest_le
        match listAt s₁ with
        | .error fault => .error fault
        | .ok more => .ok ((more.map (first.value :: ·)).widen (Nat.le_of_lt lt₁))
termination_by 16 * s.length + 12

end

end

/-- The input names that a header gives, and the tokens after it. What only begins like a header is
taken for an expression. -/
def headerAt (s : List Token) : Except CompileFault (InputNames × List Token) :=
  match s with
  | ⟨.openParen, _⟩ :: ⟨.ident field, _⟩ :: ⟨.comma, _⟩ :: ⟨.ident type, _⟩
      :: ⟨.closeParen, _⟩ :: ⟨.arrow, _⟩ :: rest =>
    if field = type then .error (.sameInputs field) else .ok (⟨field, type⟩, rest)
  | s => .ok (.standard, s)

/-- The expression of a provider, from the tokens of a source of `size` bytes. All tokens have to
be used up. -/
def parse (size : Nat) (s : List Token) : Except CompileFault Expr := do
  let (names, body) ← headerAt s
  let r ← exprAt names size body
  match r.rest with
  | [] => return r.value
  | token :: _ => throw (.unexpected token)

end Fixtures.Provider
