import Fixtures.Proofs.Provider.Supplied

/-!
# `Fixtures.Proofs.Provider.Quoted`: literals of texts as sources

`Text.Literal.encode` writes a text as a literal of generated source. Written as the source of a
provider the same literal is one token, which holds the text it was written from, whatever
characters that has. So a literal is a provider that gives its text, and the built-in `quote` of any
expression gives the source of a provider for the text of the expression.
-/

set_option autoImplicit false

namespace Fixtures.Provider

open Text

/-- The bytes of a text are those of its characters. The place of a token is counted in bytes, and
it is zero for one that is the whole source. -/
theorem utf8Length_toList (s : String) : utf8Length s.toList = s.utf8ByteSize := by
  induction s using String.push_induction with
  | empty => rfl
  | push s c ih =>
    rw [String.utf8ByteSize_push, ← ih, String.toList_push]
    simp only [utf8Length, List.foldl_append, List.foldl_cons, List.foldl_nil]

/-- The literal of a text is one token, which holds the text and starts where the source does.
Nothing in the text ends it early, since quotes and backslashes are escaped. -/
theorem tokens_encode (s : String) : tokens (Literal.encode s) = .ok [⟨.text s, 0⟩] := by
  have hlexes := (lexes_nil (Literal.encode s).utf8ByteSize).spelled (spells_encode s) trivial
    fun _ _ => rfl
  rw [List.append_nil, utf8Length_toList, Nat.sub_self] at hlexes
  exact hlexes

/-- The literal of a text compiles to the text. One token is a primary, and a primary is an
expression. -/
theorem compile?_encode (s : String) :
    compile? (Literal.encode s) = .ok ⟨Literal.encode s, .text s⟩ := by
  have hprovider : IsProvider [⟨.text s, 0⟩] (.text s) := .plain Derives.text.expr_of_primary
  exact compile?_eq_ok.mpr ⟨_, _, tokens_encode s, hprovider.parse_eq, rfl⟩

section

variable {scope : Scope} {source after : UuidSource}

/-- A text is its own value. -/
theorem run_evaluate_text (scope : Scope) (s : String) (source : UuidSource) :
    (evaluate scope (.text s)).run source = (.ok (.text s), source) := by
  rw [evaluate]
  rfl

/-- A provider that is a text gives the text, and declines when the text is blank. No field and no
type is looked at. -/
theorem run_provide_text (scope : Scope) (name s : String) (source : UuidSource) :
    (Provider.provide ⟨name, .text s⟩ scope).run source =
      (.ok (if s.toList.all isBlank then none else some s), source) := by
  rw [Provider.provide, run_bind_drawing, run_evaluate_text]
  rfl

/-- Quoting draws nothing, and gives the literal of the text of what it quotes. What the operand
draws it still draws. -/
theorem run_evaluate_quote {x : Expr} {v : Value}
    (h : (evaluate scope x).run source = (.ok v, after)) :
    (evaluate scope (.call .quote [x])).run source =
      (.ok (.text (Literal.encode v.toText)), after) := by
  have hall : (evaluateAll scope [x]).run source = (.ok [v], after) := by
    rw [evaluateAll, run_bind_drawing, h]
    simp only
    rw [evaluateAll]
    rfl
  rw [evaluate, run_bind_drawing, hall]
  rfl

end

/-- The lexer undoes the literals of generated source. The literal of a text is a provider that
gives this text, or declines when the text is nothing but white space. What `quote` gives for an
expression with a value is the source of a provider for the text of the value, in every scope. -/
theorem compile?_quoted :
    (∀ s : String, tokens (Literal.encode s) = .ok [⟨.text s, 0⟩]) ∧
    (∀ s : String, ∃ p, compile? (Literal.encode s) = .ok p ∧ ∀ scope source,
      (evaluate scope p.body).run source = (.ok (.text s), source) ∧
      (p.provide scope).run source =
        (.ok (if s.toList.all isBlank then none else some s), source)) ∧
    ∀ scope x v source after, (evaluate scope x).run source = (.ok v, after) →
      ∃ literal p, (evaluate scope (.call .quote [x])).run source = (.ok (.text literal), after) ∧
        compile? literal = .ok p ∧ ∀ scope' source',
          (evaluate scope' p.body).run source' = (.ok (.text v.toText), source') := by
  refine ⟨tokens_encode, ?_, ?_⟩
  · intro s
    exact ⟨_, compile?_encode s, fun scope source =>
      ⟨run_evaluate_text scope s source, run_provide_text scope _ s source⟩⟩
  · intro scope x v source after h
    exact ⟨Literal.encode v.toText, _, run_evaluate_quote h, compile?_encode _,
      fun scope' source' => run_evaluate_text scope' v.toText source'⟩

/-- The sum of a name and a text with a quote, a backslash and a line feed, quoted and read
again. -/
theorem compile?_quoted_sum :
    (evaluate counter (.binary .add (.property (.input .field) .name) (.text " \"\\\n"))).run
      (.ofSeed 0) = (.ok (.text "count \"\\\n"), .ofSeed 0) ∧
    ∃ literal p, compile? literal = .ok p ∧
      (evaluate counter (.call .quote
        [.binary .add (.property (.input .field) .name) (.text " \"\\\n")])).run (.ofSeed 0) =
        (.ok (.text literal), .ofSeed 0) ∧
      (evaluate counter p.body).run (.ofSeed 0) = (.ok (.text "count \"\\\n"), .ofSeed 0) := by
  have hvalue : (evaluate counter
      (.binary .add (.property (.input .field) .name) (.text " \"\\\n"))).run (.ofSeed 0) =
        (.ok (.text "count \"\\\n"), .ofSeed 0) := rfl
  obtain ⟨-, -, hquote⟩ := compile?_quoted
  obtain ⟨literal, p, hliteral, hp, hbody⟩ := hquote _ _ _ _ _ hvalue
  exact ⟨hvalue, literal, p, hp, hliteral, hbody _ _⟩

end Fixtures.Provider
