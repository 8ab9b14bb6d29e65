import Fixtures.Proofs.Provider.Grammar

/-!
# `Fixtures.Proofs.Provider.Sound`: only providers are parsed

Whatever a reader of the parser returns is the expression of a phrase of the grammar, and what it
leaves is what follows the phrase. The readers call each other, so the statements about them are
proved together, along the tokens as the readers go.

Two readers continue a phrase that has been read already: the operators of a level and what follows
a primary. Their statements carry the derivation of that phrase along and extend it
(`Derives.operation`), which is how operators come to group to the left.
-/

set_option autoImplicit false

namespace Fixtures.Provider

/-- The name of a built-in is the one it was found by. -/
theorem Builtin.name_of_ofName? {n : String} {f : Builtin} (h : Builtin.ofName? n = some f) :
    f.name = n := by
  simpa using List.find?_some h

/-- The word for a property is the one it was found by. -/
theorem Property.word_of_ofWord? {w : String} {p : Property} (h : Property.ofWord? w = some p) :
    p.word = w := by
  simpa using List.find?_some h

/-- The word for a method is the one it was found by. -/
theorem Method.word_of_ofWord? {w : String} {m : Method} (h : Method.ofWord? w = some m) :
    m.word = w := by
  simpa using List.find?_some h

/-- An accepted method is the one of its word, and it takes so many arguments. What kind the
receiver has is not asked. -/
theorem checkMethod_eq_ok {name : String} {supplied : Nat} {m : Method}
    (h : checkMethod name supplied = .ok m) : m.word = name ∧ supplied ∈ m.arities := by
  unfold checkMethod at h
  split at h
  · simp at h
  · next method hmethod =>
    split at h
    · next harity =>
      cases h
      exact ⟨Method.word_of_ofWord? hmethod, by simpa using harity⟩
    · simp at h

/-- A token that had to be there was there, and the rest is what stands behind it. -/
theorem expect_eq_ok {kind : TokenKind} {what : Missing} {s : List Token}
    {r : { rest : List Token // rest.length < s.length }} (h : expect kind what s = .ok r) :
    ∃ offset, s = ⟨kind, offset⟩ :: r.1 := by
  unfold expect at h
  split at h
  · simp at h
  · next token rest =>
    split at h
    · next hkind =>
      cases h
      exact ⟨token.offset, by rw [← hkind]⟩
    · simp at h

section

variable {names : InputNames} {size : Nat}

/-- A name that is read alone is a constant or an input; any other is the name of a call. The
arguments of a call are left as they were read, because what they are is shown together with all
other readers. -/
theorem derives_or_call_of_primaryAt {name : String} {o₁ : Nat} {s rest : List Token} {e : Expr}
    (h : Gives (primaryAt names size (⟨.ident name, o₁⟩ :: s)) e rest) :
    Derives names (.primary e) (⟨.ident name, o₁⟩ :: s) rest ∨
      ∃ o₂ s₁ f es, s = ⟨.openParen, o₂⟩ :: s₁ ∧ f.name = name ∧ es.length = f.arity ∧
        Gives (argumentsAt names size s₁) es rest ∧ e = .call f es := by
  rw [primaryAt.eq_def] at h
  simp only at h
  -- The constants come first: none of them can be called, nor be the name of an input.
  by_cases hword : name ∈ constantWords
  · left
    have hor : name = "true" ∨ name = "false" ∨ name = "null" := by
      simpa [constantWords] using hword
    rcases hor with rfl | rfl | rfl
    · obtain ⟨rfl, rfl⟩ := gives_ok_iff.mp h
      exact .trueWord
    · obtain ⟨rfl, rfl⟩ := gives_ok_iff.mp h
      exact .falseWord
    · obtain ⟨rfl, rfl⟩ := gives_ok_iff.mp h
      exact .nullWord
  · have hne : name ≠ "true" ∧ name ≠ "false" ∧ name ≠ "null" := by
      simpa [constantWords] using hword
    rw [if_neg hne.1, if_neg hne.2.1, if_neg hne.2.2] at h
    split at h
    · next o₂ s₁ =>
      right
      split at h
      · simp at h
      · next f hf =>
        split at h
        · simp at h
        · next es hes =>
          split at h
          · next harity =>
            obtain ⟨rfl, rfl⟩ := gives_ok_iff.mp h
            exact ⟨o₂, s₁, f, es.value, rfl, Builtin.name_of_ofName? hf, harity,
              gives_of_eq_ok hes, rfl⟩
          · simp at h
    · left
      split at h
      · next hfield =>
        obtain ⟨rfl, rfl⟩ := gives_ok_iff.mp h
        subst hfield
        exact @Derives.input names .field _ _ hword
      · split at h
        · next htype =>
          obtain ⟨rfl, rfl⟩ := gives_ok_iff.mp h
          subst htype
          exact @Derives.input names .type _ _ hword
        · simp at h

mutual

/-- An expression is read as one. The measures are those of the readers: sixteen for each token
that is left, and less than that for the reader that is at work. -/
theorem derives_of_exprAt {s rest : List Token} {e : Expr}
    (h : Gives (exprAt names size s) e rest) : Derives names (.expr e) s rest := by
  rw [exprAt] at h
  split at h
  · simp at h
  · next c hc =>
    have hor : Derives names (.or c.value) s c.rest := derives_of_levelAt (gives_of_eq_ok hc)
    split at h
    -- With a question mark there are two more expressions, each of which starts further on.
    · next o₁ s₁ hquestion =>
      have hlt : s₁.length < s.length := by
        have hle := c.rest_le
        rw [hquestion, List.length_cons] at hle
        exact hle
      split at h
      · simp at h
      · next y hy =>
        have hle := y.rest_le
        split at h
        · simp at h
        · next s₂ hlt₂ hcolon =>
          simp only at h
          split at h
          · simp at h
          · next n hn =>
            obtain ⟨rfl, rfl⟩ := gives_ok_iff.mp h
            obtain ⟨o₂, hcolon⟩ := expect_eq_ok hcolon
            have hyes := derives_of_exprAt (gives_of_eq_ok hy)
            have hno := derives_of_exprAt (gives_of_eq_ok hn)
            rw [hquestion] at hor
            rw [hcolon] at hyes
            exact .conditional hor hyes hno
    · obtain ⟨rfl, rfl⟩ := gives_ok_iff.mp h
      exact .plain hor
termination_by 16 * s.length + 11
decreasing_by all_goals have : Level.or.rank = 4 := rfl; omega

/-- The operands and operators of a level are read as a phrase of it. -/
theorem derives_of_levelAt {level : Level} {s rest : List Token} {e : Expr}
    (h : Gives (levelAt names size level s) e rest) : Derives names (level.phrase e) s rest := by
  rw [levelAt] at h
  split at h
  · simp at h
  · next first hfirst =>
    have hle := first.rest_le
    have hoperand := derives_of_operandAt (gives_of_eq_ok hfirst)
    simp only at h
    split at h
    · simp at h
    · next r hr =>
      obtain ⟨rfl, rfl⟩ := gives_ok_iff.mp h
      exact derives_of_operationsAt hoperand.operand (gives_of_eq_ok hr)
termination_by 16 * s.length + 2 * level.rank + 2
decreasing_by all_goals have := level.rank_le; omega

/-- Operators and operands that follow a phrase of a level are read as a longer one. The phrase so
far begins before the tokens that are left, so it has tokens of its own. -/
theorem derives_of_operationsAt {level : Level} {left : Expr} {s₀ s rest : List Token} {e : Expr}
    (hleft : Derives names (level.phrase left) s₀ s)
    (h : Gives (operationsAt names size level left s) e rest) :
    Derives names (level.phrase e) s₀ rest := by
  -- The tokens are named twice, so that their number is still known in the recursive call.
  generalize hs : s = t at h hleft
  rw [operationsAt.eq_def] at h
  split at h
  · obtain ⟨rfl, rfl⟩ := gives_ok_iff.mp h
    exact hleft
  · next token s₁ =>
    have hlength : s.length = s₁.length + 1 := by rw [hs, List.length_cons]
    split at h
    · obtain ⟨rfl, rfl⟩ := gives_ok_iff.mp h
      exact hleft
    · next operator hop =>
      split at h
      · simp at h
      · next right hright =>
        have hle := right.rest_le
        have hoperand := derives_of_operandAt (gives_of_eq_ok hright)
        simp only at h
        split at h
        · simp at h
        · next r hr =>
          obtain ⟨rfl, rfl⟩ := gives_ok_iff.mp h
          -- The longer phrase takes the place of the shorter one.
          exact derives_of_operationsAt (.operation hop hleft hoperand) (gives_of_eq_ok hr)
termination_by 16 * s.length
decreasing_by all_goals have := level.rank_le; omega

/-- An operand of a level is read as a phrase of the next tighter one; of the tightest level, as a
phrase with negations in front. -/
theorem derives_of_operandAt {level : Level} {s rest : List Token} {e : Expr}
    (h : Gives (operandAt names size level s) e rest) :
    Derives names (level.operand e) s rest := by
  cases hlevel : level with
  | or =>
    have hrank : Level.and.rank < level.rank := by rw [hlevel]; decide
    rw [hlevel, operandAt] at h
    exact derives_of_levelAt h
  | and =>
    have hrank : Level.equality.rank < level.rank := by rw [hlevel]; decide
    rw [hlevel, operandAt] at h
    exact derives_of_levelAt h
  | equality =>
    have hrank : Level.additive.rank < level.rank := by rw [hlevel]; decide
    rw [hlevel, operandAt] at h
    exact derives_of_levelAt h
  | additive =>
    have hrank : level.rank = 1 := by rw [hlevel]; rfl
    rw [hlevel, operandAt] at h
    exact derives_of_unaryAt h
termination_by 16 * s.length + 2 * level.rank + 1
decreasing_by all_goals omega

/-- Negations are read with what they negate. Without one it is a primary with all that follows it.
-/
theorem derives_of_unaryAt {s rest : List Token} {e : Expr}
    (h : Gives (unaryAt names size s) e rest) : Derives names (.unary e) s rest := by
  generalize hs : s = t at h ⊢
  rw [unaryAt.eq_def] at h
  split at h
  · next o s₁ =>
    have hlength : s.length = s₁.length + 1 := by rw [hs, List.length_cons]
    split at h
    · simp at h
    · next operand hoperand =>
      obtain ⟨rfl, rfl⟩ := gives_ok_iff.mp h
      exact .negation (derives_of_unaryAt (gives_of_eq_ok hoperand))
  · subst hs
    split at h
    · simp at h
    · next target htarget =>
      have hle := target.rest_le
      have hprimary := derives_of_primaryAt (gives_of_eq_ok htarget)
      simp only at h
      split at h
      · simp at h
      · next r hr =>
        obtain ⟨rfl, rfl⟩ := gives_ok_iff.mp h
        exact .unaryOperand
          (derives_of_postfixAt (.postfixedOperand hprimary) (gives_of_eq_ok hr))
termination_by 16 * s.length + 2
decreasing_by all_goals omega

/-- Properties, calls and positions are read together with what they follow, one after the other,
each one making the target of the next. -/
theorem derives_of_postfixAt {target : Expr} {s₀ s rest : List Token} {e : Expr}
    (htarget : Derives names (.postfixed target) s₀ s)
    (h : Gives (postfixAt names size target s) e rest) : Derives names (.postfixed e) s₀ rest := by
  generalize hs : s = u at h htarget
  rw [postfixAt.eq_def] at h
  split at h
  · simp at h
  -- A method: the name is followed by a parenthesis.
  · next o₁ name o₂ o₃ s₁ =>
    have hlength : s.length = s₁.length + 3 := by rw [hs]; rfl
    split at h
    · simp at h
    · next arguments harguments =>
      have hle := arguments.rest_le
      split at h
      · simp at h
      · next method hmethod =>
        obtain ⟨rfl, harity⟩ := checkMethod_eq_ok hmethod
        obtain ⟨o₄, hes⟩ := derives_of_argumentsAt (gives_of_eq_ok harguments)
        simp only at h
        split at h
        · simp at h
        · next r hr =>
          obtain ⟨rfl, rfl⟩ := gives_ok_iff.mp h
          exact derives_of_postfixAt (.method htarget hes harity) (gives_of_eq_ok hr)
  -- A property: it is not.
  · next o₁ name o₂ s₁ hcall =>
    have hlength : s.length = s₁.length + 2 := by rw [hs]; rfl
    split at h
    · simp at h
    · next property hproperty =>
      split at h
      · simp at h
      · next r hr =>
        obtain ⟨rfl, rfl⟩ := gives_ok_iff.mp h
        rw [← Property.word_of_ofWord? hproperty] at htarget
        exact derives_of_postfixAt (.property htarget) (gives_of_eq_ok hr)
  · simp at h
  · next o₁ s₁ =>
    have hlength : s.length = s₁.length + 1 := by rw [hs]; rfl
    split at h
    · simp at h
    · next position hposition =>
      have hle := position.rest_le
      split at h
      · simp at h
      · next s₂ hlt hclose =>
        obtain ⟨o₂, hclose⟩ := expect_eq_ok hclose
        have hp := derives_of_exprAt (gives_of_eq_ok hposition)
        rw [hclose] at hp
        simp only at h
        split at h
        · simp at h
        · next r hr =>
          obtain ⟨rfl, rfl⟩ := gives_ok_iff.mp h
          exact derives_of_postfixAt (.index htarget hp) (gives_of_eq_ok hr)
  · obtain ⟨rfl, rfl⟩ := gives_ok_iff.mp h
    exact htarget
termination_by 16 * s.length + 1
decreasing_by all_goals omega

/-- Literals, names, calls and parentheses are read as such. Nothing else starts a primary, so any
other token is refused. -/
theorem derives_of_primaryAt {s rest : List Token} {e : Expr}
    (h : Gives (primaryAt names size s) e rest) : Derives names (.primary e) s rest := by
  generalize hs : s = t at h ⊢
  rw [primaryAt.eq_def] at h
  split at h
  · simp at h
  · obtain ⟨rfl, rfl⟩ := gives_ok_iff.mp h
    exact .text
  · obtain ⟨rfl, rfl⟩ := gives_ok_iff.mp h
    exact .int
  · next o₁ s₁ =>
    have hlength : s.length = s₁.length + 1 := by rw [hs]; rfl
    split at h
    · simp at h
    · next inner hinner =>
      split at h
      · simp at h
      · next s₂ hlt hclose =>
        obtain ⟨rfl, rfl⟩ := gives_ok_iff.mp h
        obtain ⟨o₂, hclose⟩ := expect_eq_ok hclose
        have hexpr := derives_of_exprAt (gives_of_eq_ok hinner)
        rw [hclose] at hexpr
        exact .parens hexpr
  · next name o₁ s₁ =>
    -- The lemma about names speaks of the reader, not of the branch that has been reached.
    have hname : Gives (primaryAt names size (⟨.ident name, o₁⟩ :: s₁)) e rest := by
      rw [primaryAt.eq_def]
      exact h
    -- A call has its arguments behind the parenthesis, and these are fewer tokens.
    rcases derives_or_call_of_primaryAt hname with h | ⟨o₂, s₂, f, es, rfl, rfl, harity, hes, rfl⟩
    · exact h
    · have hlength : s.length = s₂.length + 2 := by rw [hs]; rfl
      obtain ⟨o₃, hes⟩ := derives_of_argumentsAt hes
      exact .call hes harity
  · simp at h
termination_by 16 * s.length
decreasing_by all_goals omega

/-- The arguments of a call are read up to the closing parenthesis. -/
theorem derives_of_argumentsAt {s rest : List Token} {es : List Expr}
    (h : Gives (argumentsAt names size s) es rest) :
    ∃ o, Derives names (.arguments es) s (⟨.closeParen, o⟩ :: rest) := by
  rw [argumentsAt.eq_def] at h
  split at h
  · next o s₁ =>
    obtain ⟨rfl, rfl⟩ := gives_ok_iff.mp h
    exact ⟨o, .noArguments⟩
  · obtain ⟨o, hes⟩ := derives_of_listAt h
    exact ⟨o, .someArguments hes⟩
termination_by 16 * s.length + 13

/-- Expressions with commas between them are read up to the closing parenthesis. After a comma
there is another one, so a list does not end in a comma. -/
theorem derives_of_listAt {s rest : List Token} {es : List Expr}
    (h : Gives (listAt names size s) es rest) :
    ∃ o, Derives names (.list es) s (⟨.closeParen, o⟩ :: rest) := by
  rw [listAt] at h
  split at h
  · simp at h
  · next first hfirst =>
    have hexpr := derives_of_exprAt (gives_of_eq_ok hfirst)
    have hle := first.rest_le
    split at h
    · next o s₁ hclose =>
      obtain ⟨rfl, rfl⟩ := gives_ok_iff.mp h
      rw [hclose] at hexpr
      exact ⟨o, .single hexpr⟩
    · split at h
      · simp at h
      · next s₁ hlt hcomma =>
        simp only at h
        split at h
        · simp at h
        · next more hmore =>
          obtain ⟨rfl, rfl⟩ := gives_ok_iff.mp h
          obtain ⟨o₁, hcomma⟩ := expect_eq_ok hcomma
          obtain ⟨o₂, hes⟩ := derives_of_listAt (gives_of_eq_ok hmore)
          rw [hcomma] at hexpr
          exact ⟨o₂, .more hexpr hes⟩
termination_by 16 * s.length + 12

end

end

end Fixtures.Provider
