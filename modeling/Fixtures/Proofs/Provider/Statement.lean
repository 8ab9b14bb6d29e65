import Fixtures.Proofs.Failing
import Fixtures.Proofs.Provider.Text
import Fixtures.Provider.EvalFault

/-!
# `Fixtures.Proofs.Provider.Statement`: which sources are refused as statements

A source is read from the left over blanks and allowed tokens, each as long as it can be
(`Reaches`). It is refused as a statement exactly when the reading reaches a brace, a semicolon or a
word that only statements have (`MeetsStatement`). What is read over does not count: behind a token
the answer is that of the rest alone, whatever stands inside the token.

All tokens are read before the parser sees the first one, and the parser never speaks of statements:
whatever it refuses is malformed (`failsWith_parse`). So an expression that makes no sense does not
hide a statement behind it.
-/

set_option autoImplicit false

namespace Fixtures.Provider

open Text

/-! ### Reading up to a statement -/

/-- From `s` the reading comes to `rest` over blanks and allowed tokens. Where it comes to may be
in the middle of the source, but never in the middle of a token. -/
inductive Reaches : List Char → List Char → Prop
  | here (s : List Char) : Reaches s s
  | blank {c : Char} {s rest : List Char} (hc : isBlank c = true) (h : Reaches s rest) :
      Reaches (c :: s) rest
  | token {s w s₁ rest : List Char} {kind : TokenKind} (hfirst : IsFirst s w kind s₁)
      (hallowed : kind.IsAllowed) (h : Reaches s₁ rest) : Reaches s rest

/-- A statement is at the front of `s`: a character of blocks, or a whole word of statements. A
longer word that begins like one is another word. -/
inductive StartsStatement : List Char → Prop
  | block {c : Char} {s : List Char} (hc : c ∈ blockMarks) : StartsStatement (c :: s)
  | word {s w rest : List Char} {name : String} (hfirst : IsFirst s w (.ident name) rest)
      (hname : name ∈ statementWords) : StartsStatement s

/-- The reading of `s` comes to a statement. What the reading does not come to, because something
before it is no token, does not count. -/
def MeetsStatement (s : List Char) : Prop := ∃ rest, Reaches s rest ∧ StartsStatement rest

section

variable {total offset : Nat} {c : Char} {s w rest : List Char} {kind : TokenKind}

/-- The reader stops at what starts a statement, with a fault that says so. Of the faults of a
reader only these two kinds speak of statements. -/
theorem startsStatement_iff (offset : Nat) :
    StartsStatement (c :: s) ↔ ∃ fault, tokenAt offset c s = .error fault ∧
      fault.isStatement = true := by
  constructor
  · intro h
    generalize ht : c :: s = t at h
    cases h with
    | block hc =>
      obtain ⟨rfl, rfl⟩ := List.cons.inj ht
      exact ⟨_, tokenAt_of_mem_blockMarks hc, rfl⟩
    | @word t w rest name hfirst hname =>
      obtain ⟨hspells, rfl, hends⟩ := isFirst_iff.mp hfirst
      obtain ⟨rfl, hident⟩ := hspells.of_ident
      obtain ⟨d, cs, hcs, hd, hpart⟩ := exists_cons_of_isIdent hident
      rw [hcs, List.cons_append, List.cons.injEq] at ht
      obtain ⟨rfl, rfl⟩ := ht
      refine ⟨.keyword name offset, ?_, rfl⟩
      rw [tokenAt_of_isIdentStart hd, takeWhile_append_of_ends hpart hends, ← hcs,
        String.ofList_toList, if_pos (List.contains_iff_mem.mpr hname)]
  · rintro ⟨fault, hfault, hstatement⟩
    by_cases hblock : c ∈ blockMarks
    · exact .block hblock
    by_cases hquote : c ∈ quoteMarks
    · rw [tokenAt_of_mem_quoteMarks hquote] at hfault
      split at hfault
      · cases hfault
        cases hstatement
      · cases hfault
    by_cases hdigit : c.isDigit = true
    · rw [tokenAt_of_isDigit hdigit] at hfault
      split at hfault
      · cases hfault
      · cases hfault
        cases hstatement
    by_cases hstart : isIdentStart c = true
    · rw [tokenAt_of_isIdentStart hstart] at hfault
      split at hfault
      · next hword =>
        exact .word (isFirst_of_isIdentStart s hstart) (List.contains_iff_mem.mp hword)
      · cases hfault
    · have hmark : c ∉ marks := by simp [marks, hblock, hquote]
      rw [tokenAt_of_symbolAt? hmark (by simpa using hdigit) (by simpa using hstart)] at hfault
      split at hfault
      · cases hfault
      · cases hfault
        cases hstatement

/-- What starts a statement is not blank. -/
theorem StartsStatement.isBlank_eq_false (h : StartsStatement (c :: s)) : isBlank c = false := by
  generalize ht : c :: s = t at h
  cases h with
  | block hc =>
    obtain ⟨rfl, rfl⟩ := List.cons.inj ht
    have hor : c = '{' ∨ c = '}' ∨ c = ';' := by simpa [blockMarks] using hc
    rcases hor with rfl | rfl | rfl <;> decide
  | word hfirst hname =>
    subst ht
    exact hfirst.isBlank_eq_false

/-- An empty rest has no statement, because nothing is read in it. -/
theorem not_meetsStatement_nil : ¬ MeetsStatement [] := by
  rintro ⟨rest, hreaches, hstarts⟩
  have hnone : ∀ {w kind s}, ¬ IsFirst [] w kind s := by
    intro w kind s hfirst
    obtain ⟨c, v, rfl, -⟩ := hfirst.spells.exists_cons
    cases hfirst.eq_append
  cases hreaches with
  | here =>
    cases hstarts with
    | word hfirst hname => exact hnone hfirst
  | token hfirst hallowed h => exact hnone hfirst

/-- A blank is read over. -/
theorem meetsStatement_blank (hc : isBlank c = true) :
    MeetsStatement (c :: s) ↔ MeetsStatement s := by
  constructor
  · rintro ⟨rest, hreaches, hstarts⟩
    cases hreaches with
    | here =>
      rw [hstarts.isBlank_eq_false] at hc
      cases hc
    | blank _ h => exact ⟨rest, h, hstarts⟩
    | token hfirst hallowed h =>
      rw [hfirst.isBlank_eq_false] at hc
      cases hc
  · rintro ⟨rest, hreaches, hstarts⟩
    exact ⟨rest, .blank hc hreaches, hstarts⟩

/-- Where the reader goes on there is no statement, and what it leaves decides. The token at the
front is the only one that can be read there. -/
theorem meetsStatement_of_gives (hc : isBlank c = false)
    (h : Gives (tokenAt offset c s) kind rest) :
    MeetsStatement (c :: s) ↔ MeetsStatement rest := by
  obtain ⟨r, hr, rfl, rfl⟩ := h
  constructor
  · rintro ⟨rest, hreaches, hstarts⟩
    cases hreaches with
    | here =>
      obtain ⟨fault, hfault, -⟩ := (startsStatement_iff offset).mp hstarts
      rw [hr] at hfault
      cases hfault
    | blank hblank h =>
      rw [hc] at hblank
      cases hblank
    | token hfirst hallowed h =>
      -- The reader gives one token only, so the reading went over the same one.
      obtain ⟨r', hr', -, rfl⟩ := (gives_tokenAt_iff offset).mpr ⟨⟨_, hfirst⟩, hallowed⟩
      rw [hr] at hr'
      cases hr'
      exact ⟨rest, h, hstarts⟩
  · rintro ⟨rest, hreaches, hstarts⟩
    obtain ⟨⟨w, hfirst⟩, hallowed⟩ := isFirst_of_gives_tokenAt (gives_of_eq_ok hr)
    exact ⟨rest, .token hfirst hallowed hreaches, hstarts⟩

/-- Where the reader stops the answer depends on what it stops at. Nothing is read behind it. -/
theorem meetsStatement_of_tokenAt_eq_error {fault : CompileFault} (hc : isBlank c = false)
    (h : tokenAt offset c s = .error fault) :
    MeetsStatement (c :: s) ↔ fault.isStatement = true := by
  constructor
  · rintro ⟨rest, hreaches, hstarts⟩
    cases hreaches with
    | here =>
      obtain ⟨fault', hfault, hstatement⟩ := (startsStatement_iff offset).mp hstarts
      rw [h] at hfault
      cases hfault
      exact hstatement
    | blank hblank _ =>
      rw [hc] at hblank
      cases hblank
    | token hfirst hallowed _ =>
      obtain ⟨r, hr, -⟩ := (gives_tokenAt_iff offset).mpr ⟨⟨_, hfirst⟩, hallowed⟩
      rw [h] at hr
      cases hr
  · intro hstatement
    exact ⟨c :: s, .here _, (startsStatement_iff offset).mpr ⟨fault, h, hstatement⟩⟩

/-- A token at the front is read over, whatever stands in it. A brace between quotes is part of the
token. -/
theorem meetsStatement_token (hfirst : IsFirst s w kind rest) (hallowed : kind.IsAllowed) :
    MeetsStatement s ↔ MeetsStatement rest := by
  obtain ⟨c, v, rfl, -⟩ := hfirst.spells.exists_cons
  obtain rfl := hfirst.eq_append
  exact meetsStatement_of_gives hfirst.isBlank_eq_false
    ((gives_tokenAt_iff 0).mpr ⟨⟨_, hfirst⟩, hallowed⟩)

/-- What is read over does not count, so the answer of a source is that of every rest that its
reading comes to. -/
theorem Reaches.meetsStatement_iff (h : Reaches s rest) :
    MeetsStatement s ↔ MeetsStatement rest := by
  induction h with
  | here s => exact Iff.rfl
  | blank hc h ih => rw [meetsStatement_blank hc, ih]
  | token hfirst hallowed h ih => rw [meetsStatement_token hfirst hallowed, ih]

end

/-- The reading of the tokens fails on a statement exactly when it meets one. The induction goes
from token to token, as the reading does. -/
theorem tokensFrom_isStatement_iff (total : Nat) : ∀ {s : List Char},
    (∃ fault, tokensFrom total s = .error fault ∧ fault.isStatement = true) ↔ MeetsStatement s
  | [] => by
    rw [tokensFrom.eq_def]
    simp [not_meetsStatement_nil]
  | c :: s => by
    rw [tokensFrom.eq_def]
    cases hc : isBlank c with
    | true =>
      simp only [hc, if_true]
      rw [meetsStatement_blank hc]
      exact tokensFrom_isStatement_iff _
    | false =>
      simp only [hc, Bool.false_eq_true, if_false]
      split
      · next fault hfault =>
        rw [meetsStatement_of_tokenAt_eq_error hc hfault]
        simp
      · next r hr =>
        have hle := r.rest_le
        rw [meetsStatement_of_gives hc (gives_of_eq_ok hr),
          ← tokensFrom_isStatement_iff total]
        -- A fault further on is that of the rest.
        split
        · next fault hfault => rw [hfault]
        · next ts hts => simp [hts]
termination_by s => s.length
decreasing_by all_goals simp only [List.length_cons]; omega

/-! ### The parser does not speak of statements -/

/-- The fault speaks of a malformed expression. All faults of the parser do, and some of the
reader. -/
def CompileFault.IsMalformed (fault : CompileFault) : Prop := fault.isStatement = false

/-- A token that has to be there and is not makes an expression malformed. Which token stands there
instead is in the fault, but it is no statement by then. -/
theorem failsWith_expect (kind : TokenKind) (what : Missing) (s : List Token) :
    FailsWith CompileFault.IsMalformed (expect kind what s) := by
  unfold expect
  split
  · exact .error rfl
  · split
    · exact .ok _
    · exact .error rfl

/-- So does a method that is not there, or that takes other arguments. -/
theorem failsWith_checkMethod (name : String) (supplied : Nat) :
    FailsWith CompileFault.IsMalformed (checkMethod name supplied) := by
  unfold checkMethod
  split
  · exact .error rfl
  · split
    · exact .ok _
    · exact .error rfl

section

variable {names : InputNames} {size : Nat}

mutual

/-- An expression fails with one of its parts. The readers call each other, so all of them are
shown together, with the measures that they end by. -/
theorem failsWith_exprAt (s : List Token) :
    FailsWith CompileFault.IsMalformed (exprAt names size s) := by
  rw [exprAt]
  split
  · next fault hfault => exact .error (failsWith_levelAt .or s fault hfault)
  · next c hc =>
    split
    · next o s₁ hquestion =>
      have hlt : s₁.length < s.length := by
        have hle := c.rest_le
        rw [hquestion, List.length_cons] at hle
        exact hle
      split
      · next fault hfault => exact .error (failsWith_exprAt s₁ fault hfault)
      · next y hy =>
        have hle := y.rest_le
        split
        · next fault hfault => exact .error (failsWith_expect _ _ _ fault hfault)
        · next s₂ hlt₂ hcolon =>
          simp only
          split
          · next fault hfault => exact .error (failsWith_exprAt s₂ fault hfault)
          · exact .ok _
    · exact .ok _
termination_by 16 * s.length + 11
decreasing_by all_goals have : Level.or.rank = 4 := rfl; omega

/-- A level fails with one of its operands. -/
theorem failsWith_levelAt (level : Level) (s : List Token) :
    FailsWith CompileFault.IsMalformed (levelAt names size level s) := by
  rw [levelAt]
  split
  · next fault hfault => exact .error (failsWith_operandAt level s fault hfault)
  · next first hfirst =>
    have hle := first.rest_le
    simp only
    split
    · next fault hfault =>
      exact .error (failsWith_operationsAt level first.value first.rest fault hfault)
    · exact .ok _
termination_by 16 * s.length + 2 * level.rank + 2
decreasing_by all_goals have := level.rank_le; omega

/-- Operators fail with one of their operands. -/
theorem failsWith_operationsAt (level : Level) (left : Expr) (s : List Token) :
    FailsWith CompileFault.IsMalformed (operationsAt names size level left s) := by
  generalize hs : s = t
  rw [operationsAt.eq_def]
  split
  · exact .ok _
  · next token s₁ =>
    have hlength : s.length = s₁.length + 1 := by rw [hs, List.length_cons]
    split
    · exact .ok _
    · next operator hop =>
      split
      · next fault hfault => exact .error (failsWith_operandAt level s₁ fault hfault)
      · next right hright =>
        have hle := right.rest_le
        simp only
        split
        · next fault hfault =>
          exact .error (failsWith_operationsAt level _ right.rest fault hfault)
        · exact .ok _
termination_by 16 * s.length
decreasing_by all_goals have := level.rank_le; omega

/-- An operand fails as the next tighter level does. -/
theorem failsWith_operandAt (level : Level) (s : List Token) :
    FailsWith CompileFault.IsMalformed (operandAt names size level s) := by
  cases level with
  | or =>
    rw [operandAt]
    exact failsWith_levelAt .and s
  | and =>
    rw [operandAt]
    exact failsWith_levelAt .equality s
  | equality =>
    rw [operandAt]
    exact failsWith_levelAt .additive s
  | additive =>
    rw [operandAt]
    exact failsWith_unaryAt s
termination_by 16 * s.length + 2 * level.rank + 1
decreasing_by all_goals simp only [Level.rank]; omega

/-- A negation fails with what it negates. -/
theorem failsWith_unaryAt (s : List Token) :
    FailsWith CompileFault.IsMalformed (unaryAt names size s) := by
  generalize hs : s = t
  rw [unaryAt.eq_def]
  split
  · next o s₁ =>
    have hlength : s.length = s₁.length + 1 := by rw [hs, List.length_cons]
    split
    · next fault hfault => exact .error (failsWith_unaryAt s₁ fault hfault)
    · exact .ok _
  · subst hs
    split
    · next fault hfault => exact .error (failsWith_primaryAt s fault hfault)
    · next target htarget =>
      have hle := target.rest_le
      simp only
      split
      · next fault hfault =>
        exact .error (failsWith_postfixAt target.value target.rest fault hfault)
      · exact .ok _
termination_by 16 * s.length + 2
decreasing_by all_goals omega

/-- Behind a target a property, a method or a position is missing or unknown. -/
theorem failsWith_postfixAt (target : Expr) (s : List Token) :
    FailsWith CompileFault.IsMalformed (postfixAt names size target s) := by
  generalize hs : s = t
  rw [postfixAt.eq_def]
  split
  · exact .error rfl
  · next o₁ name o₂ o₃ s₁ =>
    have hlength : s.length = s₁.length + 3 := by rw [hs]; rfl
    split
    · next fault hfault => exact .error (failsWith_argumentsAt s₁ fault hfault)
    · next arguments harguments =>
      have hle := arguments.rest_le
      split
      · next fault hfault => exact .error (failsWith_checkMethod _ _ fault hfault)
      · next method hmethod =>
        simp only
        split
        · next fault hfault => exact .error (failsWith_postfixAt _ arguments.rest fault hfault)
        · exact .ok _
  · next o₁ name o₂ s₁ hcall =>
    have hlength : s.length = s₁.length + 2 := by rw [hs]; rfl
    split
    · exact .error rfl
    · split
      · next fault hfault => exact .error (failsWith_postfixAt _ s₁ fault hfault)
      · exact .ok _
  · exact .error rfl
  · next o₁ s₁ =>
    have hlength : s.length = s₁.length + 1 := by rw [hs]; rfl
    split
    · next fault hfault => exact .error (failsWith_exprAt s₁ fault hfault)
    · next position hposition =>
      have hle := position.rest_le
      split
      · next fault hfault => exact .error (failsWith_expect _ _ _ fault hfault)
      · next s₂ hlt hclose =>
        simp only
        split
        · next fault hfault => exact .error (failsWith_postfixAt _ s₂ fault hfault)
        · exact .ok _
  · exact .ok _
termination_by 16 * s.length + 1
decreasing_by all_goals omega

/-- A primary is missing, or it fails with what stands in its parentheses. -/
theorem failsWith_primaryAt (s : List Token) :
    FailsWith CompileFault.IsMalformed (primaryAt names size s) := by
  generalize hs : s = t
  rw [primaryAt.eq_def]
  split
  · exact .error rfl
  · exact .ok _
  · exact .ok _
  · next o₁ s₁ =>
    have hlength : s.length = s₁.length + 1 := by rw [hs]; rfl
    split
    · next fault hfault => exact .error (failsWith_exprAt s₁ fault hfault)
    · next inner hinner =>
      split
      · next fault hfault => exact .error (failsWith_expect _ _ _ fault hfault)
      · exact .ok _
  · next name o₁ s₁ =>
    split
    · exact .ok _
    split
    · exact .ok _
    split
    · exact .ok _
    split
    · next o₂ s₂ =>
      have hlength : s.length = s₂.length + 2 := by rw [hs]; rfl
      split
      · exact .error rfl
      · split
        · next fault hfault => exact .error (failsWith_argumentsAt s₂ fault hfault)
        · split
          · exact .ok _
          · exact .error rfl
    · split
      · exact .ok _
      · split
        · exact .ok _
        · exact .error rfl
  · exact .error rfl
termination_by 16 * s.length
decreasing_by all_goals omega

/-- Arguments fail with one of them. -/
theorem failsWith_argumentsAt (s : List Token) :
    FailsWith CompileFault.IsMalformed (argumentsAt names size s) := by
  rw [argumentsAt.eq_def]
  split
  · exact .ok _
  · exact failsWith_listAt s
termination_by 16 * s.length + 13

/-- A list fails with one of its expressions, or it has no end. -/
theorem failsWith_listAt (s : List Token) :
    FailsWith CompileFault.IsMalformed (listAt names size s) := by
  rw [listAt]
  split
  · next fault hfault => exact .error (failsWith_exprAt s fault hfault)
  · next first hfirst =>
    have hle := first.rest_le
    split
    · exact .ok _
    · split
      · next fault hfault => exact .error (failsWith_expect _ _ _ fault hfault)
      · next s₁ hlt hcomma =>
        simp only
        split
        · next fault hfault => exact .error (failsWith_listAt s₁ fault hfault)
        · exact .ok _
termination_by 16 * s.length + 12

end

/-- Whatever the parser refuses is a malformed expression. All tokens are allowed ones, so a
statement has been found before. -/
theorem failsWith_parse (s : List Token) :
    FailsWith CompileFault.IsMalformed (parse size s) := by
  have hheader : FailsWith CompileFault.IsMalformed (headerAt s) := by
    unfold headerAt
    split
    · split
      · exact .error rfl
      · exact .ok _
    · exact .ok _
  unfold parse
  refine hheader.bind fun body => (failsWith_exprAt body.2).bind fun r => ?_
  split
  · exact .ok _
  · exact .error rfl

end

/-! ### Compilation -/

/-- A source is refused as a statement exactly when the reading of its tokens is. All of it is read
before the parser is asked. -/
theorem compile?_isStatement_iff_tokens {source : String} :
    (∃ fault, compile? source = .error fault ∧ fault.isStatement = true) ↔
      ∃ fault, tokens source = .error fault ∧ fault.isStatement = true := by
  have hcompile : compile? source = tokens source >>= fun ts =>
      parse source.utf8ByteSize ts >>= fun body => .ok ⟨source, body⟩ := rfl
  rw [hcompile]
  cases tokens source with
  | error fault =>
    constructor
    · rintro ⟨fault, hfault, hstatement⟩
      cases hfault
      exact ⟨fault, rfl, hstatement⟩
    · rintro ⟨fault, hfault, hstatement⟩
      cases hfault
      exact ⟨fault, rfl, hstatement⟩
  | ok ts =>
    constructor
    · rintro ⟨fault, hfault, hstatement⟩
      have hmalformed : fault.isStatement = false :=
        (failsWith_parse ts).bind (fun body => .ok _) fault hfault
      rw [hmalformed] at hstatement
      cases hstatement
    · rintro ⟨fault, hfault, -⟩
      cases hfault

/-- The messages of the two kinds of faults start differently. So no refusal looks like one of an
evaluation. -/
theorem CompileFault.message_ne (fault : CompileFault) (evalFault : EvalFault) :
    fault.message ≠ evalFault.message := by
  intro h
  have hfirst : fault.message.toList.head? = evalFault.message.toList.head? := by rw [h]
  unfold CompileFault.message EvalFault.message at hfirst
  split at hfirst
  · simp at hfirst
  · simp at hfirst

/-- A source is refused as a statement exactly when the reading of it comes to a brace, a semicolon
or a whole word of statements. Behind any token that has been read the rest decides alone, so no
text between quotes and no longer word that contains one of these counts. No refusal is one of an
evaluation. -/
theorem compile?_isStatement_iff (source : String) :
    ((∃ fault, compile? source = .error fault ∧ fault.isStatement = true) ↔
      MeetsStatement source.toList) ∧
    (∀ s w kind rest, Reaches source.toList s → IsFirst s w kind rest → kind.IsAllowed →
      ((∃ fault, compile? source = .error fault ∧ fault.isStatement = true) ↔
        MeetsStatement rest)) ∧
    ∀ fault, compile? source = .error fault → ∀ evalFault : EvalFault,
      fault.message ≠ evalFault.message := by
  have hsource : (∃ fault, compile? source = .error fault ∧ fault.isStatement = true) ↔
      MeetsStatement source.toList := by
    rw [compile?_isStatement_iff_tokens]
    exact tokensFrom_isStatement_iff _
  refine ⟨hsource, ?_, fun fault _ => fault.message_ne⟩
  intro s w kind rest hreaches hfirst hallowed
  rw [hsource, hreaches.meetsStatement_iff]
  exact meetsStatement_token hfirst hallowed

/-- The brace between quotes and the longer word are read over, and the last brace is a statement,
although no expression starts with a parenthesis that closes. -/
theorem compile?_isStatement_quotedBrace :
    Reaches ") '\x7b' returned \x7d".toList "'\x7b' returned \x7d".toList ∧
    IsFirst "'\x7b' returned \x7d".toList "'\x7b'".toList (.text "\x7b") " returned \x7d".toList ∧
    MeetsStatement " returned \x7d".toList ∧
    compile? ") '\x7b' returned \x7d" = .error (.block '}' 15) ∧
    ∀ evalFault : EvalFault, (CompileFault.block '}' 15).message ≠ evalFault.message := by
  have htokens : tokens ") '\x7b' returned \x7d" = .error (.block '}' 15) := by decide +kernel
  have hfault : compile? ") '\x7b' returned \x7d" = .error (.block '}' 15) := by
    rw [compile?, htokens]
    rfl
  have hclose : IsFirst ") '\x7b' returned \x7d".toList [')'] .closeParen
      " '\x7b' returned \x7d".toList :=
    isFirst_iff.mpr ⟨.shortSymbol rfl, rfl, fun _ _ => rfl⟩
  have hreaches : Reaches ") '\x7b' returned \x7d".toList "'\x7b' returned \x7d".toList :=
    .token hclose trivial (.blank rfl (.here _))
  have hliteral :
      IsFirst "'\x7b' returned \x7d".toList "'\x7b'".toList (.text "\x7b")
        " returned \x7d".toList :=
    isFirst_iff.mpr ⟨.literal (by decide) (.plain (by decide) (by decide) .nil), rfl,
      fun _ _ => rfl⟩
  obtain ⟨-, hinside, hmessage⟩ := compile?_isStatement_iff ") '\x7b' returned \x7d"
  have hrest := (hinside _ _ _ _ hreaches hliteral trivial).mp ⟨_, hfault, rfl⟩
  exact ⟨hreaches, hliteral, hrest, hfault, hmessage _ hfault⟩

end Fixtures.Provider
