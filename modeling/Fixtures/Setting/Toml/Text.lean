import Fixtures.Text.Hex
import Fixtures.Text.Reading

/-!
# `Fixtures.Setting.Toml.Text`: texts and keys of settings files

A text stands in double quotes with escapes or in single quotes without, on one line, or between
three quotes over several lines. Between three quotes one or two quotes are text, also right
before the closing ones, and a line break right behind the opening ones does not count.

A key is one or more names with dots between them; a name without quotes is made of letters,
digits, dashes and underscores.
-/

set_option autoImplicit false

namespace Fixtures.Setting.Toml

/-! ### Characters -/

/-- Spaces and tabs. -/
def isSpace (c : Char) : Bool := c == ' ' || c == '\t'

/-- The characters that texts and remarks can hold as they are. -/
def isPlain (c : Char) : Bool := c == '\t' || (32 ≤ c.toNat && c.toNat != 127)

/-- A text behind a character that has to come next. -/
def behind? (c : Char) (s : List Char) : Option (Reading s Unit) :=
  match s with
  | [] => none
  | d :: _ => if c = d then some (.next ()) else none

/-- A line break at the front. -/
def breakAt? (s : List Char) : Option (Reading s Unit) :=
  match s with
  | '\n' :: _ => some (.next ())
  | '\r' :: '\n' :: _ => some (Reading.here ()).after.after
  | _ => none

/-- The text behind spaces. -/
def skipSpaces (s : List Char) : List Char := s.dropWhile isSpace

theorem length_skipSpaces_le (s : List Char) : (skipSpaces s).length ≤ s.length :=
  length_dropWhile_le isSpace s

/-- The text behind spaces and line breaks. -/
def skipBreaks (s : List Char) : List Char :=
  match s with
  | [] => []
  | c :: rest =>
    if isSpace c || c == '\n' then skipBreaks rest
    else if c == '\r' && rest.head? == some '\n' then skipBreaks rest.tail
    else c :: rest
termination_by s.length

theorem length_skipBreaks_le (s : List Char) : (skipBreaks s).length ≤ s.length := by
  fun_induction skipBreaks s with
  | case1 => exact Nat.le_refl _
  | case2 c rest _ ih => exact Nat.le_succ_of_le ih
  | case3 c rest _ _ ih =>
    refine Nat.le_trans ih ?_
    simp only [List.length_tail, List.length_cons]
    omega
  | case4 => exact Nat.le_refl _

/-! ### Escapes -/

/-- What a letter after a backslash stands for. -/
def escape? : Char → Option Char
  | 'b' => some '\x08'
  | 't' => some '\t'
  | 'n' => some '\n'
  | 'f' => some '\x0c'
  | 'r' => some '\r'
  | '"' => some '"'
  | '\\' => some '\\'
  | _ => none

/-- The number of digits after the letter of an escape by code point. -/
def codeLength : Char → Nat
  | 'u' => 4
  | 'U' => 8
  | _ => 0

/-- The character after a backslash. -/
def escapeAt? (s : List Char) : Option (Reading s Char) :=
  match s with
  | [] => none
  | c :: rest =>
    match codeLength c with
    | 0 => (escape? c).map .next
    | n =>
      if rest.length < n then none
      else
        (Text.Hex.codePoint? (rest.take n)).map fun char =>
          ⟨char, rest.drop n, by simp only [List.length_drop, List.length_cons]; omega⟩

/-! ### Texts on a line -/

/-- The rest of a text in double quotes, behind the characters `done` in reverse. -/
def basicAt? (done : List Char) (s : List Char) : Option (Reading s String) :=
  match s with
  | [] => none
  | '\\' :: rest =>
    match escapeAt? rest with
    | none => none
    | some r =>
      have le := r.rest_le
      (basicAt? (r.value :: done) r.rest).map fun t => (t.widen le).after
  | c :: rest =>
    if c = '"' then some (.next (String.ofList done.reverse))
    else if isPlain c then (basicAt? (c :: done) rest).map (·.after)
    else none
termination_by s.length
decreasing_by all_goals simp only [List.length_cons]; omega

/-- The rest of a text in single quotes, behind the characters `done` in reverse. -/
def literalAt? (done : List Char) (s : List Char) : Option (Reading s String) :=
  match s with
  | [] => none
  | c :: rest =>
    if c = '\'' then some (.next (String.ofList done.reverse))
    else if isPlain c then (literalAt? (c :: done) rest).map (·.after)
    else none

/-! ### Texts over several lines -/

/-- The number of quotes at the front. -/
def quoteCount (quote : Char) (s : List Char) : Nat := (s.takeWhile (· == quote)).length

/-- The rest of a text between three quotes, behind the characters `done` in reverse. A backslash
at the end of a line takes the white space behind it away. -/
def linesAt? (quote : Char) (done : List Char) (s : List Char) : Option (Reading s String) :=
  match s with
  | [] => none
  | c :: rest =>
    if c = quote then
      let n := quoteCount quote (c :: rest)
      if n < 3 then (linesAt? quote (c :: done) rest).map (·.after)
      else
        let text := done.reverse ++ List.replicate (min (n - 3) 2) quote
        some ⟨String.ofList text, (c :: rest).drop (min n 5), by
          simp only [List.length_drop]; omega⟩
    else if c = '\\' ∧ quote = '"' then
      match breakAt? (skipSpaces rest) with
      | some next =>
        have le : (skipBreaks next.rest).length ≤ rest.length :=
          Nat.le_trans (length_skipBreaks_le _)
            (Nat.le_trans next.rest_le (length_skipSpaces_le _))
        (linesAt? quote done (skipBreaks next.rest)).map fun t => (t.widen le).after
      | none =>
        match escapeAt? rest with
        | none => none
        | some r =>
          have le := r.rest_le
          (linesAt? quote (r.value :: done) r.rest).map fun t => (t.widen le).after
    else
      match breakAt? (c :: rest) with
      | some _ =>
        if c = '\n' then (linesAt? quote ('\n' :: done) rest).map (·.after)
        else (linesAt? quote done rest).map (·.after)
      | none => if isPlain c then (linesAt? quote (c :: done) rest).map (·.after) else none
termination_by s.length
decreasing_by all_goals simp only [List.length_cons]; omega

/-- A text between three quotes, from behind the opening ones. -/
def blockAt? (quote : Char) (s : List Char) : Option (Reading s String) :=
  match breakAt? s with
  | some r => (linesAt? quote [] r.rest).map (·.widen r.rest_le)
  | none => linesAt? quote [] s

/-- A text on a line. -/
def quotedAt? (s : List Char) : Option (Reading s String) :=
  match s with
  | '"' :: rest => (basicAt? [] rest).map (·.after)
  | '\'' :: rest => (literalAt? [] rest).map (·.after)
  | _ => none

/-- A text. -/
def textAt? (s : List Char) : Option (Reading s String) :=
  match s with
  | '"' :: '"' :: '"' :: rest => (blockAt? '"' rest).map (·.after.after.after)
  | '\'' :: '\'' :: '\'' :: rest => (blockAt? '\'' rest).map (·.after.after.after)
  | s => quotedAt? s

/-! ### Keys -/

/-- The characters of a name without quotes. -/
def isBare (c : Char) : Bool := c.isAlphanum || c == '_' || c == '-'

/-- One name of a key. -/
def nameAt? (s : List Char) : Option (Reading s String) :=
  match s.head? with
  | some '"' | some '\'' => quotedAt? s
  | _ =>
    let name := s.takeWhile isBare
    if name.isEmpty then none
    else some ⟨String.ofList name, s.dropWhile isBare, length_dropWhile_le _ _⟩

/-- How many names a key may have. -/
def maxNames : Nat := 79

/-- The names of a key with spaces around them. -/
def namesAt? (s : List Char) : Option (Reading s (List String)) :=
  match nameAt? (skipSpaces s) with
  | none => none
  | some name =>
    have le := Nat.le_trans name.rest_le (length_skipSpaces_le s)
    have le₁ := length_skipSpaces_le name.rest
    match h : skipSpaces name.rest with
    | '.' :: rest =>
      have lt : rest.length < s.length := by rw [h, List.length_cons] at le₁; omega
      (namesAt? rest).map fun r =>
        (r.map (name.value :: ·)).widen (Nat.le_of_lt lt)
    | rest => some ⟨[name.value], rest, by rw [h] at le₁; omega⟩
termination_by s.length

/-- A key: the names before its last one, and that one. -/
def keyAt? (s : List Char) : Option (Reading s (List String × String)) :=
  (namesAt? s).bind fun r =>
    if maxNames < r.value.length then none
    else r.value.getLast?.map fun last => r.map fun names => (names.dropLast, last)

end Fixtures.Setting.Toml
