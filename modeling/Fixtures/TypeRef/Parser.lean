import Fixtures.Text.Blank
import Fixtures.Text.Ident
import Fixtures.Text.Reading
import Fixtures.TypeRef.Basic

/-!
# `Fixtures.TypeRef.Parser`: reading a declared type

    type      = core { "[" "]" }
    core      = primitive | name [ "<" type { "," type } ">" ]
              | "?" | "?" "extends" type | "?" "super" type
    name      = identifier { "." identifier }

Blanks may stand around every token but not inside a name. A wildcard has no form of its own:
`? extends X` is read as `X`, the other two as the root object type. Array brackets after a
bounded wildcard belong to its bound.
-/

set_option autoImplicit false

namespace Fixtures.TypeRef

open Fixtures.Text

/-- The qualified name of the root object type. -/
def objectName : String := "java.lang.Object"

/-- Why a text is no type. -/
inductive ParseFault where
  /-- A character after a complete type. -/
  | trailing (c : Char)
  /-- A missing bracket. -/
  | expected (c : Char)
  /-- A character that starts no type. -/
  | unexpected (c : Char)
  /-- The text ends where a type should start. -/
  | endOfInput
  /-- A dot without an identifier after it. -/
  | danglingDot
deriving DecidableEq

/-- A text that is no type, and why. -/
structure ParseError where
  input : String
  fault : ParseFault
deriving DecidableEq

/-- The fault in words. -/
def ParseFault.detail : ParseFault → String
  | trailing c => "unexpected '" ++ c.toString ++ "' after type"
  | expected c => "expected '" ++ c.toString ++ "'"
  | unexpected c => "unexpected '" ++ c.toString ++ "'"
  | endOfInput => "unexpected end of input"
  | danglingDot => "expected identifier after '.'"

/-- The message of the error. -/
def ParseError.message (e : ParseError) : String :=
  "Invalid type reference '" ++ e.input ++ "': " ++ e.fault.detail

/-! ### Tokens -/

/-- What follows the character `c` once blanks are skipped. -/
def eat? (c : Char) (s : List Char) : Option (List Char) :=
  match s.dropWhile isBlank with
  | [] => none
  | d :: rest => if d = c then some rest else none

theorem length_lt_of_eat? {c : Char} {s rest : List Char} (h : eat? c s = some rest) :
    rest.length < s.length := by
  have hle := length_dropWhile_le isBlank s
  unfold eat? at h
  split at h
  · simp at h
  · next heq =>
    rw [heq, List.length_cons] at hle
    split at h
    · simp only [Option.some.injEq] at h
      subst h
      exact hle
    · simp at h

theorem length_lt_of_dropWhile {p : Char → Bool} {s rest : List Char} {c d : Char}
    (h : s.dropWhile p = c :: d :: rest) : (d :: rest).length < s.length :=
  Nat.lt_of_lt_of_le (h ▸ Nat.lt_succ_self _) (length_dropWhile_le p s)

/-- The dotted name at the front of a text that starts with an identifier. -/
def segmentsAt (s : List Char) : Except ParseFault (Reading s (List Char)) :=
  let word := s.takeWhile isIdentPart
  match h : s.dropWhile isIdentPart with
  | '.' :: c :: rest =>
    have lt : (c :: rest).length < s.length := length_lt_of_dropWhile h
    if isIdentStart c then
      match segmentsAt (c :: rest) with
      | .error fault => .error fault
      | .ok more => .ok ((more.map fun name => word ++ '.' :: name).widen (Nat.le_of_lt lt))
    else
      .error .danglingDot
  | ['.'] => .error .danglingDot
  | rest => .ok ⟨word, rest, h ▸ length_dropWhile_le isIdentPart s⟩
termination_by s.length
decreasing_by exact lt

/-- The dotted name at the front of a text, after blanks. -/
def nameAt (s : List Char) : Except ParseFault (Reading s String) :=
  match h : s.dropWhile isBlank with
  | [] => .error .endOfInput
  | c :: rest =>
    if isIdentStart c then
      match segmentsAt (c :: rest) with
      | .error fault => .error fault
      | .ok name => .ok ((name.map String.ofList).widen (h ▸ length_dropWhile_le isBlank s))
    else
      .error (.unexpected c)

/-! ### Types -/

/-- The array brackets after a type. -/
def bracketsAt (type : TypeRef) (s : List Char) : Except ParseFault (Reading s TypeRef) :=
  match h : eat? '[' s with
  | none => .ok (.here type)
  | some s₁ =>
    match h₁ : eat? ']' s₁ with
    | none => .error (.expected ']')
    | some s₂ =>
      have lt : s₂.length < s.length :=
        Nat.lt_trans (length_lt_of_eat? h₁) (length_lt_of_eat? h)
      match bracketsAt (array type) s₂ with
      | .error fault => .error fault
      | .ok r => .ok (r.widen (Nat.le_of_lt lt))
termination_by s.length

mutual

/-- A type at the front of a text. -/
def typeAt (s : List Char) : Except ParseFault (Reading s TypeRef) :=
  match h : eat? '?' s with
  | some s₁ =>
    have lt : s₁.length < s.length := length_lt_of_eat? h
    match boundAt s₁ with
    | .error fault => .error fault
    | .ok bound =>
      match bracketsAt bound.value bound.rest with
      | .error fault => .error fault
      | .ok r => .ok (r.widen (Nat.le_trans bound.rest_le (Nat.le_of_lt lt)))
  | none =>
    match nameAt s with
    | .error fault => .error fault
    | .ok name =>
      match Primitive.ofKeyword? name.value with
      | some kind =>
        match bracketsAt (primitive kind) name.rest with
        | .error fault => .error fault
        | .ok r => .ok (r.widen name.rest_le)
      | none =>
        match h₁ : eat? '<' name.rest with
        | none =>
          match bracketsAt (named name.value) name.rest with
          | .error fault => .error fault
          | .ok r => .ok (r.widen name.rest_le)
        | some s₁ =>
          have lt : s₁.length < s.length :=
            Nat.lt_of_lt_of_le (length_lt_of_eat? h₁) name.rest_le
          match argumentsAt s₁ with
          | .error fault => .error fault
          | .ok arguments =>
            match bracketsAt (declared name.value arguments.value) arguments.rest with
            | .error fault => .error fault
            | .ok r => .ok (r.widen (Nat.le_trans arguments.rest_le (Nat.le_of_lt lt)))
termination_by 2 * s.length

/-- What a wildcard stands for, after its question mark. -/
def boundAt (s : List Char) : Except ParseFault (Reading s TypeRef) :=
  have le₁ : (s.dropWhile isBlank).length ≤ s.length := length_dropWhile_le isBlank s
  have le₂ : ((s.dropWhile isBlank).dropWhile isIdentPart).length ≤ s.length :=
    Nat.le_trans (length_dropWhile_le isIdentPart _) le₁
  let word := String.ofList ((s.dropWhile isBlank).takeWhile isIdentPart)
  if word = "extends" ∨ word = "super" then
    match typeAt ((s.dropWhile isBlank).dropWhile isIdentPart) with
    | .error fault => .error fault
    | .ok r =>
      .ok ((r.map fun type => if word = "extends" then type else named objectName).widen le₂)
  else
    .ok ⟨named objectName, s.dropWhile isBlank, le₁⟩
termination_by 2 * s.length + 1

/-- The arguments of a generic type up to the closing bracket, after the opening one. -/
def argumentsAt (s : List Char) : Except ParseFault (Reading s (List TypeRef)) :=
  match typeAt s with
  | .error fault => .error fault
  | .ok first =>
    match h : eat? ',' first.rest with
    | some s₁ =>
      have lt : s₁.length < s.length :=
        Nat.lt_of_lt_of_le (length_lt_of_eat? h) first.rest_le
      match argumentsAt s₁ with
      | .error fault => .error fault
      | .ok more => .ok ((more.map (first.value :: ·)).widen (Nat.le_of_lt lt))
    | none =>
      match h₁ : eat? '>' first.rest with
      | none => .error (.expected '>')
      | some s₁ =>
        .ok ⟨[first.value], s₁,
          Nat.le_trans (Nat.le_of_lt (length_lt_of_eat? h₁)) first.rest_le⟩
termination_by 2 * s.length + 1

end

/-- Reads a text as a type. -/
def parse (input : String) : Except ParseError TypeRef :=
  match typeAt input.toList with
  | .error fault => .error ⟨input, fault⟩
  | .ok r =>
    match r.rest.dropWhile isBlank with
    | [] => .ok r.value
    | c :: _ => .error ⟨input, .trailing c⟩

end Fixtures.TypeRef
