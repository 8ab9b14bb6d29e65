import Fixtures.Setting.Toml.Moment
import Fixtures.Setting.Toml.Number
import Fixtures.Setting.Toml.Table
import Fixtures.Setting.Toml.Text

/-!
# `Fixtures.Setting.Toml.Value`: values of settings files

Texts, words, arrays, and tables in braces. An array may go over several lines with remarks
between its items and a comma behind the last one; a table in braces stands on one line. Both may
be nested less deep than `maxDepth`.
-/

set_option autoImplicit false

namespace Fixtures.Setting.Toml

/-- Brackets may be nested less deep than this. -/
def maxDepth : Nat := 80

/-! ### Words -/

/-- The characters of words for truth values, numbers and moments. -/
def isWordChar (c : Char) : Bool := c.isAlphanum || ['+', '-', '.', '_', ':'].contains c

/-- What a word stands for. -/
def ofWord? (word : List Char) : Option Setting :=
  match String.ofList word with
  | "true" => some (.bool true)
  | "false" => some (.bool false)
  | _ =>
    match Moment.ofWord? word with
    | some moment => some (.text (String.ofList moment))
    | none => Number.ofWord? word

/-- A time behind a date and a space. -/
def timeBehind? (date rest : List Char) : Option (Setting × Nat) :=
  match rest with
  | ' ' :: rest =>
    let word := rest.takeWhile isWordChar
    (Moment.timeOf? word).map fun time => (.text (String.ofList (date ++ time)), word.length + 1)
  | _ => none

/-- A value that is a word, or a date and a time with a space between them. -/
def wordAt? (s : List Char) : Option (Reading s Setting) :=
  let word := s.takeWhile isWordChar
  let rest := s.dropWhile isWordChar
  have le : rest.length ≤ s.length := length_dropWhile_le isWordChar s
  match if Moment.isDate word then timeBehind? word rest else none with
  | some (value, n) => some ⟨value, rest.drop n, by simp only [List.length_drop]; omega⟩
  | none => (ofWord? word).map fun value => ⟨value, rest, le⟩

/-! ### Gaps and remarks -/

/-- The text behind the remark that starts here, if one does. -/
def skipRemark (s : List Char) : List Char :=
  if s.head? = some '#' then s.dropWhile isPlain else s

theorem length_skipRemark_le (s : List Char) : (skipRemark s).length ≤ s.length := by
  unfold skipRemark
  split
  · exact length_dropWhile_le _ _
  · exact Nat.le_refl _

/-- The text behind spaces, remarks and line breaks. -/
def skipGaps (s : List Char) : List Char :=
  let next := skipRemark (skipSpaces s)
  match h : next with
  | [] => []
  | c :: rest =>
    have lt : rest.length < s.length := by
      have := Nat.le_trans (length_skipRemark_le (skipSpaces s)) (length_skipSpaces_le s)
      simp only [next] at h
      rw [h, List.length_cons] at this
      omega
    if c = '\n' then skipGaps rest
    else if c = '\r' ∧ rest.head? = some '\n' then
      have : rest.tail.length < s.length := by simp only [List.length_tail]; omega
      skipGaps rest.tail
    else c :: rest
termination_by s.length

theorem length_skipGaps_le (s : List Char) : (skipGaps s).length ≤ s.length := by
  fun_induction skipGaps s with
  | case1 => exact Nat.zero_le _
  | case2 => omega
  | case3 => omega
  | case4 => simp only [List.length_cons]; omega

/-- The text behind the end of a line, which may have a remark. -/
def lineEndAt? (s : List Char) : Option (Reading s Unit) :=
  let next := skipRemark (skipSpaces s)
  have le : next.length ≤ s.length :=
    Nat.le_trans (length_skipRemark_le _) (length_skipSpaces_le s)
  if next.isEmpty then some ⟨(), next, le⟩ else (breakAt? next).map (·.widen le)

/-! ### Values -/

mutual

/-- A value in which brackets may be nested less than `depth` deep. -/
def valueAt? (depth : Nat) (s : List Char) : Option (Reading s Setting) :=
  match s with
  | '[' :: rest =>
    if depth ≤ 1 then none
    else (itemsAt? (depth - 1) [] rest).map fun r => (r.map .list).after
  | '\x7b' :: rest =>
    if depth ≤ 1 then none
    else
      match behind? '\x7d' (skipSpaces rest) with
      | some r => some ((r.map fun _ => .table []).widen (length_skipSpaces_le rest)).after
      | none =>
        (membersAt? (depth - 1) {} rest).map fun r =>
          (r.map fun t => .table (settingsOf t.entries)).after
  | '"' :: rest => (textAt? ('"' :: rest)).map fun r => r.map .text
  | '\'' :: rest => (textAt? ('\'' :: rest)).map fun r => r.map .text
  | s => wordAt? s
termination_by 3 * s.length

/-- The items of an array up to its closing bracket, behind the items `done` in reverse. -/
def itemsAt? (depth : Nat) (done : List Setting) (s : List Char) :
    Option (Reading s (List Setting)) :=
  have le := length_skipGaps_le s
  match behind? ']' (skipGaps s) with
  | some r => some ((r.map fun _ => done.reverse).widen le)
  | none =>
    (valueAt? depth (skipGaps s)).bind fun item =>
      have le₁ := item.rest_le
      have le₂ := length_skipGaps_le item.rest
      match h₁ : skipGaps item.rest with
      | ']' :: rest =>
        some ⟨(item.value :: done).reverse, rest, by rw [h₁, List.length_cons] at le₂; omega⟩
      | ',' :: rest =>
        have lt : rest.length < s.length := by rw [h₁, List.length_cons] at le₂; omega
        (itemsAt? depth (item.value :: done) rest).map fun r => r.widen (Nat.le_of_lt lt)
      | _ => none
termination_by 3 * s.length + 1

/-- The members of a table up to its closing brace, added to those of `done`. -/
def membersAt? (depth : Nat) (done : Table) (s : List Char) : Option (Reading s Table) :=
  match keyAt? s with
  | none => none
  | some key =>
    have le := key.rest_le
    match h : key.rest with
    | '=' :: behind =>
      have le₁ := length_skipSpaces_le behind
      match valueAt? depth (skipSpaces behind) with
      | none => none
      | some value =>
        have le₂ := value.rest_le
        have le₃ := length_skipSpaces_le value.rest
        match done.insert? key.value.1 key.value.2 value.value with
        | none => none
        | some done =>
          match h₁ : skipSpaces value.rest with
          | ',' :: rest =>
            have lt : rest.length < s.length := by
              rw [h, List.length_cons] at le; rw [h₁, List.length_cons] at le₃; omega
            (membersAt? depth done rest).map fun r => r.widen (Nat.le_of_lt lt)
          | '\x7d' :: rest =>
            some ⟨done, rest, by
              rw [h, List.length_cons] at le; rw [h₁, List.length_cons] at le₃; omega⟩
          | _ => none
    | _ => none
termination_by 3 * s.length + 1
decreasing_by all_goals (simp only [h, List.length_cons] at le; omega)

end

end Fixtures.Setting.Toml
