/-!
# `Fixtures.Text.Search`: finding and replacing inside a text

Occurrences of one character list in another. Replacement goes from the left and never rescans
what it has written; the empty text occurs before every character and at the end.
-/

set_option autoImplicit false

namespace Fixtures.Text

/-- Whether `part` occurs somewhere in a text. -/
def occursIn (part : List Char) : List Char → Bool
  | [] => part.isEmpty
  | c :: rest => part.isPrefixOf (c :: rest) || occursIn part rest

/-- Replaces the occurrences of the non-empty text `first :: more`. -/
def replaceFound (first : Char) (more new : List Char) (s : List Char) : List Char :=
  match s with
  | [] => []
  | c :: rest =>
    if (first :: more).isPrefixOf (c :: rest) then
      new ++ replaceFound first more new (rest.drop more.length)
    else
      c :: replaceFound first more new rest
termination_by s.length
decreasing_by
  · simp only [List.length_drop, List.length_cons]; omega
  · simp

/-- Replaces every occurrence of `old` by `new`. -/
def replaceAll (old new s : List Char) : List Char :=
  match old with
  | [] => s.flatMap (fun c => new ++ [c]) ++ new
  | first :: more => replaceFound first more new s

end Fixtures.Text
