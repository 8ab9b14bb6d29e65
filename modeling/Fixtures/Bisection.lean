/-!
# `Fixtures.Bisection`: looking a name up in an ascending list

The constants of a fixture and of a summary stand in ascending order of name, so a name is found
by halving. On a list in another order the outcome is still determined: the half that is kept is
the upper one unless its first item is beyond the name.
-/

set_option autoImplicit false

namespace Fixtures.Bisection

variable {α : Type}

/-- An item of an ascending list by its key. As long as there are two items or more, the middle one
decides in which half the search goes on. -/
def find? (key : α → String) (name : String) (items : List α) : Option α :=
  if h : 1 < items.length then
    if name < key items[items.length / 2] then
      find? key name (items.take (items.length - items.length / 2))
    else
      find? key name (items.drop (items.length / 2))
  else
    items.find? fun item => key item == name
termination_by items.length
decreasing_by all_goals simp only [List.length_take, List.length_drop]; omega

/-- Whether an ascending list of names has a name. -/
def contains (name : String) (names : List String) : Bool :=
  (find? id name names).isSome

end Fixtures.Bisection
