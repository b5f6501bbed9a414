/-!
# Sorting

A list is put in order member by member, from its end.  Members that may stand in either order
keep the one that they have.
-/

namespace Decouple

namespace Sorting

variable {α : Type}

/-- Put a member into a list in order, before the first that may stand after it. -/
def insert (le : α → α → Bool) (a : α) : List α → List α
  | [] => [a]
  | b :: rest => if le a b then a :: b :: rest else b :: insert le a rest

/-- The members of a list in order. -/
def sort (le : α → α → Bool) : List α → List α
  | [] => []
  | a :: rest => insert le a (sort le rest)

end Sorting

end Decouple
