/-!
# Ascending lists without repeats

A set is kept as the ascending list of its elements.  Of elements that compare as equal the one
that came first stays.

* `insertAscending`: one more element;
* `ascending`: the set of a list's elements.
-/

namespace Forwarding

variable {α : Type}

/-- Puts an element at its place, unless an equal one is there. -/
def insertAscending (cmp : α → α → Ordering) (x : α) : List α → List α
  | [] => [x]
  | y :: ys =>
      match cmp x y with
      | .lt => x :: y :: ys
      | .eq => y :: ys
      | .gt => y :: insertAscending cmp x ys

/-- The elements of a list in ascending order, each once. -/
def ascending (cmp : α → α → Ordering) (xs : List α) : List α :=
  xs.foldl (fun set x => insertAscending cmp x set) []

end Forwarding
