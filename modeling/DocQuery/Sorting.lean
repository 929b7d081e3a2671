/-!
Stable sorting. Items of which neither goes before the other keep their places among each other.
The items are taken one by one and each moves up past those that it goes before.
-/

namespace DocQuery

/-- Puts an item in its place in a list sorted from the last down. -/
def insertDescending {α : Type} (before : α → α → Bool) (item : α) : List α → List α
  | [] => [item]
  | last :: rest =>
    if before item last then last :: insertDescending before item rest else item :: last :: rest

/-- Sorts by a relation that says which of two items goes before the other. -/
def sortStably {α : Type} (before : α → α → Bool) (items : List α) : List α :=
  (items.foldl (fun sorted item => insertDescending before item sorted) []).reverse

end DocQuery
