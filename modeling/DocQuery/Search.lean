import DocQuery.Error

/-!
Searching a list with a test that may fail. The search goes from the front and ends with the first
item that decides it, so the items after that one are never tested.
-/

namespace DocQuery

/-- Whether the test holds of some item. -/
def anyItem {α : Type} (test : α → Except Error Bool) : List α → Except Error Bool
  | [] => .ok false
  | item :: rest => do if ← test item then return true else anyItem test rest

/-- Whether the test holds of every item. -/
def everyItem {α : Type} (test : α → Except Error Bool) : List α → Except Error Bool
  | [] => .ok true
  | item :: rest => do if ← test item then everyItem test rest else return false

/-- A quantifier over a list. An empty list has no items that all satisfy anything. -/
def QuantifierKind.decide {α : Type} (kind : QuantifierKind) (test : α → Except Error Bool)
    (items : List α) : Except Error Bool :=
  match kind, items with
  | .any, _ => anyItem test items
  | .all, [] => .ok false
  | .all, _ => everyItem test items

/-- The items of which the test holds, in order. Here every item is tested. -/
def keepItems {α : Type} (test : α → Except Error Bool) : List α → Except Error (List α)
  | [] => .ok []
  | item :: rest => do
    if ← test item then return item :: (← keepItems test rest) else keepItems test rest

end DocQuery
