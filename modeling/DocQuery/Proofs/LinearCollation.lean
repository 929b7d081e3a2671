import DocQuery.Proofs.ExtremeValues

/-! Collation is a linear order on values without floats: it tells any two of them apart, the order of keys
included, and puts each type in its place. So there is one way only to sort by it that keeps equal items in
their order. -/

namespace DocQuery

/-- A list of the same items in order, with those that compare as equal in the order they had. -/
structure IsStableSort {α : Type} (compare : α → α → Ordering) (items sorted : List α) : Prop where
  perm : sorted.Perm items
  inOrder : InOrder compare sorted
  stable : ∀ item ∈ items, sorted.filter (alike compare item) = items.filter (alike compare item)

theorem Orders.isStableSort_iff {α : Type} {compare : α → α → Ordering} {items : List α}
    (orders : Orders compare (· ∈ items)) (sorted : List α) :
    IsStableSort compare items sorted ↔ sorted = sortBy compare items := by
  constructor
  · intro stably
    refine orders.eq_of_filter_alike (fun item => stably.perm.mem_iff.mp) (fun item => mem_sortBy.mp)
      stably.inOrder (orders.inOrder_sortBy fun _ => id) fun item among => ?_
    rw [stably.stable item among, orders.filter_alike among fun _ => id]
  · rintro rfl
    exact ⟨sortBy_perm compare items, orders.inOrder_sortBy fun _ => id,
      fun item among => orders.filter_alike among fun _ => id⟩

namespace Value

/-- The place of a value among null, false, true, numbers, strings, lists and maps. -/
def place : Value → Nat
  | .null => 0
  | .bool false => 1
  | .bool true => 2
  | .int _ | .float _ => 3
  | .string _ => 4
  | .list _ => 5
  | .map _ => 6

theorem collate_of_place_lt {a b : Value} (below : a.place < b.place) : collate a b = .lt := by
  obtain _ | (_ | _) | _ | _ | _ | _ | _ := a <;> obtain _ | (_ | _) | _ | _ | _ | _ | _ := b <;>
    first | (simp [place] at below; done) | rfl

theorem collate_eq_iff {a b : Value} (first : a.isFloatFree) (second : b.isFloatFree) :
    collate a b = .eq ↔ a = b := by
  refine ⟨eq_of_collate first second, ?_⟩
  rintro rfl
  exact collate_orders.refl a

/-- Collation is a linear order on values without floats. It goes by the types first, and every list of items
that are compared by such values has one stable sort in either direction. -/
theorem collate_linear :
    (∀ a b c : Value, a.isFloatFree → b.isFloatFree → c.isFloatFree →
      (collate a b).swap = collate b a ∧
      ((collate a b).isLE → (collate b c).isLE → collate a c = (collate a b).then (collate b c)) ∧
      (collate a b = .eq ↔ a = b) ∧ (a.place < b.place → collate a b = .lt)) ∧
    ∀ (α : Type) (part : α → Value) (order : SortOrder) (items sorted : List α),
      (∀ item ∈ items, (part item).isFloatFree) →
      let compare (a b : α) := order.direct (collate (part a) (part b))
      IsStableSort compare items sorted ↔ sorted = sortBy compare items := by
  refine ⟨fun a b c first second third => ⟨collate_swap a b, collate_chain a b c first second third,
    collate_eq_iff first second, collate_of_place_lt⟩, fun α part order items sorted words => ?_⟩
  exact (((collate_orders.comap part).directed order).restrict words).isStableSort_iff sorted

/-- Maps that differ in the order of their keys alone are told apart, and equal ones stay in their order. -/
theorem collate_linear_keys :
    let first : Value := .map [("x", .int 1), ("y", .int 2)]
    let second : Value := .map [("y", .int 2), ("x", .int 1)]
    let rows : List (String × Value) := [("a", second), ("b", first), ("c", .list [.null]), ("d", second)]
    collate first second ≠ .eq ∧ collate (.list [.null]) first = .lt ∧
      ∀ sorted, IsStableSort (fun a b => collate a.2 b.2) rows sorted →
        sorted.map Prod.fst = ["c", "b", "a", "d"] := by
  intro first second rows
  obtain ⟨linear, sorts⟩ := collate_linear
  obtain ⟨_, _, identical, _⟩ := linear first second (.list [.null]) rfl rfl rfl
  obtain ⟨_, _, _, below⟩ := linear (.list [.null]) first second rfl rfl rfl
  have apart : first ≠ second := by simp [first, second]
  refine ⟨fun same => apart (identical.mp same), below (by decide), fun sorted stably => ?_⟩
  have words : ∀ row ∈ rows, (Prod.snd row).isFloatFree := by decide
  rw [(sorts _ Prod.snd .ascending rows sorted words).mp stably]
  decide +kernel

end Value
end DocQuery
