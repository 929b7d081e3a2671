import DocQuery.Plan.Basic
import DocQuery.DocumentOrder

/-! Comparisons by which a list can be sorted. Being such a comparison survives reading it in the
other direction, refining it by a second one, and comparing items by a part of them. -/

namespace DocQuery

/-- How the comparison of the ends follows from those with an item between them. This one equation
holds at once of what precedes and of what is equal, so that an induction can carry it through
lists without a case for each. -/
def Chained (first second whole : Ordering) : Prop :=
  first.isLE → second.isLE → whole = first.then second

theorem Chained.then {p₁ p₂ p q₁ q₂ q : Ordering} (major : Chained p₁ p₂ p)
    (minor : Chained q₁ q₂ q) : Chained (p₁.then q₁) (p₂.then q₂) (p.then q) := by
  intro first second
  cases p₁ <;> cases p₂ <;> cases q₁ <;> simp_all [Chained]

theorem chained_compare {α : Type} [Ord α] [Std.TransOrd α] (a b c : α) :
    Chained (compare a b) (compare b c) (compare a c) := by
  intro first second
  cases low : compare a b with
  | lt => exact Std.TransCmp.lt_of_lt_of_isLE low second
  | eq => simpa using Std.TransCmp.congr_left low
  | gt => simp [low] at first

/-- A comparison that orders the items with a property. -/
structure Orders {α : Type} (compare : α → α → Ordering) (Proper : α → Prop) : Prop where
  swap : ∀ a b, (compare a b).swap = compare b a
  chain : ∀ a b c, Proper a → Proper b → Proper c →
    Chained (compare a b) (compare b c) (compare a c)

namespace Orders

variable {α β : Type} {compare finer : α → α → Ordering} {Proper : α → Prop}

theorem refl (orders : Orders compare Proper) (a : α) : compare a a = .eq := by
  have self := orders.swap a a
  cases same : compare a a <;> simp_all

theorem trans (orders : Orders compare Proper) {a b c : α} (first : Proper a) (second : Proper b)
    (third : Proper c) (low : (compare a b).isLE) (high : (compare b c).isLE) :
    (compare a c).isLE := by
  rw [orders.chain a b c first second third low high]
  exact Ordering.isLE_then_iff_and.mpr ⟨low, Or.inr high⟩

theorem congr_left (orders : Orders compare Proper) {a b c : α} (first : Proper a)
    (second : Proper b) (third : Proper c) (same : compare a b = .eq) :
    compare a c = compare b c := by
  have back : compare b a = .eq := by rw [← orders.swap, same]; rfl
  cases high : compare b c with
  | lt => simpa [same, high] using orders.chain a b c first second third (by simp [same]) (by simp [high])
  | eq => simpa [same, high] using orders.chain a b c first second third (by simp [same]) (by simp [high])
  | gt =>
    have low : compare c b = .lt := by rw [← orders.swap, high]; rfl
    have below := orders.chain c b a third second first (by simp [low]) (by simp [back])
    rw [← orders.swap, below, low]
    rfl

theorem backwards (orders : Orders compare Proper) :
    Orders (fun a b => (compare a b).swap) Proper where
  swap a b := by rw [orders.swap a b]
  chain a b c first second third := by
    simp only [orders.swap]
    intro low high
    rw [orders.chain c b a third second first high low]
    revert low high
    cases compare c b <;> cases compare b a <;> simp

theorem refine (orders : Orders compare Proper) (minor : Orders finer Proper) :
    Orders (fun a b => (compare a b).then (finer a b)) Proper where
  swap a b := by rw [Ordering.swap_then, orders.swap, minor.swap]
  chain a b c first second third :=
    (orders.chain a b c first second third).then (minor.chain a b c first second third)

theorem comap {compare : β → β → Ordering} {Proper : β → Prop} (orders : Orders compare Proper)
    (part : α → β) : Orders (fun a b => compare (part a) (part b)) fun a => Proper (part a) where
  swap a b := orders.swap (part a) (part b)
  chain a b c := orders.chain (part a) (part b) (part c)

theorem restrict (orders : Orders compare Proper) {Narrower : α → Prop}
    (narrow : ∀ a, Narrower a → Proper a) : Orders compare Narrower where
  swap := orders.swap
  chain a b c first second third :=
    orders.chain a b c (narrow a first) (narrow b second) (narrow c third)

theorem directed (orders : Orders compare Proper) (order : SortOrder) :
    Orders (fun a b => order.direct (compare a b)) Proper := by
  cases order with
  | ascending => exact orders
  | descending => exact orders.backwards

/-- Where nothing is told apart everything is in order. -/
theorem trivial : Orders (fun _ _ : α => .eq) Proper where
  swap _ _ := rfl
  chain _ _ _ _ _ _ := by simp [Chained]

end Orders
end DocQuery
