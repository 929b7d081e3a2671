import DocQuery.Proofs.Comparisons
import DocQuery.Sorting

/-! Sorting by a comparison that orders the items. The result is sorted, and items that compare
equal stand in it as they stood before; these two facts leave only one list. -/

namespace DocQuery

variable {α : Type} {compare finer : α → α → Ordering} {Proper : α → Prop}

def sortBy (compare : α → α → Ordering) (items : List α) : List α :=
  sortStably (fun a b => compare a b == .lt) items

/-- Whether a second item stands where a first one could stand as well. -/
def alike (compare : α → α → Ordering) (a b : α) : Bool := compare a b == .eq

def InOrder (compare : α → α → Ordering) (items : List α) : Prop :=
  items.Pairwise fun a b => (compare a b).isLE

theorem insertDescending_perm (before : α → α → Bool) (item : α) (sorted : List α) :
    (insertDescending before item sorted).Perm (item :: sorted) := by
  induction sorted with
  | nil => exact .refl _
  | cons last rest ih =>
    simp only [insertDescending]
    split
    · exact (ih.cons last).trans (.swap item last rest)
    · exact .refl _

theorem mem_insertDescending {before : α → α → Bool} {item other : α} {sorted : List α} :
    other ∈ insertDescending before item sorted ↔ other = item ∨ other ∈ sorted :=
  (insertDescending_perm before item sorted).mem_iff.trans List.mem_cons

theorem forall_mem_insertDescending {before : α → α → Bool} {item : α} {sorted : List α}
    (fresh : Proper item) (known : ∀ other ∈ sorted, Proper other) :
    ∀ other ∈ insertDescending before item sorted, Proper other := by
  intro other member
  obtain rfl | old := mem_insertDescending.mp member
  · exact fresh
  · exact known other old

theorem sortBy_perm (compare : α → α → Ordering) (items : List α) :
    (sortBy compare items).Perm items := by
  have loop : ∀ sorted : List α,
      (items.foldl (fun sorted item => insertDescending (fun a b => compare a b == .lt) item sorted)
        sorted).Perm (items ++ sorted) := by
    induction items with
    | nil => exact fun sorted => .refl _
    | cons item rest ih =>
      intro sorted
      refine (ih _).trans ?_
      refine ((insertDescending_perm _ item sorted).append_left rest).trans ?_
      exact List.perm_middle
  simpa [sortBy, sortStably] using (List.reverse_perm _).trans (loop [])

theorem mem_sortBy {item : α} {items : List α} : item ∈ sortBy compare items ↔ item ∈ items :=
  (sortBy_perm compare items).mem_iff

theorem sortBy_eq_nil {items : List α} : sortBy compare items = [] ↔ items = [] := by
  rw [← List.length_eq_zero_iff, (sortBy_perm compare items).length_eq, List.length_eq_zero_iff]

theorem insertDescending_map {β : Type} {before : β → β → Bool} {other : α → α → Bool}
    (change : α → β) {item : α} {sorted : List α}
    (same : ∀ last ∈ sorted, before (change item) (change last) = other item last) :
    insertDescending before (change item) (sorted.map change) =
      (insertDescending other item sorted).map change := by
  induction sorted with
  | nil => rfl
  | cons last rest ih =>
    obtain ⟨first, others⟩ := List.forall_mem_cons.mp same
    simp only [List.map_cons, insertDescending, first]
    split
    · rw [ih others, List.map_cons]
    · rfl

/-- Items may be changed after sorting them as well as before, if the changed ones compare alike. -/
theorem sortBy_map {β : Type} {other : β → β → Ordering} (change : α → β) {items : List α}
    (same : ∀ a ∈ items, ∀ b ∈ items, other (change a) (change b) = compare a b) :
    sortBy other (items.map change) = (sortBy compare items).map change := by
  have loop : ∀ waiting sorted : List α, waiting ⊆ items → sorted ⊆ items →
      (waiting.map change).foldl
          (fun sorted item => insertDescending (fun a b => other a b == .lt) item sorted)
          (sorted.map change) =
        (waiting.foldl (fun sorted item => insertDescending (fun a b => compare a b == .lt) item sorted)
          sorted).map change := by
    intro waiting
    induction waiting with
    | nil => exact fun _ _ _ => rfl
    | cons item rest ih =>
      intro sorted among known
      obtain ⟨first, others⟩ := List.cons_subset.mp among
      have inserted : insertDescending (fun a b => compare a b == .lt) item sorted ⊆ items :=
        forall_mem_insertDescending first known
      rw [List.map_cons, List.foldl_cons, List.foldl_cons, ← ih _ others inserted]
      congr 1
      apply insertDescending_map change
      intro last member
      rw [same item first last (known member)]
  have whole := loop items [] (List.Subset.refl items) (List.nil_subset items)
  rw [sortBy, sortStably, sortBy, sortStably, List.map_reverse, ← whole, List.map_nil]

theorem sortBy_congr {other : α → α → Ordering} {items : List α}
    (same : ∀ a ∈ items, ∀ b ∈ items, other a b = compare a b) :
    sortBy other items = sortBy compare items := by
  simpa only [List.map_id] using sortBy_map id same

namespace Orders

/-- An item moves up past those that it goes before, and none of these is like it. -/
private theorem filter_insertDescending (orders : Orders compare Proper) {key item : α}
    {sorted : List α} (proper : Proper key) (fresh : Proper item)
    (known : ∀ other ∈ sorted, Proper other) :
    (insertDescending (fun a b => compare a b == .lt) item sorted).filter (alike compare key) =
      (item :: sorted).filter (alike compare key) := by
  induction sorted with
  | nil => rfl
  | cons last rest ih =>
    have later := ih fun other member => known other (by simp [member])
    simp only [insertDescending]
    split
    next earlier =>
      rw [List.filter_cons, later]
      by_cases same : alike compare key item
      · have apart := orders.congr_left proper fresh (known last (by simp)) (by simpa [alike] using same)
        have other : alike compare key last = false := by simp_all [alike]
        simp [same, other]
      · simp [List.filter_cons, same]
    next => rfl

theorem filter_alike (orders : Orders compare Proper) {key : α} {items : List α}
    (proper : Proper key) (all : ∀ item ∈ items, Proper item) :
    (sortBy compare items).filter (alike compare key) = items.filter (alike compare key) := by
  have loop : ∀ sorted : List α, (∀ item ∈ sorted, Proper item) →
      (items.foldl (fun sorted item => insertDescending (fun a b => compare a b == .lt) item sorted)
        sorted).filter (alike compare key) =
      (items.filter (alike compare key)).reverse ++ sorted.filter (alike compare key) := by
    induction items with
    | nil => intro sorted known; simp
    | cons item rest ih =>
      intro sorted known
      obtain ⟨fresh, others⟩ := List.forall_mem_cons.mp all
      rw [List.foldl_cons, ih others _ (forall_mem_insertDescending fresh known),
        orders.filter_insertDescending proper fresh known]
      by_cases same : alike compare key item <;> simp [same]
  simp [sortBy, sortStably, loop [] (by simp)]

private theorem descending_insert (orders : Orders compare Proper) {item : α} {sorted : List α}
    (fresh : Proper item) (known : ∀ other ∈ sorted, Proper other)
    (descending : sorted.Pairwise fun a b => (compare b a).isLE) :
    (insertDescending (fun a b => compare a b == .lt) item sorted).Pairwise
      fun a b => (compare b a).isLE := by
  induction sorted with
  | nil => simp [insertDescending]
  | cons last rest ih =>
    obtain ⟨below, tail⟩ := List.pairwise_cons.mp descending
    obtain ⟨first, others⟩ := List.forall_mem_cons.mp known
    simp only [insertDescending]
    split
    next earlier =>
      refine List.pairwise_cons.mpr ⟨?_, ih others tail⟩
      intro other member
      rcases mem_insertDescending.mp member with rfl | old
      · simp_all
      · exact below other old
    next later =>
      have step : (compare last item).isLE := by
        rw [← orders.swap item last]
        cases ordering : compare item last <;> simp_all
      refine List.pairwise_cons.mpr ⟨?_, descending⟩
      intro other member
      rcases List.mem_cons.mp member with rfl | old
      · exact step
      · exact orders.trans (others other old) first fresh (below other old) step

theorem inOrder_sortBy (orders : Orders compare Proper) {items : List α}
    (all : ∀ item ∈ items, Proper item) : InOrder compare (sortBy compare items) := by
  have loop : ∀ sorted : List α, (∀ item ∈ sorted, Proper item) →
      (sorted.Pairwise fun a b => (compare b a).isLE) →
      (items.foldl (fun sorted item => insertDescending (fun a b => compare a b == .lt) item sorted)
        sorted).Pairwise fun a b => (compare b a).isLE := by
    induction items with
    | nil => exact fun sorted _ descending => descending
    | cons item rest ih =>
      intro sorted known descending
      obtain ⟨fresh, others⟩ := List.forall_mem_cons.mp all
      exact ih others _ (forall_mem_insertDescending fresh known)
        (orders.descending_insert fresh known descending)
  simpa [InOrder, sortBy, sortStably, List.pairwise_reverse] using loop [] (by simp) .nil

/-- No item goes before the one that comes first after sorting. -/
theorem head_sortBy (orders : Orders compare Proper) {items : List α} {first : α}
    (all : ∀ item ∈ items, Proper item) (found : (sortBy compare items).head? = some first) :
    first ∈ items ∧ ∀ item ∈ items, (compare first item).isLE := by
  obtain ⟨rest, sorted⟩ := List.head?_eq_some_iff.mp found
  have inOrder := orders.inOrder_sortBy all
  rw [sorted] at inOrder
  refine ⟨mem_sortBy.mp (sorted ▸ List.mem_cons_self), fun item member => ?_⟩
  obtain rfl | later := List.mem_cons.mp (sorted ▸ mem_sortBy.mpr member)
  · simp [orders.refl]
  · exact (List.pairwise_cons.mp inOrder).1 item later

/-- An item that a list in order also holds does not go before its head. -/
private theorem head_isLE (orders : Orders compare Proper) {item other : α} {rest others : List α}
    (sorted : InOrder compare (item :: rest))
    (same : (item :: rest).filter (alike compare other) =
      (other :: others).filter (alike compare other)) : (compare item other).isLE := by
  have inside : other ∈ (item :: rest).filter (alike compare other) := by
    rw [same]
    simp [alike, orders.refl other]
  rcases List.mem_cons.mp (List.mem_filter.mp inside).1 with rfl | old
  · simp [orders.refl]
  · exact (List.pairwise_cons.mp sorted).1 other old

/-- Two lists in order are the same if they hold the same items of each kind in the same order. -/
theorem eq_of_filter_alike (orders : Orders compare Proper) {first second : List α}
    (firstProper : ∀ item ∈ first, Proper item) (secondProper : ∀ item ∈ second, Proper item)
    (firstOrder : InOrder compare first) (secondOrder : InOrder compare second)
    (same : ∀ key, Proper key →
      first.filter (alike compare key) = second.filter (alike compare key)) : first = second := by
  induction first generalizing second with
  | nil =>
    cases second with
    | nil => rfl
    | cons item rest =>
      have mine := same item (secondProper item (by simp))
      simp [alike, orders.refl item] at mine
  | cons item rest ih =>
    obtain ⟨proper, restProper⟩ := List.forall_mem_cons.mp firstProper
    cases second with
    | nil =>
      have mine := same item proper
      simp [alike, orders.refl item] at mine
    | cons other others =>
      obtain ⟨otherProper, othersProper⟩ := List.forall_mem_cons.mp secondProper
      -- Each head is in the other list, so neither goes before the other.
      have low := orders.head_isLE firstOrder (same other otherProper)
      have high := orders.head_isLE secondOrder (same item proper).symm
      have equal : compare item other = .eq := by
        rw [← orders.swap] at high
        cases ordering : compare item other <;> simp_all
      have heads := same item proper
      have selfAlike : alike compare item item = true := by simp [alike, orders.refl item]
      have otherAlike : alike compare item other = true := by simp [alike, equal]
      rw [List.filter_cons_of_pos selfAlike, List.filter_cons_of_pos otherAlike] at heads
      obtain ⟨rfl, -⟩ := List.cons.inj heads
      congr 1
      apply ih restProper othersProper (List.pairwise_cons.mp firstOrder).2
        (List.pairwise_cons.mp secondOrder).2
      intro key keyProper
      have whole := same key keyProper
      by_cases kind : alike compare key item <;> simpa [kind] using whole

theorem sortBy_of_inOrder (orders : Orders compare Proper) {items : List α}
    (all : ∀ item ∈ items, Proper item) (sorted : InOrder compare items) :
    sortBy compare items = items :=
  orders.eq_of_filter_alike (fun item member => all item (mem_sortBy.mp member)) all
    (orders.inOrder_sortBy all) sorted fun _ proper => orders.filter_alike proper all

/-- Leaving items out before sorting or after it is the same. -/
theorem filter_sortBy (orders : Orders compare Proper) {items : List α}
    (all : ∀ item ∈ items, Proper item) (keep : α → Bool) :
    (sortBy compare items).filter keep = sortBy compare (items.filter keep) := by
  have kept : ∀ item ∈ items.filter keep, Proper item := fun item member =>
    all item (List.mem_filter.mp member).1
  apply orders.eq_of_filter_alike
  · exact fun item member => all item (mem_sortBy.mp (List.mem_filter.mp member).1)
  · exact fun item member => kept item (mem_sortBy.mp member)
  · exact (orders.inOrder_sortBy all).filter keep
  · exact orders.inOrder_sortBy kept
  · intro key proper
    have exchange : ∀ list : List α, (list.filter keep).filter (alike compare key) =
        (list.filter (alike compare key)).filter keep := by
      intro list
      simp only [List.filter_filter, Bool.and_comm]
    rw [orders.filter_alike proper kept, exchange, orders.filter_alike proper all, exchange]

/-- Sorting by a comparison first is lost in sorting by a refinement of it. -/
theorem sortBy_refine (orders : Orders compare Proper) (minor : Orders finer Proper)
    {items : List α} (all : ∀ item ∈ items, Proper item) :
    sortBy (fun a b => (compare a b).then (finer a b)) (sortBy compare items) =
      sortBy (fun a b => (compare a b).then (finer a b)) items := by
  have refined := orders.refine minor
  have sorted : ∀ item ∈ sortBy compare items, Proper item := fun item member =>
    all item (mem_sortBy.mp member)
  apply refined.eq_of_filter_alike
  · exact fun item member => sorted item (mem_sortBy.mp member)
  · exact fun item member => all item (mem_sortBy.mp member)
  · exact refined.inOrder_sortBy sorted
  · exact refined.inOrder_sortBy all
  · intro key proper
    rw [refined.filter_alike proper sorted, refined.filter_alike proper all]
    -- What is alike under the refinement is alike under the coarser comparison.
    have coarser : ∀ list : List α,
        list.filter (alike (fun a b => (compare a b).then (finer a b)) key) =
          (list.filter (alike compare key)).filter (alike finer key) := by
      intro list
      rw [List.filter_filter]
      congr 1
      funext item
      cases ordering : compare key item <;> simp [alike, ordering]
    rw [coarser, coarser, orders.filter_alike proper all]

end Orders
end DocQuery
