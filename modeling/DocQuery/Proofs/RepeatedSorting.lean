import DocQuery.Execution.Steps
import DocQuery.Proofs.LinearCollation
import DocQuery.Proofs.Outcomes
import DocQuery.Request.Draft

/-! Sorting what has been sorted already. A stable sort leaves the items in place that it does not tell
apart, and so keeps among them the order of the sort before it. The client carries out each order as it
comes, so an order that follows another one is refined by it; the server is asked for the last one only. -/

namespace DocQuery

namespace Orders

variable {α : Type} {earlier later : α → α → Ordering} {items : List α}

theorem eq_of_alike (orders : Orders later (· ∈ items)) {key a b : α} (proper : key ∈ items)
    (first : a ∈ items) (second : b ∈ items) (ofFirst : alike later key a)
    (ofSecond : alike later key b) : later a b = .eq := by
  have same := orders.congr_left proper first second (beq_iff_eq.mp ofFirst)
  rw [← same]
  exact beq_iff_eq.mp ofSecond

/-- A sort makes up for the one before it exactly if that one has left the items in place that the sort
does not tell apart. -/
theorem sortBy_sortBy_eq_iff (orders : Orders later (· ∈ items)) :
    sortBy later (sortBy earlier items) = sortBy later items ↔
      ∀ item ∈ items,
        (sortBy earlier items).filter (alike later item) = items.filter (alike later item) := by
  have among : ∀ item ∈ sortBy earlier items, item ∈ items := fun _ => mem_sortBy.mp
  constructor
  · intro same item member
    rw [← orders.filter_alike member among, same, orders.filter_alike member fun _ => id]
  · intro kept
    apply orders.eq_of_filter_alike
    · exact fun item member => among item (mem_sortBy.mp member)
    · exact fun _ => mem_sortBy.mp
    · exact orders.inOrder_sortBy among
    · exact orders.inOrder_sortBy fun _ => id
    · intro item member
      rw [orders.filter_alike member among, kept item member, orders.filter_alike member fun _ => id]

theorem filter_sortBy_eq_iff (orders : Orders earlier (· ∈ items)) (keep : α → Bool) :
    (sortBy earlier items).filter keep = items.filter keep ↔ InOrder earlier (items.filter keep) := by
  have kept : ∀ item ∈ items.filter keep, item ∈ items := fun _ member => (List.mem_filter.mp member).1
  rw [orders.filter_sortBy (fun _ => id) keep]
  constructor
  · intro same
    rw [← same]
    exact orders.inOrder_sortBy kept
  · exact orders.sortBy_of_inOrder kept

theorem inOrder_alike_iff (orders : Orders later (· ∈ items)) :
    (∀ item ∈ items, InOrder earlier (items.filter (alike later item))) ↔
      items.Pairwise fun a b => later a b = .eq → (earlier a b).isLE := by
  simp only [InOrder, List.pairwise_filter]
  simp only [List.pairwise_iff_forall_sublist]
  constructor
  · intro each a b inside same
    have first : a ∈ items := inside.subset List.mem_cons_self
    exact each a first inside (beq_iff_eq.mpr (orders.refl a)) (beq_iff_eq.mpr same)
  · intro pairs item member a b inside ofFirst ofSecond
    apply pairs inside
    apply orders.eq_of_alike member (inside.subset _) (inside.subset _) ofFirst ofSecond <;> simp

/-- Sorting twice is sorting once by the later comparison, with the earlier one where it decides nothing. -/
theorem sortBy_sortBy (orders : Orders later (· ∈ items)) (minor : Orders earlier (· ∈ items)) :
    sortBy later (sortBy earlier items) =
      sortBy (fun a b => (later a b).then (earlier a b)) items := by
  have refined := orders.refine minor
  have among : ∀ item ∈ sortBy earlier items, item ∈ items := fun _ => mem_sortBy.mp
  apply orders.eq_of_filter_alike
  · exact fun item member => among item (mem_sortBy.mp member)
  · exact fun _ => mem_sortBy.mp
  · exact orders.inOrder_sortBy among
  · refine (refined.inOrder_sortBy fun _ => id).imp ?_
    intro a b low
    exact (Ordering.isLE_then_iff_and.mp low).1
  · intro item member
    -- Among the items like this one the earlier comparison decides alone.
    rw [orders.filter_alike member among, minor.filter_sortBy (fun _ => id),
      refined.filter_sortBy fun _ => id]
    apply sortBy_congr
    intro a first b second
    obtain ⟨firstThere, ofFirst⟩ := List.mem_filter.mp first
    obtain ⟨secondThere, ofSecond⟩ := List.mem_filter.mp second
    rw [orders.eq_of_alike member firstThere secondThere ofFirst ofSecond]
    rfl

end Orders

/-- The key of a field named as in expressions. -/
def SortKey.ofField (naming : FieldNaming) (field : FieldPath) (order : SortOrder) : SortKey :=
  ⟨wireKeys (naming.resolve field), order⟩

theorem sortDocuments_singleton (key : SortKey) (documents : List Json) :
    sortDocuments [key] documents = sortBy key.compare documents := by
  apply sortBy_congr
  intro a _ b _
  exact Ordering.then_eq

theorem sortDocuments_pair (first second : SortKey) (documents : List Json) :
    sortDocuments [first, second] documents =
      sortBy (fun a b => (first.compare a b).then (second.compare a b)) documents := by
  apply sortBy_congr
  intro a _ b _
  exact congrArg (Ordering.then _) Ordering.then_eq

/-- An order sorts stably, and so a second one does not replace it: on documents that both order they
come to the second one refined by the first. The second one alone gives the same exactly if documents
that it does not tell apart are in the first order already. A server is asked for the second one alone. -/
theorem runSteps_orderBy_orderBy (naming : FieldNaming) (first second : FieldPath)
    (order direction : SortOrder) {documents : List Json}
    (orders : Orders (SortKey.ofField naming second direction).compare (· ∈ documents)) :
    let earlier := (SortKey.ofField naming first order).compare
    let later := (SortKey.ofField naming second direction).compare
    let both := runSteps naming [.orderBy first order, .orderBy second direction] documents
    let alone := runSteps naming [.orderBy second direction] documents
    (∀ sorted, alone = .ok (.documents sorted) ↔ IsStableSort later documents sorted) ∧
      (both = alone ↔ ∀ document ∈ documents, (sortBy earlier documents).filter (alike later document) =
        documents.filter (alike later document)) ∧
      (Orders earlier (· ∈ documents) →
        both = runSteps naming [.orderBy second direction, .thenBy first order] documents ∧
          (both = alone ↔ documents.Pairwise fun a b => later a b = .eq → (earlier a b).isLE)) ∧
      ∀ discriminator,
        FindRequest.ofChain naming discriminator [.orderBy second direction, .orderBy first order] =
          FindRequest.ofChain naming discriminator [.orderBy second direction] := by
  intro earlier later both alone
  have ofAlone : alone = .ok (.documents (sortBy later documents)) :=
    congrArg (fun sorted => Except.ok (Output.documents sorted)) (sortDocuments_singleton _ documents)
  have ofBoth : both = .ok (.documents (sortBy later (sortBy earlier documents))) := by
    rw [← sortDocuments_singleton, ← sortDocuments_singleton]
    rfl
  have same : both = alone ↔ ∀ document ∈ documents,
      (sortBy earlier documents).filter (alike later document) =
        documents.filter (alike later document) := by
    rw [ofBoth, ofAlone, ← orders.sortBy_sortBy_eq_iff, Except.ok.injEq, Output.documents.injEq]
  refine ⟨fun sorted => ?_, same, fun minor => ⟨?_, ?_⟩, fun discriminator => ?_⟩
  · rw [ofAlone, orders.isStableSort_iff, Except.ok.injEq, Output.documents.injEq, eq_comm]
  · have refined : runSteps naming [.orderBy second direction, .thenBy first order] documents =
        .ok (.documents (sortBy (fun a b => (later a b).then (earlier a b)) (sortBy later documents))) := by
      rw [← sortDocuments_pair, ← sortDocuments_singleton]
      rfl
    rw [ofBoth, refined, orders.sortBy_sortBy minor, orders.sortBy_refine minor fun _ => id]
  · rw [same, ← orders.inOrder_alike_iff]
    exact forall₂_congr fun document _ => minor.filter_sortBy_eq_iff _
  · rfl

/-- Two people of the same rank, the younger one first: sorting by age before sorting by rank makes no
difference. -/
theorem runSteps_orderBy_orderBy_sorted :
    let naming := FieldNaming.ofCase .unchanged
    let age : FieldPath := ⟨["age"]⟩
    let rank : FieldPath := ⟨["rank"]⟩
    let documents : List Json :=
      [.object [("age", .integer 57), ("rank", .integer 2)],
        .object [("age", .integer 19), ("rank", .integer 1)],
        .object [("age", .integer 32), ("rank", .integer 1)]]
    let later := (SortKey.ofField naming rank .ascending).compare
    let both := runSteps naming [.orderBy age .ascending, .orderBy rank .ascending] documents
    Orders later (· ∈ documents) ∧ Orders (SortKey.ofField naming age .ascending).compare (· ∈ documents) ∧
      both = runSteps naming [.orderBy rank .ascending, .thenBy age .ascending] documents ∧
      ∃ sorted, both = .ok (.documents sorted) ∧ IsStableSort later documents sorted := by
  intro naming age rank documents later both
  have words : ∀ document ∈ documents, document.hasOnlyWords := by decide
  have orders : ∀ key : SortKey, Orders key.compare (· ∈ documents) := fun key =>
    key.compare_orders.restrict fun document member =>
      Json.hasWordsAt_of_hasOnlyWords (words document member) key.path
  obtain ⟨stable, _, ordered, _⟩ :=
    runSteps_orderBy_orderBy naming age rank .ascending .ascending (orders _)
  obtain ⟨refined, agree⟩ := ordered (orders _)
  have same := agree.mpr (by decide)
  have sorted : IsStableSort later documents (sortBy later documents) :=
    ((orders _).isStableSort_iff _).mpr rfl
  exact ⟨orders _, orders _, refined, _, same.trans ((stable _).mpr sorted), sorted⟩

/-- Two people of the same rank, the older one first: sorting by age exchanges them for good, sorting by
rank alone leaves them in their places. -/
theorem runSteps_orderBy_orderBy_tied :
    let naming := FieldNaming.ofCase .unchanged
    let age : FieldPath := ⟨["age"]⟩
    let rank : FieldPath := ⟨["rank"]⟩
    let older : Json := .object [("_id", .string "a"), ("age", .integer 2), ("rank", .integer 1)]
    let younger : Json := .object [("_id", .string "b"), ("age", .integer 1), ("rank", .integer 1)]
    runSteps naming [.orderBy age .ascending, .orderBy rank .ascending] [older, younger] =
        .ok (.documents [younger, older]) ∧
      runSteps naming [.orderBy rank .ascending] [older, younger] = .ok (.documents [older, younger]) :=
  ⟨rfl, rfl⟩

end DocQuery
