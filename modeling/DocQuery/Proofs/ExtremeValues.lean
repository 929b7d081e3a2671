import DocQuery.Execution.Aggregation
import DocQuery.Proofs.ProjectedDocuments
import DocQuery.Proofs.StableSorting

/-! The extreme of the values of a field stands in the first document in the order of that field, as
long as the first document has a value there. Documents without one come first in ascending order
and last in descending order, so only the greatest value is always found in this way. -/

namespace DocQuery

namespace Value

mutual

/-- Without floats only equal values compare as equal. -/
theorem eq_of_collate {a b : Value} (first : a.isFloatFree) (second : b.isFloatFree)
    (same : collate a b = .eq) : a = b := by
  match a with
  | .null | .bool _ | .string _ =>
    cases b <;> simp_all [collate, rank]
  | .int x =>
    cases b with
    | int y =>
      have words : x.toInt = y.toInt := by simpa [collate] using same
      rw [Int64.toInt_inj.mp words]
    | float _ => cases second
    | _ => cases same
  | .float _ => cases first
  | .list as =>
    cases b with
    | list bs => rw [eq_of_collateItems first second same]
    | _ => cases same
  | .map as =>
    cases b with
    | map bs => rw [eq_of_collateEntries first second same]
    | _ => cases same
termination_by structural a

theorem eq_of_collateItems {as bs : List Value} (first : areFloatFree as)
    (second : areFloatFree bs) (same : collateItems as bs = .eq) : as = bs := by
  match as, bs with
  | [], [] => rfl
  | [], _ :: _ | _ :: _, [] => cases same
  | a :: as, b :: bs =>
    simp only [areFloatFree, Bool.and_eq_true] at first second
    obtain ⟨heads, tails⟩ := Ordering.then_eq_eq.mp same
    rw [eq_of_collate first.1 second.1 heads, eq_of_collateItems first.2 second.2 tails]
termination_by structural as

theorem eq_of_collateEntries {as bs : List (String × Value)} (first : entriesAreFloatFree as)
    (second : entriesAreFloatFree bs) (same : collateEntries as bs = .eq) : as = bs := by
  match as, bs with
  | [], [] => rfl
  | [], _ :: _ | _ :: _, [] => cases same
  | (key, a) :: as, (other, b) :: bs =>
    simp only [entriesAreFloatFree, Bool.and_eq_true] at first second
    obtain ⟨heads, tails⟩ := Ordering.then_eq_eq.mp same
    obtain ⟨keys, values⟩ := Ordering.then_eq_eq.mp heads
    rw [Std.LawfulEqCmp.eq_of_compare keys, eq_of_collate first.1 second.1 values,
      eq_of_collateEntries first.2 second.2 tails]
termination_by structural as

end

end Value

/-- Of two items the first is kept unless the second goes before it, and so of a whole list one is
kept that no other item goes before. -/
theorem Orders.foldl_keep {α : Type} {compare : α → α → Ordering} {Proper : α → Prop}
    (orders : Orders compare Proper) {rest : List α} {first least : α}
    (all : ∀ item ∈ first :: rest, Proper item)
    (kept : rest.foldl (fun best next => if compare next best == .lt then next else best) first =
      least) :
    least ∈ first :: rest ∧ ∀ item ∈ first :: rest, (compare least item).isLE := by
  induction rest generalizing first with
  | nil =>
    cases kept
    simp [orders.refl]
  | cons next rest ih =>
    obtain ⟨proper, others⟩ := List.forall_mem_cons.mp all
    obtain ⟨nextProper, restProper⟩ := List.forall_mem_cons.mp others
    obtain ⟨best, chosen, oneOf, low, high⟩ : ∃ best,
        (if compare next first == .lt then next else first) = best ∧ (best = first ∨ best = next) ∧
          (compare best first).isLE ∧ (compare best next).isLE := by
      by_cases before : compare next first = .lt
      · exact ⟨next, by simp [before], Or.inr rfl, by simp [before], by simp [orders.refl]⟩
      · refine ⟨first, by simp [before], Or.inl rfl, by simp [orders.refl], ?_⟩
        rw [← orders.swap]
        cases ordering : compare next first <;> simp_all
    have bestProper : Proper best := by
      obtain rfl | rfl := oneOf
      · exact proper
      · exact nextProper
    have allProper : ∀ item ∈ best :: rest, Proper item :=
      List.forall_mem_cons.mpr ⟨bestProper, restProper⟩
    rw [List.foldl_cons, chosen] at kept
    obtain ⟨member, under⟩ := ih allProper kept
    have leastProper := allProper least member
    have start := under best List.mem_cons_self
    constructor
    · obtain rfl | later := List.mem_cons.mp member
      · obtain rfl | rfl := oneOf <;> simp
      · simp [later]
    · refine List.forall_mem_cons.mpr ⟨?_, List.forall_mem_cons.mpr ⟨?_, fun item later => ?_⟩⟩
      · exact orders.trans leastProper bestProper proper start low
      · exact orders.trans leastProper bestProper nextProper start high
      · exact under item (List.mem_cons_of_mem best later)

namespace Value

/-- The values of one direction that no other goes before. -/
theorem extreme?_isLE {order : SortOrder} {values : List Value} {best : Value}
    (words : ∀ value ∈ values, value.isFloatFree)
    (found : extreme? (order.direct .lt) values = some best) :
    best ∈ values ∧ ∀ value ∈ values, (order.direct (best.collate value)).isLE := by
  cases values with
  | nil => cases found
  | cons first rest =>
    refine (collate_orders.directed order).foldl_keep words ?_
    rw [← Option.some.inj found]
    congr 1
    funext best next
    cases order <;> cases next.collate best <;> rfl

/-- There is only one such value. -/
theorem extreme?_eq_some {order : SortOrder} {values : List Value} {best : Value}
    (words : ∀ value ∈ values, value.isFloatFree) (member : best ∈ values)
    (least : ∀ value ∈ values, (order.direct (best.collate value)).isLE) :
    extreme? (order.direct .lt) values = some best := by
  obtain ⟨other, found⟩ : ∃ other, extreme? (order.direct .lt) values = some other := by
    cases values with
    | nil => cases member
    | cons first rest => exact ⟨_, rfl⟩
  obtain ⟨among, below⟩ := extreme?_isLE words found
  have low := below best member
  have high := least other among
  have same : other.collate best = .eq := by
    rw [← collate_swap other best] at high
    cases order <;> cases ordering : other.collate best <;> simp_all [SortOrder.direct]
  rw [found, eq_of_collate (words other among) (words best member) same]

/-- Absence and null come before everything else. -/
theorem filter_isNull_of_isLE {a b : Option Value} (low : (collateOptional a b).isLE)
    (present : (a.filter (!·.isNull)).isSome) : (b.filter (!·.isNull)).isSome := by
  match a, b with
  | none, _ => cases present
  | some a, none => cases low
  | some a, some b =>
    have ranks := rank_le_of_isLE low
    cases a <;> cases b <;> simp_all [isNull, rank]

end Value

namespace Json

/-- The value of a field, if it counts in aggregates: null does not. -/
def valueAt? (path : List String) (document : Json) : Option Value :=
  ((document.lookup? path).map Value.ofJson).filter (!·.isNull)

def hasValueAt (path : List String) (document : Json) : Bool := (document.valueAt? path).isSome

theorem HasWordsAt.isFloatFree {path : List String} {document : Json} {value : Value}
    (words : document.HasWordsAt path) (found : document.valueAt? path = some value) :
    value.isFloatFree := by
  obtain ⟨held, _⟩ := Option.filter_eq_some_iff.mp found
  obtain ⟨part, present, rfl⟩ := Option.map_eq_some_iff.mp held
  exact isFloatFree_ofJson part (words part present)

end Json

theorem fieldValues_eq (field : String) (documents : List Json) :
    fieldValues field documents = documents.filterMap (Json.valueAt? (wireKeys field)) := by
  simp only [fieldValues, List.filter_filterMap, List.map_filterMap]
  congr 1
  funext document
  simp only [Json.valueAt?]
  cases document.lookup? (wireKeys field) <;> simp [Option.filter, Value.isNull_ofJson]

section Sorted

variable {path : List String} {order : SortOrder} {documents : List Json} {first : Json}
  (words : ∀ document ∈ documents, document.HasWordsAt path)
  (found : (sortDocuments [⟨path, order⟩] documents).head? = some first)
include words found

theorem head_sortDocuments :
    first ∈ documents ∧
      ∀ document ∈ documents, (SortKey.compare ⟨path, order⟩ first document).isLE := by
  have orders := SortKey.compareAll_orders_of_each
    (List.forall_mem_singleton.mpr (SortKey.compare_orders ⟨path, order⟩))
  obtain ⟨member, least⟩ := orders.head_sortBy words found
  refine ⟨member, fun document among => ?_⟩
  have below := least document among
  simpa [SortKey.compareAll] using below

/-- If the first document has a value, that is the extreme one of all. -/
theorem extreme?_head {value : Value} (held : first.valueAt? path = some value) :
    Value.extreme? (order.direct .lt) (documents.filterMap (Json.valueAt? path)) = some value := by
  obtain ⟨member, least⟩ := head_sortDocuments words found
  refine Value.extreme?_eq_some (fun other among => ?_)
    (List.mem_filterMap.mpr ⟨first, member, held⟩) fun other among => ?_
  · obtain ⟨document, known, present⟩ := List.mem_filterMap.mp among
    exact (words document known).isFloatFree present
  · obtain ⟨document, known, present⟩ := List.mem_filterMap.mp among
    obtain ⟨here, _⟩ := Option.filter_eq_some_iff.mp held
    obtain ⟨there, _⟩ := Option.filter_eq_some_iff.mp present
    have below := least document known
    simpa [SortKey.compare, here, there, Value.collateOptional] using below

end Sorted

/-- The first document in descending order has a value if any document has one. -/
theorem hasValueAt_descending {path : List String} {documents : List Json} {first document : Json}
    (words : ∀ document ∈ documents, document.HasWordsAt path)
    (found : (sortDocuments [⟨path, .descending⟩] documents).head? = some first)
    (member : document ∈ documents) (present : document.hasValueAt path) : first.hasValueAt path := by
  obtain ⟨_, least⟩ := head_sortDocuments words found
  have below := least document member
  rw [SortKey.compare, SortOrder.direct, Value.collateOptional_orders.swap] at below
  exact Value.filter_isNull_of_isLE below present

/-- The first document in ascending order has a value only if all documents have one. -/
theorem hasValueAt_ascending {path : List String} {documents : List Json} {first document : Json}
    (words : ∀ document ∈ documents, document.HasWordsAt path)
    (found : (sortDocuments [⟨path, .ascending⟩] documents).head? = some first)
    (member : document ∈ documents) (present : first.hasValueAt path) : document.hasValueAt path := by
  obtain ⟨_, least⟩ := head_sortDocuments words found
  exact Value.filter_isNull_of_isLE (least document member) present

/-- The greatest value of a field is that of the first document in descending order. -/
theorem extreme?_descending {path : List String} {documents : List Json}
    (words : ∀ document ∈ documents, document.HasWordsAt path) :
    Value.extreme? .gt (documents.filterMap (Json.valueAt? path)) =
      (sortDocuments [⟨path, .descending⟩] documents).head?.bind (Json.valueAt? path) := by
  cases found : (sortDocuments [⟨path, .descending⟩] documents).head? with
  | none =>
    rw [sortBy_eq_nil.mp (List.head?_eq_none_iff.mp found)]
    rfl
  | some first =>
    cases held : first.valueAt? path with
    | some value =>
      rw [Option.bind_some, held]
      exact extreme?_head words found held
    | none =>
      have none : documents.filterMap (Json.valueAt? path) = [] := by
        refine List.filterMap_eq_nil_iff.mpr fun document member => ?_
        cases present : document.valueAt? path with
        | none => rfl
        | some value =>
          have other := hasValueAt_descending words found member (by simp [Json.hasValueAt, present])
          simp [Json.hasValueAt, held] at other
      rw [Option.bind_some, held, none]
      rfl

end DocQuery
