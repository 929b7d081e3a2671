import DocQuery.Proofs.DocumentTrees
import DocQuery.Proofs.ExtremeValues

/-!
From documents to values and back. Everything comes back as it was but for the integers that are too large
for 64 bits with a sign, which come back as floats. Of the values of a field the least and the greatest are
given back in this way.
-/

namespace DocQuery

namespace Json

mutual

/-- A document with the integers beyond 64 bits rounded to floats. -/
def rounded : Json → Json
  | .integer i => if fitsInt64 i then .integer i else .float (.ofInt i)
  | .array items => .array (roundedItems items)
  | .object entries => .object (roundedEntries entries)
  | other => other
termination_by structural document => document

def roundedItems : List Json → List Json
  | [] => []
  | item :: rest => item.rounded :: roundedItems rest
termination_by structural items => items

def roundedEntries : List (String × Json) → List (String × Json)
  | [] => []
  | (key, value) :: rest => (key, value.rounded) :: roundedEntries rest
termination_by structural entries => entries

end

mutual

/-- Whether every integer in a document fits in 64 bits with a sign. -/
def hasNarrowIntegers : Json → Bool
  | .integer i => fitsInt64 i
  | .array items => itemsHaveNarrowIntegers items
  | .object entries => entriesHaveNarrowIntegers entries
  | _ => true
termination_by structural document => document

def itemsHaveNarrowIntegers : List Json → Bool
  | [] => true
  | item :: rest => item.hasNarrowIntegers && itemsHaveNarrowIntegers rest
termination_by structural items => items

def entriesHaveNarrowIntegers : List (String × Json) → Bool
  | [] => true
  | (_, value) :: rest => value.hasNarrowIntegers && entriesHaveNarrowIntegers rest
termination_by structural entries => entries

end

mutual

theorem rounded_eq_iff (document : Json) : document.rounded = document ↔ document.hasNarrowIntegers :=
  match document with
  | .null | .bool _ | .float _ | .string _ => by simp [rounded, hasNarrowIntegers]
  | .integer i => by
    by_cases fits : fitsInt64 i <;> simp [rounded, hasNarrowIntegers, fits]
  | .array items => by
    simpa [rounded, hasNarrowIntegers] using roundedItems_eq_iff items
  | .object entries => by
    simpa [rounded, hasNarrowIntegers] using roundedEntries_eq_iff entries
termination_by structural document

theorem roundedItems_eq_iff (items : List Json) :
    roundedItems items = items ↔ itemsHaveNarrowIntegers items :=
  match items with
  | [] => by simp [roundedItems, itemsHaveNarrowIntegers]
  | item :: rest => by
    simp [roundedItems, itemsHaveNarrowIntegers, rounded_eq_iff item, roundedItems_eq_iff rest]
termination_by structural items

theorem roundedEntries_eq_iff (entries : List (String × Json)) :
    roundedEntries entries = entries ↔ entriesHaveNarrowIntegers entries :=
  match entries with
  | [] => by simp [roundedEntries, entriesHaveNarrowIntegers]
  | (key, value) :: rest => by
    simp [roundedEntries, entriesHaveNarrowIntegers, rounded_eq_iff value, roundedEntries_eq_iff rest]
termination_by structural entries

end

/-- Whether every number in a document is one that is written in JSON. -/
def hasWrittenNumbers (document : Json) : Bool := document.toTree.hasWrittenNumbers

theorem treesOfEntries_eq_map (entries : Entries Json) :
    treesOfEntries entries = entries.map fun entry => (some entry.1, entry.2.toTree) := by
  induction entries with
  | nil => rfl
  | cons entry rest ih => simp [treesOfEntries, ih]

theorem hasWrittenNumbers_of_get? {document part : Json} {key : String}
    (numbers : document.hasWrittenNumbers) (found : document.get? key = some part) :
    part.hasWrittenNumbers := by
  cases document with
  | object entries =>
    have member := Entries.mem_of_get? found
    have all := Tree.entriesHaveWrittenNumbers_iff.mp numbers
    rw [treesOfEntries_eq_map] at all
    exact all _ (List.mem_map.mpr ⟨_, member, rfl⟩)
  | _ => cases found

theorem hasWrittenNumbers_of_lookup? {document part : Json} {path : List String}
    (numbers : document.hasWrittenNumbers) (found : document.lookup? path = some part) :
    part.hasWrittenNumbers := by
  induction path generalizing document with
  | nil => exact Option.some.inj found ▸ numbers
  | cons key rest ih =>
    obtain ⟨child, present, further⟩ := Option.bind_eq_some_iff.mp found
    exact ih (hasWrittenNumbers_of_get? numbers present) further

end Json

namespace Value

mutual

theorem toJson_ofJson (document : Json) (numbers : document.toTree.hasWrittenNumbers) :
    (ofJson document).toJson = document.rounded :=
  match document with
  | .null | .bool _ | .string _ => rfl
  | .float x => by
    have finite : x.isFinite = true := numbers
    simp [ofJson, toJson, Json.rounded, finite]
  | .integer i => by
    have bounded : (decide (leastInt64 ≤ i) && decide (i < natBound64)) = true := numbers
    simp only [Bool.and_eq_true, decide_eq_true_eq] at bounded
    simp only [ofJson, Json.rounded]
    split
    case isTrue fits => rw [toJson, toInt_ofInt_of_fitsInt64 fits]
    case isFalse =>
      have finite : (Binary64.ofInt i).isFinite = true := by
        apply Binary64.isFinite_ofInt
        simp only [leastInt64, natBound64] at bounded ⊢
        omega
      rw [toJson, if_pos finite]
  | .array items => congrArg Json.array (toItems_ofItems items numbers)
  | .object entries => congrArg Json.object (toEntries_ofEntries entries numbers)
termination_by structural document

theorem toItems_ofItems (items : List Json)
    (numbers : Json.Tree.haveWrittenNumbers (Json.treesOfItems items)) :
    toItems (ofItems items) = Json.roundedItems items :=
  match items with
  | [] => rfl
  | item :: rest => by
    simp only [Json.treesOfItems, Json.Tree.haveWrittenNumbers, Bool.and_eq_true] at numbers
    simp only [ofItems, toItems, Json.roundedItems]
    rw [toJson_ofJson item numbers.1, toItems_ofItems rest numbers.2]
termination_by structural items

theorem toEntries_ofEntries (entries : List (String × Json))
    (numbers : Json.Tree.entriesHaveWrittenNumbers (Json.treesOfEntries entries)) :
    toEntries (ofEntries entries) = Json.roundedEntries entries :=
  match entries with
  | [] => rfl
  | (key, value) :: rest => by
    simp only [Json.treesOfEntries, Json.Tree.entriesHaveWrittenNumbers, Bool.and_eq_true] at numbers
    simp only [ofEntries, toEntries, Json.roundedEntries]
    rw [toJson_ofJson value numbers.1, toEntries_ofEntries rest numbers.2]
termination_by structural entries

end

/-- The extreme value is one of the values, whichever way they compare. -/
theorem extreme?_mem {better : Ordering} {values : List Value} {best : Value}
    (found : extreme? better values = some best) : best ∈ values := by
  cases values with
  | nil => cases found
  | cons first rest =>
    have kept := Option.some.inj found
    clear found
    induction rest generalizing first with
    | nil => exact kept ▸ List.mem_singleton_self first
    | cons next rest ih =>
      simp only [List.foldl_cons] at kept
      rcases List.mem_cons.mp (ih _ kept) with chosen | later
      · split at chosen
        · exact chosen ▸ .tail _ (.head _)
        · exact chosen ▸ .head _
      · exact .tail _ (.tail _ later)

theorem exists_extreme? (better : Ordering) {values : List Value} {value : Value}
    (member : value ∈ values) : ∃ best, extreme? better values = some best := by
  cases values with
  | nil => cases member
  | cons first rest => exact ⟨_, rfl⟩

end Value

theorem Json.stored_of_valueAt? {path : List String} {document : Json} {value : Value}
    (present : document.valueAt? path = some value) :
    ∃ stored, document.lookup? path = some stored ∧ stored.isNull = false ∧
      Value.ofJson stored = value := by
  obtain ⟨held, counts⟩ := Option.filter_eq_some_iff.mp present
  obtain ⟨stored, found, rfl⟩ := Option.map_eq_some_iff.mp held
  exact ⟨stored, found, by simpa [Value.isNull_ofJson] using counts, rfl⟩

/-- The extreme value of a field is one that some document holds, as it is or rounded. -/
theorem aggregate_eq_rounded {function : AggregateFunction} (extremal : function = .min ∨ function = .max)
    {field : String} {documents : List Json}
    (numbers : ∀ document ∈ documents, document.hasWrittenNumbers)
    (present : ∃ document ∈ documents, document.hasValueAt (wireKeys field)) :
    ∃ document ∈ documents, ∃ stored, document.lookup? (wireKeys field) = some stored ∧
      stored.isNull = false ∧ function.aggregate field documents = .ok (.scalar stored.rounded) := by
  obtain ⟨better, apply⟩ : ∃ better, ∀ values,
      function.apply values = Value.required (Value.extreme? better values) := by
    rcases extremal with rfl | rfl
    · exact ⟨.lt, fun _ => rfl⟩
    · exact ⟨.gt, fun _ => rfl⟩
  obtain ⟨best, found⟩ : ∃ best, Value.extreme? better (fieldValues field documents) = some best := by
    obtain ⟨document, member, counts⟩ := present
    obtain ⟨value, held⟩ := Option.isSome_iff_exists.mp counts
    have among : value ∈ fieldValues field documents := by
      rw [fieldValues_eq]
      exact List.mem_filterMap.mpr ⟨document, member, held⟩
    exact Value.exists_extreme? better among
  have among := Value.extreme?_mem found
  rw [fieldValues_eq] at among
  obtain ⟨document, member, held⟩ := List.mem_filterMap.mp among
  obtain ⟨stored, there, counts, rfl⟩ := Json.stored_of_valueAt? held
  refine ⟨document, member, stored, there, counts, ?_⟩
  have written := Json.hasWrittenNumbers_of_lookup? (numbers document member) there
  rw [AggregateFunction.aggregate, apply, found, ← Value.toJson_ofJson stored written]
  rfl

/-- Documents come back from their values unless they hold an integer that is too large for 64 bits with a
sign. That alone is rounded to a float, also where it is the least or greatest value of a field. -/
theorem toJson_ofJson_eq_rounded {documents : List Json}
    (numbers : ∀ document ∈ documents, document.hasWrittenNumbers) :
    (∀ document ∈ documents, (Value.ofJson document).toJson = document.rounded ∧
        ((Value.ofJson document).toJson = document ↔ document.hasNarrowIntegers)) ∧
      ∀ (function : AggregateFunction) (field : String), function = .min ∨ function = .max →
        (∃ document ∈ documents, document.hasValueAt (wireKeys field)) →
        ∃ document ∈ documents, ∃ stored, document.lookup? (wireKeys field) = some stored ∧
          stored.isNull = false ∧
          function.aggregate field documents = .ok (.scalar stored.rounded) ∧
          (stored.rounded = stored ↔ stored.hasNarrowIntegers) := by
  refine ⟨fun document member => ?_, fun function field extremal present => ?_⟩
  · have same := Value.toJson_ofJson document (numbers document member)
    exact ⟨same, same ▸ document.rounded_eq_iff⟩
  · obtain ⟨document, member, stored, there, counts, result⟩ :=
      aggregate_eq_rounded extremal numbers present
    exact ⟨document, member, stored, there, counts, result, stored.rounded_eq_iff⟩

/-- A value comes back as its document has it, with floats that are integers and its keys in order. -/
theorem toJson_ofJson_eq_rounded_nested :
    let stored : Json := .object [("b", .integer 2), ("a", .float (.ofInt 2))]
    let document : Json := .object [("age", stored)]
    (Value.ofJson document).toJson = document ∧
      AggregateFunction.max.aggregate "age" [document] = .ok (.scalar stored) := by
  intro stored document
  have numbers : ∀ other ∈ [document], other.hasWrittenNumbers := by
    simp only [List.forall_mem_singleton]
    decide +kernel
  have kept : document.lookup? (wireKeys "age") = some stored := by rfl
  have present : document.hasValueAt (wireKeys "age") := by decide +kernel
  obtain ⟨whole, extremes⟩ := toJson_ofJson_eq_rounded numbers
  obtain ⟨_, member, other, found, _, result, narrow⟩ :=
    extremes .max "age" (.inr rfl) ⟨document, .head _, present⟩
  rw [List.mem_singleton.mp member, kept, Option.some.injEq] at found
  subst other
  exact ⟨(whole document (.head _)).2.mpr rfl, by rw [result, narrow.mpr rfl]⟩

/-- An integer of 64 bits without a sign comes back as a float, and then no document holds the greatest value. -/
theorem toJson_ofJson_wide :
    let wide : Json := .integer 9223372036854775808
    let document : Json := .object [("age", wide)]
    document.hasWrittenNumbers ∧
      (Value.ofJson wide).toJson = .float (.ofInt 9223372036854775808) ∧
      (Value.ofJson wide).toJson ≠ wide ∧
      AggregateFunction.max.aggregate "age" [document] =
        .ok (.scalar (.float (.ofInt 9223372036854775808))) := by
  intro wide document
  have rounded : (Value.ofJson wide).toJson = .float (.ofInt 9223372036854775808) :=
    Value.toJson_ofJson wide (by decide +kernel)
  have value : fieldValues "age" [document] = [Value.ofJson wide] := by rfl
  have greatest : AggregateFunction.max.aggregate "age" [document] =
      .ok (.scalar (Value.ofJson wide).toJson) := by
    rw [AggregateFunction.aggregate, value]
    rfl
  exact ⟨by decide +kernel, rounded, by rw [rounded]; exact nofun, by rw [greatest, rounded]⟩

end DocQuery
