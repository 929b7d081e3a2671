import DocQuery.Proofs.Comparisons
import DocQuery.Proofs.DocumentValues
import DocQuery.Value.Collation

/-! Collation can be read in both directions, and it orders the values without floats. A float would
break the chain: far apart integers can both equal the same float. -/

namespace DocQuery.Value

theorem compareFloats_swap (a b : Binary64) : (compareFloats a b).swap = compareFloats b a := by
  simp only [compareFloats, Binary64.compare?, Bool.or_comm b.isNaN]
  split
  · rfl
  · simp [@Std.OrientedCmp.eq_swap _ compare _ b.units]

mutual

theorem collate_swap (a b : Value) : (collate a b).swap = collate b a := by
  match a with
  | .null | .bool _ | .int _ | .float _ | .string _ =>
    cases b <;> simp only [collate, compareFloats_swap, ← Std.OrientedOrd.eq_swap]
  | .list items =>
    cases b with
    | list others => simpa only [collate] using collateItems_swap items others
    | _ => simp only [collate, ← Std.OrientedOrd.eq_swap]
  | .map entries =>
    cases b with
    | map others => simpa only [collate] using collateEntries_swap entries others
    | _ => simp only [collate, ← Std.OrientedOrd.eq_swap]
termination_by structural a

theorem collateItems_swap (as bs : List Value) :
    (collateItems as bs).swap = collateItems bs as := by
  match as, bs with
  | [], [] | [], _ :: _ | _ :: _, [] => rfl
  | a :: as, b :: bs =>
    simp only [collateItems, Ordering.swap_then, collate_swap a b, collateItems_swap as bs]
termination_by structural as

theorem collateEntries_swap (as bs : List (String × Value)) :
    (collateEntries as bs).swap = collateEntries bs as := by
  match as, bs with
  | [], [] | [], _ :: _ | _ :: _, [] => rfl
  | (key, a) :: as, (other, b) :: bs =>
    simp only [collateEntries, Ordering.swap_then, collate_swap a b, collateEntries_swap as bs,
      ← Std.OrientedOrd.eq_swap]
termination_by structural as

end

mutual

def isFloatFree : Value → Bool
  | .float _ => false
  | .list items => areFloatFree items
  | .map entries => entriesAreFloatFree entries
  | _ => true
termination_by structural value => value

def areFloatFree : List Value → Bool
  | [] => true
  | item :: rest => item.isFloatFree && areFloatFree rest
termination_by structural items => items

def entriesAreFloatFree : List (String × Value) → Bool
  | [] => true
  | (_, value) :: rest => value.isFloatFree && entriesAreFloatFree rest
termination_by structural entries => entries

end

/-- Where two types differ their ranks decide, whatever the values are. -/
theorem collate_of_rank_ne {a b : Value} (apart : a.rank ≠ b.rank) :
    collate a b = compare a.rank b.rank := by
  cases a <;> cases b <;> first | exact absurd rfl apart | rfl

theorem rank_le_of_isLE {a b : Value} (low : (collate a b).isLE) : a.rank ≤ b.rank := by
  by_cases same : a.rank = b.rank
  · exact Nat.le_of_eq same
  · rw [collate_of_rank_ne same] at low
    exact Nat.isLE_compare.mp low

private theorem chained_of_rank_ne {a b c : Value} (apart : a.rank ≠ b.rank ∨ b.rank ≠ c.rank) :
    Chained (collate a b) (collate b c) (collate a c) := by
  intro low high
  have first := rank_le_of_isLE low
  have second := rank_le_of_isLE high
  have whole : collate a c = .lt := by
    rw [collate_of_rank_ne (by omega)]
    exact Nat.compare_eq_lt.mpr (by omega)
  rw [whole, eq_comm, Ordering.then_eq_lt]
  by_cases here : a.rank = b.rank
  · have below : collate b c = .lt := by
      rw [collate_of_rank_ne (by omega)]
      exact Nat.compare_eq_lt.mpr (by omega)
    cases ordering : collate a b <;> simp_all
  · left
    rw [collate_of_rank_ne here]
    exact Nat.compare_eq_lt.mpr (by omega)

mutual

theorem collate_chain (a b c : Value) (first : a.isFloatFree) (second : b.isFloatFree)
    (third : c.isFloatFree) : Chained (collate a b) (collate b c) (collate a c) := by
  by_cases apart : a.rank ≠ b.rank ∨ b.rank ≠ c.rank
  · exact chained_of_rank_ne apart
  · obtain ⟨here, there⟩ : a.rank = b.rank ∧ b.rank = c.rank := by omega
    match a with
    | .null =>
      cases b with
      | null =>
        cases c with
        | null => simp [Chained, collate]
        | _ => simp [rank] at there
      | _ => simp [rank] at here
    | .bool x =>
      cases b with
      | bool y =>
        cases c with
        | bool z => simpa only [collate] using chained_compare x y z
        | _ => simp [rank] at there
      | _ => simp [rank] at here
    | .int x =>
      cases b with
      | int y =>
        cases c with
        | int z => simpa only [collate] using chained_compare x.toInt y.toInt z.toInt
        | float _ => simp [isFloatFree] at third
        | _ => simp [rank] at there
      | float _ => simp [isFloatFree] at second
      | _ => simp [rank] at here
    | .string x =>
      cases b with
      | string y =>
        cases c with
        | string z => simpa only [collate] using chained_compare x y z
        | _ => simp [rank] at there
      | _ => simp [rank] at here
    | .list as =>
      cases b with
      | list bs =>
        cases c with
        | list cs => simpa only [collate] using collateItems_chain as bs cs first second third
        | _ => simp [rank] at there
      | _ => simp [rank] at here
    | .map as =>
      cases b with
      | map bs =>
        cases c with
        | map cs => simpa only [collate] using collateEntries_chain as bs cs first second third
        | _ => simp [rank] at there
      | _ => simp [rank] at here
    | .float _ => simp [isFloatFree] at first
termination_by structural a

theorem collateItems_chain (as bs cs : List Value) (first : areFloatFree as)
    (second : areFloatFree bs) (third : areFloatFree cs) :
    Chained (collateItems as bs) (collateItems bs cs) (collateItems as cs) := by
  match as, bs, cs with
  | [], [], [] | [], [], _ :: _ | [], _ :: _, [] | [], _ :: _, _ :: _ | _ :: _, [], []
  | _ :: _, [], _ :: _ | _ :: _, _ :: _, [] => simp [Chained, collateItems]
  | a :: as, b :: bs, c :: cs =>
    simp only [areFloatFree, Bool.and_eq_true] at first second third
    exact (collate_chain a b c first.1 second.1 third.1).then
      (collateItems_chain as bs cs first.2 second.2 third.2)
termination_by structural as

theorem collateEntries_chain (as bs cs : List (String × Value)) (first : entriesAreFloatFree as)
    (second : entriesAreFloatFree bs) (third : entriesAreFloatFree cs) :
    Chained (collateEntries as bs) (collateEntries bs cs) (collateEntries as cs) := by
  match as, bs, cs with
  | [], [], [] | [], [], _ :: _ | [], _ :: _, [] | [], _ :: _, _ :: _ | _ :: _, [], []
  | _ :: _, [], _ :: _ | _ :: _, _ :: _, [] => simp [Chained, collateEntries]
  | (low, a) :: as, (middle, b) :: bs, (high, c) :: cs =>
    simp only [entriesAreFloatFree, Bool.and_eq_true] at first second third
    exact ((chained_compare low middle high).then
      (collate_chain a b c first.1 second.1 third.1)).then
        (collateEntries_chain as bs cs first.2 second.2 third.2)
termination_by structural as

end

theorem collate_orders : Orders collate fun value => value.isFloatFree where
  swap := collate_swap
  chain := collate_chain

theorem collateOptional_orders :
    Orders collateOptional fun found => ∀ value, found = some value → value.isFloatFree where
  swap a b := by
    cases a <;> cases b <;> first | rfl | exact collate_swap _ _
  chain a b c first second third := by
    match a, b, c with
    | none, none, none | none, none, some _ | none, some _, none | none, some _, some _
    | some _, none, none | some _, none, some _ | some _, some _, none =>
      simp [Chained, collateOptional]
    | some a, some b, some c => exact collate_chain a b c (first a rfl) (second b rfl) (third c rfl)

end DocQuery.Value

namespace DocQuery

mutual

/-- Whether every number in a document is an integer of 64 bits. -/
def Json.hasOnlyWords : Json → Bool
  | .integer i => fitsInt64 i
  | .float _ => false
  | .array items => itemsHaveOnlyWords items
  | .object entries => entriesHaveOnlyWords entries
  | _ => true
termination_by structural document => document

def Json.itemsHaveOnlyWords : List Json → Bool
  | [] => true
  | item :: rest => item.hasOnlyWords && itemsHaveOnlyWords rest
termination_by structural items => items

def Json.entriesHaveOnlyWords : List (String × Json) → Bool
  | [] => true
  | (_, value) :: rest => value.hasOnlyWords && entriesHaveOnlyWords rest
termination_by structural entries => entries

end

namespace Json

mutual

theorem isFloatFree_ofJson (document : Json) (words : document.hasOnlyWords) :
    (Value.ofJson document).isFloatFree :=
  match document with
  | .null | .bool _ | .string _ => rfl
  | .integer i => by
    have fits : fitsInt64 i = true := words
    simp [Value.ofJson, fits, Value.isFloatFree]
  | .array items => areFloatFree_ofItems items words
  | .object entries => entriesAreFloatFree_ofEntries entries words
termination_by structural document

theorem areFloatFree_ofItems (items : List Json) (words : itemsHaveOnlyWords items) :
    Value.areFloatFree (Value.ofItems items) :=
  match items with
  | [] => rfl
  | item :: rest => by
    simp only [itemsHaveOnlyWords, Bool.and_eq_true] at words
    simp [Value.ofItems, Value.areFloatFree, isFloatFree_ofJson item words.1,
      areFloatFree_ofItems rest words.2]
termination_by structural items

theorem entriesAreFloatFree_ofEntries (entries : List (String × Json))
    (words : entriesHaveOnlyWords entries) :
    Value.entriesAreFloatFree (Value.ofEntries entries) :=
  match entries with
  | [] => rfl
  | (key, value) :: rest => by
    simp only [entriesHaveOnlyWords, Bool.and_eq_true] at words
    simp [Value.ofEntries, Value.entriesAreFloatFree, isFloatFree_ofJson value words.1,
      entriesAreFloatFree_ofEntries rest words.2]
termination_by structural entries

end

theorem hasOnlyWords_of_get? {document part : Json} {key : String} (words : document.hasOnlyWords)
    (found : document.get? key = some part) : part.hasOnlyWords := by
  cases document with
  | object entries =>
    have all : entriesHaveOnlyWords entries = true := words
    induction entries with
    | nil => simp [get?] at found
    | cons entry rest ih =>
      obtain ⟨name, value⟩ := entry
      simp only [entriesHaveOnlyWords, Bool.and_eq_true] at all
      by_cases here : name = key
      · simp only [get?, Entries.get?, here, if_true, Option.some.injEq] at found
        exact found ▸ all.1
      · exact ih all.2 (by simpa [get?, Entries.get?, here] using found) all.2
  | _ => simp [get?] at found

theorem hasOnlyWords_of_lookup? {document part : Json} {path : List String}
    (words : document.hasOnlyWords) (found : document.lookup? path = some part) :
    part.hasOnlyWords := by
  induction path generalizing document with
  | nil => exact Option.some.inj found ▸ words
  | cons key rest ih =>
    obtain ⟨child, present, further⟩ := Option.bind_eq_some_iff.mp found
    exact ih (hasOnlyWords_of_get? words present) further

/-- Whether the numbers in the value at the end of a path, if there is one, are all words. -/
def HasWordsAt (path : List String) (document : Json) : Prop :=
  ∀ part, document.lookup? path = some part → part.hasOnlyWords

theorem hasWordsAt_of_hasOnlyWords {document : Json} (words : document.hasOnlyWords)
    (path : List String) : document.HasWordsAt path :=
  fun _ found => hasOnlyWords_of_lookup? words found

end Json

namespace SortKey

/-- Documents are ordered by a field if what they have there has no numbers but words. -/
theorem compare_orders (key : SortKey) : Orders key.compare (Json.HasWordsAt key.path) := by
  have orders := Value.collateOptional_orders.comap fun document : Json =>
    (document.lookup? key.path).map Value.ofJson
  have words := orders.restrict (by
    intro document (words : document.HasWordsAt key.path) value present
    obtain ⟨part, found, rfl⟩ := Option.map_eq_some_iff.mp present
    exact Json.isFloatFree_ofJson part (words part found))
  exact words.directed key.order

/-- What is ordered by each of some fields is ordered by all of them together. -/
theorem compareAll_orders_of_each {Proper : Json → Prop} {keys : List SortKey}
    (each : ∀ key ∈ keys, Orders key.compare Proper) : Orders (compareAll keys) Proper := by
  induction keys with
  | nil => exact .trivial
  | cons key rest ih =>
    obtain ⟨first, others⟩ := List.forall_mem_cons.mp each
    exact first.refine (ih others)

/-- Documents whose numbers are words are ordered by any list of fields. -/
theorem compareAll_orders (keys : List SortKey) :
    Orders (compareAll keys) fun document => document.hasOnlyWords := by
  refine compareAll_orders_of_each fun key _ => ?_
  exact (compare_orders key).restrict fun document words =>
    Json.hasWordsAt_of_hasOnlyWords words key.path

theorem compareAll_append (first second : List SortKey) (a b : Json) :
    compareAll (first ++ second) a b = (compareAll first a b).then (compareAll second a b) := by
  induction first with
  | nil => rfl
  | cons key rest ih => simp [compareAll, ih, Ordering.then_assoc]

end SortKey
end DocQuery
