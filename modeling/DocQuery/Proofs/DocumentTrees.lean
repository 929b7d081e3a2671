import DocQuery.Json.Tree
import DocQuery.Proofs.DocumentValues
import DocQuery.Proofs.RoundedNumbers

/-!
Documents and their trees. The document of a value comes back from its tree if no key stands twice,
and the value then comes back if its numbers are finite; what is read from a tree makes such a value.
Of a record, nothing is read but what is written in it.
-/

namespace DocQuery

namespace Value

mutual

def hasDistinctKeys : Value → Bool
  | .list items => haveDistinctKeys items
  | .map entries => decide (entries.map Prod.fst).Nodup && entriesHaveDistinctKeys entries
  | _ => true
termination_by structural value => value

def haveDistinctKeys : List Value → Bool
  | [] => true
  | item :: rest => item.hasDistinctKeys && haveDistinctKeys rest
termination_by structural items => items

def entriesHaveDistinctKeys : List (String × Value) → Bool
  | [] => true
  | (_, value) :: rest => value.hasDistinctKeys && entriesHaveDistinctKeys rest
termination_by structural entries => entries

end

theorem entriesHaveDistinctKeys_iff {entries : Entries Value} :
    entriesHaveDistinctKeys entries = true ↔ ∀ entry ∈ entries, entry.2.hasDistinctKeys = true := by
  induction entries with
  | nil => simp [entriesHaveDistinctKeys]
  | cons entry rest ih => simp [entriesHaveDistinctKeys, ih]

theorem entriesAreFinite_iff {entries : Entries Value} :
    entriesAreFinite entries = true ↔ ∀ entry ∈ entries, entry.2.isFinite = true := by
  induction entries with
  | nil => simp [entriesAreFinite]
  | cons entry rest ih => simp [entriesAreFinite, ih]

theorem toEntries_eq_map (entries : Entries Value) :
    toEntries entries = entries.map fun entry => (entry.1, entry.2.toJson) := by
  induction entries with
  | nil => rfl
  | cons entry rest ih => simp [toEntries, ih]

theorem ofEntries_eq_map (entries : Entries Json) :
    ofEntries entries = entries.map fun entry => (entry.1, ofJson entry.2) := by
  induction entries with
  | nil => rfl
  | cons entry rest ih => simp [ofEntries, ih]

end Value

namespace Entries

variable {α : Type}

theorem map_fst_insert (key : String) (value : α) (entries : Entries α) :
    (insert key value entries).map Prod.fst =
      if key ∈ entries.map Prod.fst then entries.map Prod.fst else entries.map Prod.fst ++ [key] := by
  induction entries with
  | nil => rfl
  | cons entry rest ih =>
    obtain ⟨name, old⟩ := entry
    by_cases same : name = key
    · simp [insert, same]
    · by_cases later : key ∈ rest.map Prod.fst <;>
        simp_all [insert, Ne.symm same]

theorem insert_of_not_mem {key : String} {value : α} {entries : Entries α}
    (new : key ∉ entries.map Prod.fst) : insert key value entries = entries ++ [(key, value)] := by
  induction entries with
  | nil => rfl
  | cons entry rest ih =>
    simp only [List.map_cons, List.mem_cons, not_or] at new
    simp [insert, Ne.symm new.1, ih new.2]

theorem mem_insert {key : String} {value : α} {entries : Entries α} {entry : String × α}
    (found : entry ∈ insert key value entries) : entry.2 = value ∨ entry ∈ entries := by
  induction entries with
  | nil => simp_all [insert]
  | cons first rest ih =>
    by_cases same : first.1 = key
    · simp only [insert, same, if_true, List.mem_cons] at found
      rcases found with rfl | later
      · exact .inl rfl
      · exact .inr (.tail _ later)
    · simp only [insert, same, if_false, List.mem_cons] at found
      rcases found with rfl | later
      · exact .inr (.head _)
      · exact (ih later).imp_right (.tail _)

theorem mem_of_get? {key : String} {value : α} {entries : Entries α}
    (found : get? entries key = some value) : (key, value) ∈ entries := by
  induction entries with
  | nil => cases found
  | cons entry rest ih =>
    by_cases same : entry.1 = key
    · simp only [get?, same, if_true, Option.some.injEq] at found
      simp [← found, ← same]
    · simp only [get?, same, if_false] at found
      exact .tail _ (ih found)

/-- Entries with keys of their own are kept as they are written. -/
theorem ofList_of_nodup {entries : List (String × α)} (distinct : (entries.map Prod.fst).Nodup) :
    ofList entries = entries := by
  suffices kept : ∀ known : Entries α, ((known ++ entries).map Prod.fst).Nodup →
      entries.foldl (fun known entry => insert entry.1 entry.2 known) known = known ++ entries from
    kept [] distinct
  induction entries with
  | nil => simp
  | cons entry rest ih =>
    intro known different
    have new : entry.1 ∉ known.map Prod.fst := by
      simp only [List.map_append, List.map_cons, List.nodup_append, List.mem_cons] at different
      exact fun among => different.2.2 _ among _ (.inl rfl) rfl
    rw [List.foldl_cons, insert_of_not_mem new, ih (List.nodup_cons.mp distinct).2 _ (by simpa using different)]
    simp

/-- What is read has keys of its own and values that are written. -/
theorem ofList_spec (entries : List (String × α)) :
    ((ofList entries).map Prod.fst).Nodup
      ∧ ∀ entry ∈ ofList entries, ∃ written ∈ entries, entry.2 = written.2 := by
  suffices read : ∀ known : Entries α, (known.map Prod.fst).Nodup →
      ((entries.foldl (fun known entry => insert entry.1 entry.2 known) known).map Prod.fst).Nodup
        ∧ ∀ entry ∈ entries.foldl (fun known entry => insert entry.1 entry.2 known) known,
          entry ∈ known ∨ ∃ written ∈ entries, entry.2 = written.2 by
    have fresh := read [] List.nodup_nil
    exact ⟨fresh.1, fun entry found => (fresh.2 entry found).resolve_left List.not_mem_nil⟩
  induction entries with
  | nil => exact fun known distinct => ⟨distinct, fun entry found => .inl found⟩
  | cons first rest ih =>
    intro known distinct
    have next : ((insert first.1 first.2 known).map Prod.fst).Nodup := by
      rw [map_fst_insert]
      split
      case isTrue => exact distinct
      case isFalse new =>
        rw [List.nodup_append]
        refine ⟨distinct, by simp, ?_⟩
        intro key among other last same
        rw [List.mem_singleton] at last
        exact new (last ▸ same ▸ among)
    obtain ⟨different, origins⟩ := ih _ next
    refine ⟨different, fun entry found => ?_⟩
    rcases origins entry found with among | ⟨written, later, same⟩
    · rcases mem_insert among with same | known
      · exact .inr ⟨first, .head _, same⟩
      · exact .inl known
    · exact .inr ⟨written, .tail _ later, same⟩

end Entries

namespace Json

mutual

theorem ofTree?_toTree (value : Value) (distinct : value.hasDistinctKeys) :
    ofTree? value.toJson.toTree = some value.toJson :=
  match value with
  | .null | .bool _ | .int _ | .string _ => rfl
  | .float x => by
    rw [Value.toJson]
    split <;> rfl
  | .list items => by
    rw [Value.toJson, toTree, ofTree?, itemsOfTrees?_treesOfItems items distinct]
    rfl
  | .map entries => by
    simp only [Value.hasDistinctKeys, Bool.and_eq_true, decide_eq_true_eq] at distinct
    rw [Value.toJson, toTree, ofTree?, entriesOfTrees?_treesOfEntries entries distinct.2]
    rw [Option.map_some, Entries.ofList_of_nodup]
    simpa [Value.toEntries_eq_map, Function.comp_def] using distinct.1
termination_by structural value

theorem itemsOfTrees?_treesOfItems (items : List Value) (distinct : Value.haveDistinctKeys items) :
    itemsOfTrees? (treesOfItems (Value.toItems items)) = some (Value.toItems items) :=
  match items with
  | [] => rfl
  | item :: rest => by
    simp only [Value.haveDistinctKeys, Bool.and_eq_true] at distinct
    simp [Value.toItems, treesOfItems, itemsOfTrees?, ofTree?_toTree item distinct.1,
      itemsOfTrees?_treesOfItems rest distinct.2]
termination_by structural items

theorem entriesOfTrees?_treesOfEntries (entries : List (String × Value))
    (distinct : Value.entriesHaveDistinctKeys entries) :
    entriesOfTrees? (treesOfEntries (Value.toEntries entries)) = some (Value.toEntries entries) :=
  match entries with
  | [] => rfl
  | (key, value) :: rest => by
    simp only [Value.entriesHaveDistinctKeys, Bool.and_eq_true] at distinct
    simp [Value.toEntries, treesOfEntries, entriesOfTrees?, ofTree?_toTree value distinct.1,
      entriesOfTrees?_treesOfEntries rest distinct.2]
termination_by structural entries

end

namespace Tree

mutual

/-- Whether every number in a tree is one that is written in JSON: an integer of 64 bits, with a
sign or without, or a finite number. -/
def hasWrittenNumbers : Tree → Bool
  | .integer i => decide (leastInt64 ≤ i) && decide (i < natBound64)
  | .float x => x.isFinite
  | .array items => haveWrittenNumbers items
  | .object entries => entriesHaveWrittenNumbers entries
  | _ => true
termination_by structural tree => tree

def haveWrittenNumbers : List Tree → Bool
  | [] => true
  | item :: rest => item.hasWrittenNumbers && haveWrittenNumbers rest
termination_by structural items => items

def entriesHaveWrittenNumbers : List (Option String × Tree) → Bool
  | [] => true
  | (_, value) :: rest => value.hasWrittenNumbers && entriesHaveWrittenNumbers rest
termination_by structural entries => entries

end

theorem haveWrittenNumbers_iff {items : List Tree} :
    haveWrittenNumbers items = true ↔ ∀ item ∈ items, item.hasWrittenNumbers = true := by
  induction items with
  | nil => simp [haveWrittenNumbers]
  | cons item rest ih => simp [haveWrittenNumbers, ih]

theorem entriesHaveWrittenNumbers_iff {entries : List (Option String × Tree)} :
    entriesHaveWrittenNumbers entries = true ↔ ∀ entry ∈ entries, entry.2.hasWrittenNumbers = true := by
  induction entries with
  | nil => simp [entriesHaveWrittenNumbers]
  | cons entry rest ih => simp [entriesHaveWrittenNumbers, ih]

end Tree
end Json

namespace Json

mutual

/-- A document that is read makes a value that can be written. -/
theorem writable_of_ofTree? {tree : Tree} {document : Json} (numbers : tree.hasWrittenNumbers)
    (reads : ofTree? tree = some document) :
    (Value.ofJson document).isFinite = true ∧ (Value.ofJson document).hasDistinctKeys = true :=
  match tree with
  | .null | .bool _ | .string _ => by
    cases reads
    exact ⟨rfl, rfl⟩
  | .float x => by
    cases reads
    exact ⟨numbers, rfl⟩
  | .integer i => by
    cases reads
    simp only [Tree.hasWrittenNumbers, Bool.and_eq_true, decide_eq_true_eq] at numbers
    simp only [Value.ofJson]
    split
    · exact ⟨rfl, rfl⟩
    · refine ⟨Binary64.isFinite_ofInt ?_, rfl⟩
      simp only [leastInt64, natBound64] at numbers ⊢
      omega
  | .array items => by
    obtain ⟨documents, read, rfl⟩ := Option.map_eq_some_iff.mp reads
    exact writable_of_itemsOfTrees? numbers read
  | .object entries => by
    obtain ⟨written, read, rfl⟩ := Option.map_eq_some_iff.mp reads
    have writable := writable_of_entriesOfTrees? numbers read
    obtain ⟨distinct, origins⟩ := Entries.ofList_spec written
    have whole : ∀ entry ∈ Entries.ofList written,
        (Value.ofJson entry.2).isFinite = true ∧ (Value.ofJson entry.2).hasDistinctKeys = true := by
      intro entry among
      obtain ⟨source, there, same⟩ := origins entry among
      rw [same]
      exact writable source there
    simp only [Value.ofJson, Value.isFinite, Value.hasDistinctKeys, Value.ofEntries_eq_map,
      Value.entriesAreFinite_iff, Value.entriesHaveDistinctKeys_iff, Bool.and_eq_true,
      decide_eq_true_eq, List.forall_mem_map, List.map_map]
    exact ⟨fun entry among => (whole entry among).1, distinct,
      fun entry among => (whole entry among).2⟩
termination_by structural tree

theorem writable_of_itemsOfTrees? {trees : List Tree} {documents : List Json}
    (numbers : Tree.haveWrittenNumbers trees) (reads : itemsOfTrees? trees = some documents) :
    Value.areFinite (Value.ofItems documents) = true
      ∧ Value.haveDistinctKeys (Value.ofItems documents) = true :=
  match trees with
  | [] => by
    cases reads
    exact ⟨rfl, rfl⟩
  | tree :: rest => by
    simp only [Tree.haveWrittenNumbers, Bool.and_eq_true] at numbers
    obtain ⟨first, head, equal⟩ := Option.bind_eq_some_iff.mp reads
    obtain ⟨others, tail, made⟩ := Option.bind_eq_some_iff.mp equal
    cases made
    have here := writable_of_ofTree? numbers.1 head
    have later := writable_of_itemsOfTrees? numbers.2 tail
    simp [Value.ofItems, Value.areFinite, Value.haveDistinctKeys, here, later]
termination_by structural trees

theorem writable_of_entriesOfTrees? {trees : List (Option String × Tree)} {entries : List (String × Json)}
    (numbers : Tree.entriesHaveWrittenNumbers trees) (reads : entriesOfTrees? trees = some entries) :
    ∀ entry ∈ entries,
      (Value.ofJson entry.2).isFinite = true ∧ (Value.ofJson entry.2).hasDistinctKeys = true :=
  match trees with
  | [] => by
    cases reads
    simp
  | (key, tree) :: rest => by
    simp only [Tree.entriesHaveWrittenNumbers, Bool.and_eq_true] at numbers
    obtain ⟨name, _, equal⟩ := Option.bind_eq_some_iff.mp reads
    obtain ⟨first, head, equal⟩ := Option.bind_eq_some_iff.mp equal
    obtain ⟨others, tail, made⟩ := Option.bind_eq_some_iff.mp equal
    cases made
    rintro entry (_ | ⟨_, later⟩)
    · exact writable_of_ofTree? numbers.1 head
    · exact writable_of_entriesOfTrees? numbers.2 tail entry later
termination_by structural trees

end

variable {α β : Type}

theorem mapM_map_of_forall {read : β → Option α} {write : α → β} {items : List α}
    (back : ∀ item ∈ items, read (write item) = some item) :
    (items.map write).mapM read = some items := by
  induction items with
  | nil => rfl
  | cons item rest ih =>
    have later := ih fun other among => back other (.tail _ among)
    rw [List.map_cons, List.mapM_cons, back item (.head _), later]
    rfl

theorem exists_of_mem_mapM {read : α → Option β} {items : List α} {results : List β} {result : β}
    (reads : items.mapM read = some results) (among : result ∈ results) :
    ∃ item ∈ items, read item = some result := by
  induction items generalizing results with
  | nil =>
    cases reads
    cases among
  | cons item rest ih =>
    rw [List.mapM_cons] at reads
    obtain ⟨first, head, reads⟩ := Option.bind_eq_some_iff.mp reads
    obtain ⟨others, tail, made⟩ := Option.bind_eq_some_iff.mp reads
    cases made
    rcases List.mem_cons.mp among with rfl | later
    · exact ⟨item, .head _, head⟩
    · obtain ⟨source, there, reads⟩ := ih tail later
      exact ⟨source, .tail _ there, reads⟩

theorem Fields.mem_of_get? {fields : Fields α} {name : String} {value : α}
    (found : fields.get? name = some value) : (name, some value) ∈ fields := by
  have listed : List.lookup name fields = some (some value) := Option.join_eq_some_iff.mp found
  obtain ⟨before, after, split, -⟩ := List.lookup_eq_some_iff.mp listed
  rw [split]
  exact List.mem_append_right _ (.head _)

theorem mem_of_fieldsOfEntries? {rules : List (String × FieldRule)} {entries : List (Option String × α)}
    {fields : Fields α} {name : String} {value : α} (reads : fieldsOfEntries? rules entries = some fields)
    (found : fields.get? name = some value) : (some name, value) ∈ entries := by
  obtain ⟨named, names, reads⟩ := Option.bind_eq_some_iff.mp reads
  obtain ⟨⟨known, rule⟩, -, field⟩ := exists_of_mem_mapM reads (Fields.mem_of_get? found)
  have matched : (name, value) ∈ named.filter (·.1 == known) := by
    match shown : named.filter (·.1 == known), rule with
    | [], .optional => simp [shown] at field
    | [], .required => simp [shown] at field
    | [entry], _ =>
      have among : entry ∈ named.filter (·.1 == known) := by simp [shown]
      have same : entry.1 = known := beq_iff_eq.mp (List.mem_filter.mp among).2
      simp only [shown, Option.some.injEq, Prod.mk.injEq] at field
      rw [← field.1, ← field.2]
      simpa [← same] using among
    | _ :: _ :: _, _ => simp [shown] at field
  obtain ⟨⟨key, content⟩, there, named⟩ := exists_of_mem_mapM names (List.mem_filter.mp matched).1
  obtain ⟨_, rfl, made⟩ := Option.map_eq_some_iff.mp named
  cases made
  exact there

theorem mem_of_fieldsOfItems? {rules : List (String × FieldRule)} {items : List α} {fields : Fields α}
    {name : String} {value : α} (reads : fieldsOfItems? rules items = some fields)
    (found : fields.get? name = some value) : value ∈ items := by
  suffices listed : ∀ field ∈ fields, ∀ content ∈ field.2, content ∈ items from
    listed _ (Fields.mem_of_get? found) value rfl
  clear found
  induction rules, items using fieldsOfItems?.induct generalizing fields with
  | case1 =>
    cases reads
    simp
  | case2 => cases reads
  | case3 name rules ih =>
    obtain ⟨rest, read, rfl⟩ := Option.map_eq_some_iff.mp reads
    simpa using ih read
  | case4 => cases reads
  | case5 name rule rules item items ih =>
    have next : (fieldsOfItems? rules items).map ((name, some item) :: ·) = some fields := by
      cases rule <;> exact reads
    obtain ⟨rest, read, rfl⟩ := Option.map_eq_some_iff.mp next
    intro field among content holds
    rcases List.mem_cons.mp among with rfl | later
    · cases holds
      exact .head _
    · exact .tail _ (ih read field later content holds)

end Json
end DocQuery
