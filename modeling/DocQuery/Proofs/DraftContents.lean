import Mathlib.Data.List.Induction
import DocQuery.Proofs.DocumentTrees
import DocQuery.Proofs.RequestedDocuments

/-! What a draft says of the steps that it is made from, whichever they are: which keys they give to the
request and in which order, the fields to sort by, the documents to skip, the clauses of the filters, and
for every option the value that was set last. -/

namespace DocQuery

namespace Step

variable (naming : FieldNaming)

/-- The key of a request that a step gives a value. -/
def requestKey? : Step → Option String
  | .filter _ => some "selector"
  | .orderBy .. | .thenBy .. => some "sort"
  | .skip _ => some "skip"
  | .take _ => some "limit"
  | .project _ => some "fields"
  | .useBookmark _ => some "bookmark"
  | .readQuorum _ => some "r"
  | .skipIndexUpdate => some "update"
  | .fromStable => some "stable"
  | .useIndex _ => some "use_index"
  | .includeExecutionStats => some "execution_stats"
  | .includeConflicts => some "conflicts"
  | .any _ | .all _ | .element .. | .aggregate .. | .reduce _ => none

/-- The key and the value of a step that by itself says what its key means. -/
def option? : Step → Option (String × Json)
  | .project fields =>
    some ("fields", .array (fields.map fun field => .string (naming.resolve field)))
  | .useBookmark bookmark => some ("bookmark", .string bookmark)
  | .readQuorum quorum => some ("r", .ofNat quorum)
  | .skipIndexUpdate => some ("update", .bool false)
  | .fromStable => some ("stable", .bool true)
  | .useIndex [design] => some ("use_index", .string design)
  | .useIndex [design, name] => some ("use_index", .array [.string design, .string name])
  | .includeExecutionStats => some ("execution_stats", .bool true)
  | .includeConflicts => some ("conflicts", .bool true)
  | _ => none

/-- The value that a step sets for a key. -/
def optionAt? (key : String) (step : Step) : Option Json :=
  (step.option? naming).bind fun (name, value) => if name = key then some value else none

/-- The field that a step sorts by, and its direction. -/
def ordering? : Step → Option (String × SortOrder)
  | .orderBy field order | .thenBy field order => some (naming.resolve field, order)
  | _ => none

/-- What a step makes of the fields to sort by. -/
def orderings (fields : List (String × SortOrder)) : Step → List (String × SortOrder)
  | .orderBy field order => [(naming.resolve field, order)]
  | .thenBy field order => fields ++ [(naming.resolve field, order)]
  | _ => fields

def condition? : Step → Option Expression
  | .filter predicate => some predicate
  | _ => none

def isTake : Step → Bool
  | .take _ => true
  | _ => false

end Step

/-- The fields to sort by after steps. -/
def orderingsAfter (naming : FieldNaming) (steps : List Step) : List (String × SortOrder) :=
  steps.foldl (fun fields step => step.orderings naming fields) []

section Orderings

variable {naming : FieldNaming} {before after : List Step} {field : FieldPath} {order : SortOrder}

theorem foldl_orderings (later : after.any Step.isOrderBy = false) (fields : List (String × SortOrder)) :
    after.foldl (fun fields step => step.orderings naming fields) fields =
      fields ++ after.filterMap (·.ordering? naming) := by
  induction after generalizing fields with
  | nil => simp
  | cons step rest ih =>
    obtain ⟨own, later⟩ := Bool.or_eq_false_iff.mp later
    rw [List.foldl_cons, ih later]
    cases step with
    | orderBy => cases own
    | thenBy => simp [Step.orderings, Step.ordering?]
    | _ => rfl

/-- Only the last `orderBy` counts, and what is added to it. -/
theorem orderingsAfter_orderBy (later : after.any Step.isOrderBy = false) :
    orderingsAfter naming (before ++ .orderBy field order :: after) =
      (Step.orderBy field order :: after).filterMap (·.ordering? naming) := by
  rw [orderingsAfter, List.foldl_append, List.foldl_cons, foldl_orderings later]
  rfl

theorem exists_last_orderBy {steps : List Step} (ordered : steps.any Step.isOrderBy) :
    ∃ before field order after, steps = before ++ .orderBy field order :: after ∧
      after.any Step.isOrderBy = false := by
  induction steps with
  | nil => cases ordered
  | cons step rest ih =>
    cases later : rest.any Step.isOrderBy with
    | true =>
      obtain ⟨before, field, order, after, rfl, last⟩ := ih later
      exact ⟨step :: before, field, order, after, rfl, last⟩
    | false =>
      rw [List.any_cons, later, Bool.or_false] at ordered
      cases step with
      | orderBy field order => exact ⟨[], field, order, rest, rfl, later⟩
      | _ => cases ordered

end Orderings

/-- The keys of the parts of a draft. They get their values at the end. -/
def partKeys : List String := ["selector", "sort", "skip", "limit"]

namespace RequestDraft

variable {naming : FieldNaming} {draft next : RequestDraft} {step : Step} {steps : List Step}

/-- What a step does to a draft: it adds to one of the parts, or it sets an option. -/
inductive Grows (naming : FieldNaming) (draft : RequestDraft) : Step → RequestDraft → Prop where
  | filter {predicate clause} (made : predicate.selector naming = .ok clause) :
      Grows naming draft (.filter predicate)
        ((draft.reserve "selector").withClauses (draft.clauses ++ [clause]))
  | orderBy {field order} :
      Grows naming draft (.orderBy field order)
        { draft.reserve "sort" with sort := [(naming.resolve field, order)] }
  | thenBy {field order} (sorted : draft.sort ≠ []) :
      Grows naming draft (.thenBy field order)
        { draft with sort := draft.sort ++ [(naming.resolve field, order)] }
  | skip {count} : Grows naming draft (.skip count) (draft.addSkip count)
  | take {count} : Grows naming draft (.take count) (draft.addLimit count)
  | option {step key value} (sets : step.option? naming = some (key, value)) :
      Grows naming draft step (draft.put key value)

theorem grows_of_addStep (added : draft.addStep naming step = .ok next) :
    Grows naming draft step next := by
  cases step with
  | filter predicate =>
    obtain ⟨_, clause, made, rfl⟩ := addFilter_eq_ok.mp added
    exact .filter made
  | orderBy field order =>
    obtain ⟨_, _, made⟩ := bind_eq_ok.mp added
    cases made
    exact .orderBy
  | thenBy field order =>
    obtain ⟨_, _, made⟩ := bind_eq_ok.mp added
    split at made
    · cases made
    next sorted =>
      cases made
      exact .thenBy (by simpa using sorted)
  | skip count =>
    cases added
    exact .skip
  | take count =>
    cases added
    exact .take
  | useIndex index =>
    match index with
    | [design] | [design, name] =>
      cases added
      exact .option rfl
    | [] | _ :: _ :: _ :: _ => cases added
  | project | useBookmark | readQuorum | skipIndexUpdate | fromStable | includeExecutionStats
  | includeConflicts =>
    cases added
    exact .option rfl
  | any | all | element | aggregate | reduce => cases added

end RequestDraft

/-- A step that sets an option does nothing else. -/
structure Step.OnlySets (naming : FieldNaming) (step : Step) (key : String) (value : Json) : Prop where
  named : step.requestKey? = some key
  apart : key ∉ partKeys
  proper : value ≠ .null
  paging : step.isPaging = false
  limit : step.isTake = false
  condition : step.condition? = none
  ordered : step.isOrderBy = false
  orderings : ∀ fields, step.orderings naming fields = fields

theorem Step.onlySets {naming : FieldNaming} {step : Step} {key : String} {value : Json}
    (sets : step.option? naming = some (key, value)) : step.OnlySets naming key value := by
  unfold option? at sets
  split at sets <;> cases sets <;> exact ⟨rfl, by decide, nofun, rfl, rfl, rfl, rfl, fun _ => rfl⟩

theorem Step.optionAt?_of_sets {naming : FieldNaming} {step : Step} {key : String} {value : Json}
    (sets : step.option? naming = some (key, value)) (other : String) :
    step.optionAt? naming other = if key = other then some value else none := by
  rw [optionAt?, sets]
  rfl

/-- Keys with one key more, if it is a new one. -/
def withKey (keys : List String) (key : String) : List String :=
  if key ∈ keys then keys else keys ++ [key]

theorem eraseDups_append_toList (keys : List String) (key? : Option String) :
    (keys ++ key?.toList).eraseDups = key?.toList.foldl withKey keys.eraseDups := by
  cases key? with
  | none => simp
  | some key =>
    rw [List.eraseDups_append]
    by_cases known : key ∈ keys <;> simp [withKey, List.removeAll, List.eraseDups_cons, known]

theorem Entries.contains_iff {α : Type} (entries : Entries α) (key : String) :
    entries.contains key ↔ key ∈ entries.map Prod.fst := by
  induction entries with
  | nil => simp [Entries.contains]
  | cons entry rest ih =>
    obtain ⟨name, value⟩ := entry
    by_cases same : name = key
    · simp [Entries.contains, Entries.get?, same]
    · simpa [Entries.contains, Entries.get?, same, Ne.symm same] using ih

theorem filterMap_append_singleton {α β : Type} (choose : α → Option β) (items : List α) (last : α) :
    (items ++ [last]).filterMap choose = items.filterMap choose ++ (choose last).toList := by
  cases chosen : choose last <;> simp [chosen]

theorem orderingsAfter_append (naming : FieldNaming) (steps : List Step) (step : Step) :
    orderingsAfter naming (steps ++ [step]) = step.orderings naming (orderingsAfter naming steps) := by
  simp [orderingsAfter]

theorem mem_requestKeys_of_sorted {naming : FieldNaming} {steps : List Step}
    (sorted : orderingsAfter naming steps ≠ []) : "sort" ∈ steps.filterMap Step.requestKey? := by
  induction steps using List.reverseRecOn with
  | nil => exact absurd rfl sorted
  | append_singleton steps step ih =>
    rw [orderingsAfter_append] at sorted
    rw [filterMap_append_singleton, List.mem_append]
    cases step with
    | orderBy | thenBy => exact .inr (List.mem_singleton_self _)
    | _ => exact .inl (ih sorted)

namespace RequestDraft

variable {naming : FieldNaming} {draft next : RequestDraft} {step : Step} {steps : List Step}

theorem keys_put (draft : RequestDraft) (key : String) (value : Json) :
    (draft.put key value).body.map Prod.fst = withKey (draft.body.map Prod.fst) key :=
  Entries.map_fst_insert key value draft.body

theorem keys_reserve (draft : RequestDraft) (key : String) :
    (draft.reserve key).body.map Prod.fst = withKey (draft.body.map Prod.fst) key := by
  unfold reserve
  split
  next known => exact (if_pos ((Entries.contains_iff draft.body key).mp known)).symm
  next => exact draft.keys_put key .null

namespace Grows

variable (grows : Grows naming draft step next)
include grows

theorem paginated_eq : next.paginated = (draft.paginated || step.isPaging) := by
  cases grows with
  | option sets => simp [put, (Step.onlySets sets).paging]
  | skip | take => simp [addSkip, addLimit, Step.isPaging]
  | filter | orderBy | thenBy => simp [Step.isPaging]

theorem sort_eq : next.sort = step.orderings naming draft.sort := by
  cases grows with
  | option sets => simp [put, (Step.onlySets sets).orderings]
  | skip | take => simp [addSkip, addLimit, Step.orderings]
  | filter | orderBy | thenBy => simp [Step.orderings]

theorem isEmpty_sort_eq : next.sort.isEmpty = (draft.sort.isEmpty && !step.isOrderBy) := by
  cases grows with
  | option sets => simp [put, (Step.onlySets sets).ordered]
  | thenBy sorted =>
    rw [List.isEmpty_eq_false_iff.mpr sorted]
    exact List.isEmpty_eq_false_iff.mpr (by simp)
  | skip | take => simp [addSkip, addLimit, Step.isOrderBy]
  | filter | orderBy => simp [Step.isOrderBy]

theorem isSome_limit_eq : next.limit.isSome = (draft.limit.isSome || step.isTake) := by
  cases grows with
  | option sets => simp [put, (Step.onlySets sets).limit]
  | skip | take => simp [addSkip, addLimit, Step.isTake]
  | filter | orderBy | thenBy => simp [Step.isTake]

theorem clauses_eq : ∃ added, step.condition?.toList.mapM (·.selector naming) = .ok added ∧
    next.clauses = draft.clauses ++ added := by
  cases grows with
  | @filter predicate clause made => exact ⟨[clause], by simp [Step.condition?, made], by simp⟩
  | option sets => exact ⟨[], by simp [(Step.onlySets sets).condition], by simp [put]⟩
  | skip | take => exact ⟨[], rfl, by simp [addSkip, addLimit]⟩
  | orderBy | thenBy => exact ⟨[], rfl, by simp⟩

/-- Fields to sort by are placed when the first of them is given. -/
theorem keys_eq (placed : draft.sort ≠ [] → "sort" ∈ draft.body.map Prod.fst) :
    next.body.map Prod.fst = step.requestKey?.toList.foldl withKey (draft.body.map Prod.fst) := by
  cases grows with
  | filter => exact draft.keys_reserve "selector"
  | orderBy => exact draft.keys_reserve "sort"
  | thenBy sorted => exact (if_pos (placed sorted)).symm
  | skip => exact draft.keys_reserve "skip"
  | take => exact draft.keys_reserve "limit"
  | @option step key value sets =>
    rw [(Step.onlySets sets).named]
    exact draft.keys_put key value

theorem get?_eq {key : String} (apart : key ∉ partKeys) :
    next.body.get? key = (step.optionAt? naming key).or (draft.body.get? key) := by
  have other {part : String} (among : part ∈ partKeys) :
      (draft.reserve part).body.get? key = draft.body.get? key :=
    get?_reserve draft part fun same => apart (same ▸ among)
  cases grows with
  | filter => exact other (by decide)
  | orderBy => exact other (by decide)
  | thenBy => rfl
  | skip => exact other (by decide)
  | take => exact other (by decide)
  | @option step name value sets =>
    rw [get?_put, Step.optionAt?_of_sets sets]
    split <;> rfl

end Grows

/-- What a draft says of the steps that it is made from. -/
structure Records (naming : FieldNaming) (steps : List Step) (draft : RequestDraft) : Prop where
  paginated : draft.paginated = steps.any Step.isPaging
  sort : draft.sort = orderingsAfter naming steps
  sorted : draft.sort.isEmpty = !steps.any Step.isOrderBy
  limit : draft.limit.isSome = steps.any Step.isTake
  clauses : (steps.filterMap Step.condition?).mapM (·.selector naming) = .ok draft.clauses
  keys : draft.body.map Prod.fst = (steps.filterMap Step.requestKey?).eraseDups
  options : ∀ key ∉ partKeys,
    draft.body.get? key = steps.reverse.findSome? (·.optionAt? naming key)

theorem records_empty : empty.Records naming [] :=
  ⟨rfl, rfl, rfl, rfl, rfl, rfl, fun _ _ => rfl⟩

theorem Records.addStep (records : draft.Records naming steps)
    (added : draft.addStep naming step = .ok next) : next.Records naming (steps ++ [step]) where
  paginated := by
    simp [(grows_of_addStep added).paginated_eq, records.paginated]
  sort := by
    rw [(grows_of_addStep added).sort_eq, records.sort, orderingsAfter_append]
  sorted := by
    simp [(grows_of_addStep added).isEmpty_sort_eq, records.sorted]
  limit := by
    simp [(grows_of_addStep added).isSome_limit_eq, records.limit]
  clauses := by
    obtain ⟨own, made, grown⟩ := (grows_of_addStep added).clauses_eq
    rw [filterMap_append_singleton, List.mapM_append, records.clauses, made, grown]
    rfl
  keys := by
    have placed : draft.sort ≠ [] → "sort" ∈ draft.body.map Prod.fst := by
      rw [records.sort, records.keys, List.mem_eraseDups]
      exact mem_requestKeys_of_sorted
    rw [(grows_of_addStep added).keys_eq placed, records.keys, filterMap_append_singleton,
      eraseDups_append_toList]
  options key apart := by
    rw [(grows_of_addStep added).get?_eq apart, records.options key apart, List.reverse_append]
    cases set : step.optionAt? naming key <;> simp [set]

/-- A draft is made from steps by taking in one after the other. -/
theorem ofChain_append (steps : List Step) (step : Step) :
    ofChain naming (steps ++ [step]).reverse =
      ofChain naming steps.reverse >>= (·.addStep naming step) := by
  rw [List.reverse_append]
  rfl

theorem records_ofChain (drafted : ofChain naming steps.reverse = .ok draft) :
    draft.Records naming steps := by
  induction steps using List.reverseRecOn generalizing draft with
  | nil =>
    cases drafted
    exact records_empty
  | append_singleton steps step ih =>
    rw [ofChain_append] at drafted
    obtain ⟨before, ofSteps, added⟩ := bind_eq_ok.mp drafted
    exact (ih ofSteps).addStep added

end RequestDraft
end DocQuery
