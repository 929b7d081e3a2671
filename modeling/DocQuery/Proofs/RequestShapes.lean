import DocQuery.Proofs.AcceptedRequests
import DocQuery.Proofs.ObjectSelectors
import DocQuery.Proofs.OptimizedRows
import DocQuery.Proofs.SingleRequests
import DocQuery.Proofs.SplitExecution

/-! What the request of a chain looks like. Its keys stand where the steps first give them, and the values
that a draft leaves open are all there in the end. -/

namespace DocQuery

/-- A request that says what steps say, key by key. -/
structure FindRequest.IsShapedBy (naming : FieldNaming) (discriminator : Option String)
    (steps : List Step) (request : FindRequest) : Prop where
  keys : request.body.map Prod.fst =
    (steps.filterMap Step.requestKey?).eraseDups ++
      if steps.any Step.isFilter then [] else ["selector"]
  /-- No key is left without a value. A selector can be null only as an item of a list that a filter compares
  with a field of the conjunction's name. -/
  filled : ∀ key, request.get? key = some .null → key = "selector" ∧
    ∃ predicate ∈ steps.filterMap Step.condition?, ¬predicate.Everywhere (·.NamesNoConjunction naming)
  selector : ∃ clauses, (steps.filterMap Step.condition?).mapM (·.selector naming) = .ok clauses ∧
    request.get? "selector" = some (conjunction
      (discriminator.toList.map (fun name => single discriminatorField (.string name)) ++ clauses))
  sort : ∀ before field order after, steps = before ++ .orderBy field order :: after →
    after.any Step.isOrderBy = false →
    let entries := (Step.orderBy field order :: after).filterMap (·.ordering? naming)
    request.get? "sort" = some (.array (entries.map RequestDraft.sortEntry)) ∧
      ∀ entry ∈ entries, entry.2 = order
  /-- The sum of all counts, as a word holds it: the sum itself, unless that needs more than 64 bits. -/
  skip : ∀ count, .skip count ∈ steps →
    request.get? "skip" = some (.ofNat (skipTotal steps % natBound64)) ∧
      (skipTotal steps < natBound64 → request.get? "skip" = some (.ofNat (skipTotal steps)))
  options : ∀ before step after key value, steps = before ++ step :: after →
    step.option? naming = some (key, value) → (∀ later ∈ after, later.requestKey? ≠ some key) →
    request.get? key = some value

theorem Step.requestKey?_eq_selector (step : Step) :
    step.requestKey? = some "selector" ↔ step.isFilter := by
  cases step <;> simp [requestKey?, isFilter]

theorem Step.requestKey?_eq_limit (step : Step) : step.requestKey? = some "limit" ↔ step.isTake := by
  cases step <;> simp [requestKey?, isTake]

namespace RequestDraft

variable {naming : FieldNaming} {draft full : RequestDraft} {steps : List Step}

theorem keys_finishSkip (draft : RequestDraft) :
    draft.finishSkip.body.map Prod.fst = draft.body.map Prod.fst := by
  unfold finishSkip
  split
  next placed => exact (draft.keys_put _ _).trans (if_pos ((Entries.contains_iff _ _).mp placed))
  next => rfl

theorem keys_finishLimit (placed : draft.limit.isSome → "limit" ∈ draft.body.map Prod.fst) :
    draft.finishLimit.body.map Prod.fst = draft.body.map Prod.fst := by
  unfold finishLimit
  split
  next limited => exact (draft.keys_put _ _).trans (if_pos (placed (by rw [limited]; rfl)))
  next => rfl

theorem keys_complete (completed : draft.complete = .ok full)
    (sorted : draft.sort ≠ [] → "sort" ∈ draft.body.map Prod.fst)
    (limited : draft.limit.isSome → "limit" ∈ draft.body.map Prod.fst) :
    full.body.map Prod.fst = draft.body.map Prod.fst := by
  obtain ⟨middle, made, rfl⟩ := map_eq_ok.mp completed
  have same : middle.body.map Prod.fst = draft.body.map Prod.fst ∧ middle.limit = draft.limit := by
    obtain ⟨_, rfl⟩ | ⟨fields, rfl⟩ := finishSort_eq_ok made
    · exact ⟨rfl, rfl⟩
    · exact ⟨(draft.keys_put _ _).trans (if_pos (sorted fields)), rfl⟩
  rw [keys_finishLimit, keys_finishSkip, same.1]
  rw [keys_finishSkip, finishSkip_limit, same.1, same.2]
  exact limited

theorem get?_complete (completed : draft.complete = .ok full) {key : String} (apart : key ∉ partKeys) :
    full.body.get? key = draft.body.get? key := by
  have other {part : String} (among : part ∈ partKeys) : part ≠ key := fun same => apart (same ▸ among)
  obtain ⟨middle, made, rfl⟩ := map_eq_ok.mp completed
  have skipped : middle.finishSkip.finishLimit.body.get? key = middle.body.get? key := by
    rw [get?_finishLimit, get?_finishSkip, if_neg fun both => other (by decide) both.2]
    split
    · exact if_neg (other (by decide))
    · rfl
  rw [skipped]
  obtain ⟨_, rfl⟩ | ⟨_, rfl⟩ := finishSort_eq_ok made
  · rfl
  · exact (draft.get?_put _ _ _).trans (if_neg (other (by decide)))

section Recorded

variable (records : draft.Records naming steps)
include records

theorem Records.mem_keys_iff {key : String} {gives : Step → Bool}
    (named : ∀ step : Step, step.requestKey? = some key ↔ gives step) :
    key ∈ draft.body.map Prod.fst ↔ steps.any gives := by
  simp [records.keys, List.mem_filterMap, named]

theorem Records.any_isOrderBy (drafted : ofChain naming steps.reverse = .ok draft)
    (placed : "sort" ∈ draft.body.map Prod.fst) : steps.any Step.isOrderBy := by
  rw [records.keys, List.mem_eraseDups] at placed
  obtain ⟨step, among, named⟩ := List.mem_filterMap.mp placed
  obtain ⟨before, after, rfl⟩ := List.append_of_mem among
  have follows := succeeds_ofChain.mp ⟨draft, drafted⟩ before step after rfl
  cases step with
  | orderBy => simp [Step.isOrderBy]
  | thenBy => simp [follows.2]
  | _ => simp [Step.requestKey?] at named

theorem Records.get?_of_last {before after : List Step} {step : Step} {key : String} {value : Json}
    (split : steps = before ++ step :: after) (sets : step.option? naming = some (key, value))
    (latest : ∀ later ∈ after, later.requestKey? ≠ some key) :
    draft.body.get? key = some value := by
  have unset : after.reverse.findSome? (·.optionAt? naming key) = none := by
    refine List.findSome?_eq_none_iff.mpr fun later among => ?_
    cases given : later.option? naming with
    | none => simp [Step.optionAt?, given]
    | some option =>
      obtain ⟨name, other⟩ := option
      rw [Step.optionAt?_of_sets given, if_neg]
      rintro rfl
      exact latest later (List.mem_reverse.mp among) (Step.onlySets given).named
  rw [records.options key (Step.onlySets sets).apart, split, List.reverse_append, List.reverse_cons,
    List.append_assoc, List.findSome?_append, unset, Option.none_or]
  simp [Step.optionAt?_of_sets sets]

theorem Records.option_proper {key : String} (apart : key ∉ partKeys) :
    draft.body.get? key ≠ some .null := by
  intro bare
  rw [records.options key apart] at bare
  obtain ⟨step, _, sets⟩ := List.exists_of_findSome?_eq_some bare
  obtain ⟨⟨name, value⟩, given, chosen⟩ := Option.bind_eq_some_iff.mp sets
  obtain ⟨_, same⟩ := Option.ite_none_right_eq_some.mp chosen
  exact (Step.onlySets given).proper (Option.some.inj same)

theorem Records.keys_full (completed : draft.complete = .ok full) :
    full.body.map Prod.fst = draft.body.map Prod.fst := by
  refine keys_complete completed (fun sorted => ?_) fun limited => ?_
  · rw [records.keys, List.mem_eraseDups]
    exact mem_requestKeys_of_sorted (records.sort ▸ sorted)
  · rw [records.mem_keys_iff Step.requestKey?_eq_limit, ← records.limit]
    exact limited

/-- The parts of a draft that have a place get a value when it is completed. -/
theorem Records.filled (drafted : ofChain naming steps.reverse = .ok draft)
    (completed : draft.complete = .ok full) {key : String} (other : key ≠ "selector") :
    full.body.get? key ≠ some .null := by
  have completes := RequestDraft.completes completed
  have absent {key : String} (unplaced : key ∉ draft.body.map Prod.fst) :
      draft.body.get? key ≠ some .null := by
    rw [Option.not_isSome_iff_eq_none.mp fun there => unplaced ((Entries.contains_iff _ _).mp there)]
    exact nofun
  by_cases part : key ∈ partKeys
  · simp only [partKeys, List.mem_cons, List.not_mem_nil, or_false] at part
    obtain rfl | rfl | rfl | rfl := part
    · exact absurd rfl other
    · rw [completes.sort]
      split
      next unsorted =>
        refine absent fun placed => ?_
        simpa [unsorted, records.any_isOrderBy drafted placed] using records.sorted
      next => exact nofun
    · rw [completes.skip]
      split
      next => exact nofun
      next unplaced => exact absent fun placed => unplaced ((Entries.contains_iff _ _).mpr placed)
    · rw [completes.limit]
      split
      next => exact nofun
      next unlimited =>
        refine absent fun placed => ?_
        have taken := (records.mem_keys_iff Step.requestKey?_eq_limit).mp placed
        rw [← records.limit, unlimited] at taken
        cases taken
  · rw [get?_complete completed part]
    exact records.option_proper part

end Recorded

theorem joinsObjects_of_clauses {predicates : List Expression} {clauses : List Json}
    (made : predicates.mapM (·.selector naming) = .ok clauses)
    (other : ∀ predicate ∈ predicates, predicate.Everywhere (·.NamesNoConjunction naming)) :
    ∀ clause ∈ clauses, clause.JoinsObjects := by
  intro clause among
  obtain ⟨predicate, there, own⟩ := exists_of_mem_mapM made among
  exact Expression.joinsObjects_of_selector own (other predicate there)

theorem joinsObjects_selectorClauses (discriminator : Option String)
    (joins : ∀ clause ∈ draft.clauses, clause.JoinsObjects) :
    ∀ clause ∈ draft.selectorClauses discriminator, clause.JoinsObjects := by
  cases discriminator with
  | none => exact joins
  | some name => exact List.forall_mem_cons.mpr ⟨Json.joinsObjects_single (.inr nofun), joins⟩

end RequestDraft
namespace FindRequest

variable {naming : FieldNaming} {discriminator : Option String} {steps : List Step}
  {request : FindRequest}

end FindRequest
end DocQuery
