import DocQuery.Proofs.DraftRows

/-! A store reads from the request of a draft what the draft says: the fields to sort by, the page to
cut out and the paths to keep. So the answer to the request of a chain is what the chain makes of the
documents. -/

namespace DocQuery
namespace RequestDraft

variable {draft full sorted : RequestDraft}

theorem finishSort_eq_ok (finished : draft.finishSort = .ok sorted) :
    (draft.sort = [] ∧ sorted = draft) ∨
      (draft.sort ≠ [] ∧ sorted = draft.put "sort" (.array (draft.sort.map sortEntry))) := by
  unfold finishSort at finished
  split at finished
  next unsorted =>
    cases finished
    exact Or.inl ⟨unsorted, rfl⟩
  next head => 
    split at finished
    · cases finished
      exact Or.inr ⟨by simp [head], rfl⟩
    · cases finished

theorem exists_finishSort : (∃ sorted, draft.finishSort = .ok sorted) ↔
    ∀ first ∈ draft.sort.head?, draft.sort.all (·.2 == first.2) := by
  unfold finishSort
  cases draft.sort with
  | nil => simp
  | cons first rest =>
    obtain ⟨field, order⟩ := first
    by_cases uniform : ((field, order) :: rest).all (·.2 == order)
    · exact iff_of_true ⟨_, if_pos uniform⟩ (by simpa using uniform)
    · refine iff_of_false (fun ⟨_, made⟩ => ?_) (by simpa using uniform)
      cases (if_neg uniform).symm.trans made

/-- Whether there is a request of a draft depends on the fields to sort by alone. -/
theorem exists_finish {discriminator : Option String} :
    (∃ request, draft.finish discriminator = .ok request) ↔
      ∀ first ∈ draft.sort.head?, draft.sort.all (·.2 == first.2) := by
  rw [← exists_finishSort, finish]
  cases draft.finishSort <;> simp

theorem get?_finishSkip (key : String) :
    draft.finishSkip.body.get? key =
      if draft.body.contains "skip" ∧ "skip" = key then some (.ofNat draft.skip.toNat)
      else draft.body.get? key := by
  unfold finishSkip
  cases placed : draft.body.contains "skip" with
  | true => simpa using get?_put draft "skip" key (.ofNat draft.skip.toNat)
  | false => simp

theorem get?_finishLimit (key : String) :
    draft.finishLimit.body.get? key =
      match draft.limit with
      | some limit => if "limit" = key then some (.ofNat limit) else draft.body.get? key
      | none => draft.body.get? key := by
  unfold finishLimit
  cases draft.limit with
  | some limit => exact get?_put draft "limit" key (.ofNat limit)
  | none => rfl

@[simp] theorem finishSkip_limit : draft.finishSkip.limit = draft.limit := by
  unfold finishSkip
  split <;> rfl

@[simp] theorem put_skip (key : String) (value : Json) : (draft.put key value).skip = draft.skip := rfl

@[simp] theorem put_limit (key : String) (value : Json) :
    (draft.put key value).limit = draft.limit := rfl

theorem contains_put {key other : String} (apart : key ≠ other) (value : Json) :
    (draft.put key value).body.contains other = draft.body.contains other := by
  rw [Entries.contains, get?_put, if_neg apart, Entries.contains]

/-- What the body of a complete draft holds under the keys of its parts. -/
structure Completes (draft full : RequestDraft) : Prop where
  sort : full.body.get? "sort" =
    if draft.sort = [] then draft.body.get? "sort" else some (.array (draft.sort.map sortEntry))
  skip : full.body.get? "skip" =
    if draft.body.contains "skip" then some (.ofNat draft.skip.toNat) else draft.body.get? "skip"
  limit : full.body.get? "limit" =
    match draft.limit with
    | some limit => some (.ofNat limit)
    | none => draft.body.get? "limit"
  bookmark : full.body.get? "bookmark" = draft.body.get? "bookmark"
  fields : full.body.get? "fields" = draft.body.get? "fields"

theorem completes (completed : draft.complete = .ok full) : draft.Completes full := by
  obtain ⟨sorted, ordering, rfl⟩ := map_eq_ok.mp completed
  obtain ⟨unsorted, rfl⟩ | ⟨fields, rfl⟩ := finishSort_eq_ok ordering
  · constructor <;> cases limited : sorted.limit <;>
      simp [get?_finishLimit, get?_finishSkip, unsorted, limited]
  · constructor <;> cases limited : draft.limit <;>
      simp [get?_finishLimit, get?_finishSkip, get?_put, contains_put, fields, limited]

/-- The request of a draft has the number of documents to skip if that has a place. -/
theorem Completes.exists_skip (completes : draft.Completes full) :
    ∃ skip : Option Nat, full.body.get? "skip" = skip.map .ofNat ∧
      (skip = some draft.skip.toNat ∨ skip = none ∧ draft.body.get? "skip" = none) := by
  have held := completes.skip
  by_cases placed : draft.body.contains "skip"
  · rw [if_pos placed] at held
    exact ⟨some draft.skip.toNat, held, .inl rfl⟩
  · have absent : draft.body.get? "skip" = none := by simpa [Entries.contains] using placed
    rw [if_neg placed, absent] at held
    exact ⟨none, held, .inr ⟨rfl, absent⟩⟩

theorem Completes.get?_limit (completes : draft.Completes full)
    (placed : draft.limit = none → draft.body.get? "limit" = none) :
    full.body.get? "limit" = draft.limit.map .ofNat := by
  rw [completes.limit]
  cases limited : draft.limit with
  | none => exact placed limited
  | some limit => rfl

variable {naming : FieldNaming} {documents : List Json} {rows : Rows}

theorem read_sortEntries (sort : List (String × SortOrder)) :
    (sort.map sortEntry).mapM SortKey.read =
      .ok (sort.map fun (field, order) => ⟨wireKeys field, order⟩) := by
  induction sort with
  | nil => rfl
  | cons entry rest ih =>
    obtain ⟨field, order⟩ := entry
    have read : SortKey.read (sortEntry (field, order)) = .ok ⟨wireKeys field, order⟩ := by
      cases order <;> rfl
    simp [read, ih]

theorem sortKeys_request (completes : draft.Completes full) (tidy : draft.Tidy)
    (discriminator : Option String) :
    (full.request discriminator).sortKeys = .ok draft.sortKeys := by
  have held : (full.request discriminator).get? "sort" =
      if draft.sort = [] then none else some (.array (draft.sort.map sortEntry)) := by
    rw [get?_request _ _ (by decide), completes.sort]
    split
    · exact tidy.sort ‹_›
    · rfl
  rw [FindRequest.sortKeys, held]
  by_cases unsorted : draft.sort = []
  · simp [unsorted, sortKeys]
  · rw [if_neg unsorted]
    exact read_sortEntries draft.sort

theorem asNat64?_ofNat {count : Nat} (word : count < natBound64) :
    (Json.ofNat count).asNat64? = some count := by
  rw [Json.ofNat, Json.asNat64?, if_pos ⟨by omega, by omega⟩]
  simp

theorem count?_of_some {request : FindRequest} {key : String} {count : Nat}
    (held : request.get? key = some (.ofNat count)) (word : count < natBound64) :
    request.count? key = .ok (some count) := by
  rw [FindRequest.count?, held]
  simp [asNat64?_ofNat word]

theorem count?_of_none {request : FindRequest} {key : String} (held : request.get? key = none) :
    request.count? key = .ok none := by
  rw [FindRequest.count?, held]

theorem count?_of_map {request : FindRequest} {key : String} {count : Option Nat}
    (held : request.get? key = count.map .ofNat) (word : ∀ number ∈ count, number < natBound64) :
    request.count? key = .ok count := by
  cases count with
  | none => exact count?_of_none held
  | some number => exact count?_of_some held (word number rfl)

theorem pageBounds_request (completes : draft.Completes full) (tidy : draft.Tidy)
    (discriminator : Option String) :
    (full.request discriminator).pageBounds = .ok ⟨draft.skip.toNat, draft.limit⟩ := by
  have word := toNat_lt_natBound64 draft.skip
  have start : (full.request discriminator).bookmarkOffset = .ok 0 := by
    rw [FindRequest.bookmarkOffset, get?_request _ _ (by decide), completes.bookmark, tidy.bookmark]
  have skipped : ∃ count, (full.request discriminator).count? "skip" = .ok count ∧
      count.getD 0 = draft.skip.toNat := by
    obtain ⟨skip, held, placed⟩ := completes.exists_skip
    rw [← get?_request full discriminator (by decide)] at held
    obtain rfl | ⟨rfl, absent⟩ := placed
    · exact ⟨_, count?_of_some held word, rfl⟩
    · exact ⟨_, count?_of_none held, by rw [tidy.skip absent]; rfl⟩
  have limited : (full.request discriminator).count? "limit" = .ok draft.limit := by
    have held := completes.get?_limit tidy.limit
    rw [← get?_request full discriminator (by decide)] at held
    exact count?_of_map held tidy.word
  obtain ⟨count, read, same⟩ := skipped
  rw [FindRequest.pageBounds, start, read, limited]
  simp only [ok_bind, pure_eq_ok, same, Nat.zero_add]
  rw [Nat.min_eq_left (by omega)]

/-- The request of a draft finds, sorts and cuts out what the draft says. -/
theorem docs_answer (tidy : draft.Tidy) (completed : draft.complete = .ok full)
    (discriminator warning : Option String) (documents : List Json) :
    ((full.request discriminator).answer warning documents).map FindResponse.docs =
      (keepItems (Json.admitsEvery (draft.selectorClauses discriminator)) documents).map
        fun matched => (full.request discriminator).projected
          (draft.cut (sortDocuments draft.sortKeys matched)) := by
  have completes := RequestDraft.completes completed
  have matching : (full.request discriminator).matching documents =
      keepItems (Json.admitsEvery (draft.selectorClauses discriminator)) documents := by
    rw [FindRequest.matching]
    congr 1
    funext document
    rw [selects_request]
    unfold selectorClauses
    rw [clauses_of_complete completed]
  rw [FindRequest.answer, matching, sortKeys_request completes tidy,
    pageBounds_request completes tidy]
  cases keepItems (Json.admitsEvery (draft.selectorClauses discriminator)) documents <;> rfl

/-- A draft that makes of documents what steps make of them has a request that is answered so. -/
theorem answer_request_eq (serves : draft.Serves documents rows) (tidy : draft.Tidy)
    (completed : draft.complete = .ok full) (proper : (Rows.ofDocuments documents).Proper)
    (warning : Option String) :
    ∃ response, (full.request none).answer warning documents = .ok response ∧
      response.docs = (full.request none).projected rows.documents := by
  obtain ⟨keep, admits, remaining⟩ := serves.found
  have matched : keepItems (Json.admitsEvery draft.clauses) documents = .ok (documents.filter keep) :=
    keepItems_of_answers fun document member => admits document (proper document member)
  have docs := docs_answer tidy completed none warning documents
  rw [selectorClauses, matched, map_ok, ← remaining] at docs
  exact map_eq_ok.mp docs

theorem Serves.put_fields (serves : draft.Serves documents rows) (fields : Json) :
    (draft.put "fields" fields).Serves documents rows :=
  ⟨serves.found, serves.sortKeys, serves.unpaginated⟩

theorem Tidy.put_fields (tidy : draft.Tidy) (fields : Json) : (draft.put "fields" fields).Tidy where
  sort unsorted := (draft.get?_put _ _ fields).trans (tidy.sort unsorted)
  skip absent := tidy.skip ((draft.get?_put _ _ fields).symm.trans absent)
  limit unlimited := (draft.get?_put _ _ fields).trans (tidy.limit unlimited)
  bookmark := (draft.get?_put _ _ fields).trans tidy.bookmark
  word := tidy.word

theorem projected_of_none {request : FindRequest} (held : request.get? "fields" = none)
    (items : List Json) : request.projected items = items := by
  rw [FindRequest.projected, FindRequest.fieldPaths?, held]

theorem projected_of_names {request : FindRequest} {names : List String}
    (held : request.get? "fields" = some (.array (names.map .string))) (items : List Json) :
    request.projected items = items.map (·.project (names.map wireKeys)) := by
  have read : (names.map Json.string).filterMap Json.asString? = names := by
    rw [List.filterMap_map]
    exact List.filterMap_some
  rw [FindRequest.projected, FindRequest.fieldPaths?, held]
  simp only [read]

theorem projected_of_fields {request : FindRequest} {fields : List FieldPath}
    (held : request.get? "fields" =
      some (.array (fields.map fun field => .string (naming.resolve field)))) (items : List Json) :
    request.projected items = (Step.project fields).rows naming [] items := by
  have names : request.get? "fields" = some (.array ((fields.map naming.resolve).map .string)) := by
    rw [held, List.map_map]
    rfl
  rw [projected_of_names names, List.map_map]
  rfl

theorem fields_ofChain {chain : List Step} (keeps : ∀ step ∈ chain, step.KeepsRows naming)
    (drafted : ofChain naming chain = .ok draft) : draft.body.get? "fields" = none := by
  refine ofChain_induction (motive := fun _ draft => draft.body.get? "fields" = none) rfl ?_ keeps
    drafted
  intro step input before next absent added
  cases added <;> simpa (disch := decide) [addSkip, addLimit, get?_reserve] using absent

end RequestDraft

/-- The answer to the request of a chain is what the chain makes of the documents. -/
theorem FindRequest.answer_ofChain {naming : FieldNaming} {chain : List Step} {request : FindRequest}
    {documents : List Json} (isChain : IsRowChain naming chain)
    (proper : (Rows.ofDocuments documents).Proper)
    (single : (chain.filter Step.isOrderBy).length ≤ 1) (word : skipTotal chain < natBound64)
    (translated : FindRequest.ofChain naming none chain = .ok request) (warning : Option String) :
    ∃ response, request.answer warning documents = .ok response ∧
      response.docs = ((Rows.ofDocuments documents).run naming chain).documents := by
  obtain ⟨draft, drafted, finished⟩ := bind_eq_ok.mp translated
  obtain ⟨full, completed, rfl⟩ := RequestDraft.finish_eq_ok.mp finished
  have completes := RequestDraft.completes completed
  cases isChain with
  | body keeps =>
    have serves := RequestDraft.serves_ofChain keeps drafted proper single word
    have tidy := RequestDraft.tidy_ofChain keeps drafted
    obtain ⟨response, answered, docs⟩ :=
      RequestDraft.answer_request_eq serves tidy completed proper warning
    refine ⟨response, answered, docs.trans (RequestDraft.projected_of_none ?_ _)⟩
    rw [full.get?_request none (by decide), completes.fields]
    exact RequestDraft.fields_ofChain keeps drafted
  | @project fields body keeps =>
    obtain ⟨before, ofBody, added⟩ := bind_eq_ok.mp drafted
    cases added
    have serves := RequestDraft.serves_ofChain keeps ofBody proper
      (by simpa [Step.isOrderBy] using single) (by simpa [skipTotal, Step.skipCount] using word)
    have tidy := (RequestDraft.tidy_ofChain keeps ofBody).put_fields
      (.array (fields.map fun field => .string (naming.resolve field)))
    obtain ⟨response, answered, docs⟩ := RequestDraft.answer_request_eq
      (serves.put_fields _) tidy completed proper warning
    refine ⟨response, answered, docs.trans (RequestDraft.projected_of_fields ?_ _)⟩
    rw [full.get?_request none (by decide), completes.fields]
    exact (before.get?_put "fields" "fields" _).trans (if_pos rfl)

end DocQuery
