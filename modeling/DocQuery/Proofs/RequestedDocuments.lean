import DocQuery.Proofs.DraftAnswers

/-! The documents that a request finds. Whatever its filters are, a request sorts by the fields that
its steps sort by, cuts out a page, and of each document keeps what its last projection keeps. -/

namespace DocQuery

namespace Step

/-- Whether a step makes documents of documents, on a server as on a client. -/
def isShared : Step → Bool
  | .filter _ | .orderBy .. | .thenBy .. | .skip _ | .project _ => true
  | .take count => count < natBound64
  | _ => false

/-- Whether a step goes by the place of documents in a list. -/
def isPaging : Step → Bool
  | .skip _ | .take _ => true
  | _ => false

/-- Whether a step makes documents of documents regardless of their place. -/
def isUnpaged (step : Step) : Bool := step.isShared && !step.isPaging

end Step

/-- The fields by which documents are sorted after a chain. -/
def sortKeysAfter (naming : FieldNaming) (chain : List Step) : List SortKey :=
  chain.foldr (fun step keys => step.sortKeys naming keys) []

theorem sortKeysAfter_cons (naming : FieldNaming) (step : Step) (chain : List Step) :
    sortKeysAfter naming (step :: chain) = step.sortKeys naming (sortKeysAfter naming chain) := rfl

/-- What the last projection of a chain keeps, if there is one. -/
def lastProjection? : List Step → Option (List FieldPath)
  | [] => none
  | .project fields :: _ => some fields
  | _ :: input => lastProjection? input

/-- What is left of a document after the projections of a request. -/
def shaped (naming : FieldNaming) (chain : List Step) (document : Json) : Json :=
  match lastProjection? chain with
  | some fields => document.project (fields.map fun field => wireKeys (naming.resolve field))
  | none => document

namespace RequestDraft

variable {naming : FieldNaming} {chain : List Step} {draft next full : RequestDraft}

/-- What a draft says of a chain that it is made from, apart from its filters. -/
structure Describes (naming : FieldNaming) (draft : RequestDraft) (chain : List Step) : Prop where
  tidy : draft.Tidy
  sortKeys : draft.sortKeys = sortKeysAfter naming chain
  whole : chain.all (!·.isPaging) → draft.skip = 0 ∧ draft.limit = none
  fields : draft.body.get? "fields" = (lastProjection? chain).map fun fields =>
    .array (fields.map fun field => .string (naming.resolve field))

theorem describes_empty : empty.Describes naming [] :=
  ⟨tidy_empty, rfl, fun _ => ⟨rfl, rfl⟩, rfl⟩

theorem Tidy.addStep {step : Step} (tidy : draft.Tidy) (shared : step.isShared)
    (added : draft.addStep naming step = .ok next) : next.Tidy := by
  cases step with
  | filter predicate =>
    obtain ⟨_, clause, _, rfl⟩ := addFilter_eq_ok.mp added
    exact tidy.withClauses _
  | orderBy field order => exact tidy.added (added_of_addStep (.orderBy field order) added)
  | thenBy field order => exact tidy.added (added_of_addStep (.thenBy field order) added)
  | skip count => exact tidy.added (added_of_addStep (.skip count) added)
  | take count =>
    have word : count < natBound64 := by simpa [Step.isShared] using shared
    exact tidy.added (added_of_addStep (.take word) added)
  | project fields =>
    cases added
    exact tidy.put_fields _
  | _ => cases shared

theorem Describes.addStep {step : Step} (describes : draft.Describes naming chain)
    (shared : step.isShared) (added : draft.addStep naming step = .ok next) :
    next.Describes naming (step :: chain) := by
  have tidy := describes.tidy.addStep shared added
  have sorted := describes.sortKeys
  cases step with
  | filter predicate =>
    obtain ⟨_, clause, _, rfl⟩ := addFilter_eq_ok.mp added
    refine ⟨tidy, ?_, ?_, ?_⟩
    · simpa [RequestDraft.sortKeys, sortKeysAfter_cons, Step.sortKeys] using sorted
    · simpa [Step.isPaging] using describes.whole
    · simpa (disch := decide) [get?_reserve, lastProjection?] using describes.fields
  | orderBy field order =>
    obtain ⟨_, _, made⟩ := bind_eq_ok.mp added
    cases made
    refine ⟨tidy, rfl, ?_, ?_⟩
    · simpa [Step.isPaging] using describes.whole
    · simpa (disch := decide) [get?_reserve, lastProjection?] using describes.fields
  | thenBy field order =>
    obtain ⟨_, _, made⟩ := bind_eq_ok.mp added
    split at made
    · cases made
    cases made
    refine ⟨tidy, ?_, ?_, describes.fields⟩
    · rw [sortKeysAfter_cons, Step.sortKeys, ← sorted]
      simp [RequestDraft.sortKeys]
    · simpa [Step.isPaging] using describes.whole
  | skip count =>
    cases added
    refine ⟨tidy, ?_, ?_, ?_⟩
    · simpa [RequestDraft.sortKeys, addSkip, sortKeysAfter_cons, Step.sortKeys] using sorted
    · simp [Step.isPaging]
    · simpa (disch := decide) [addSkip, get?_reserve, lastProjection?] using describes.fields
  | take count =>
    cases added
    refine ⟨tidy, ?_, ?_, ?_⟩
    · simpa [RequestDraft.sortKeys, addLimit, sortKeysAfter_cons, Step.sortKeys] using sorted
    · simp [Step.isPaging]
    · simpa (disch := decide) [addLimit, get?_reserve, lastProjection?] using describes.fields
  | project fields =>
    cases added
    refine ⟨tidy, sorted, ?_, (draft.get?_put _ _ _).trans (if_pos rfl)⟩
    · simpa [Step.isPaging] using describes.whole
  | _ => cases shared

theorem describes_ofChain (shared : ∀ step ∈ chain, step.isShared)
    (drafted : ofChain naming chain = .ok draft) : draft.Describes naming chain := by
  induction chain generalizing draft with
  | nil =>
    cases drafted
    exact describes_empty
  | cons step input ih =>
    obtain ⟨before, ofInput, added⟩ := bind_eq_ok.mp drafted
    obtain ⟨own, earlier⟩ := List.forall_mem_cons.mp shared
    exact (ih earlier ofInput).addStep own added

theorem Describes.projected (describes : draft.Describes naming chain)
    (completed : draft.complete = .ok full) (discriminator : Option String) (items : List Json) :
    (full.request discriminator).projected items = items.map (shaped naming chain) := by
  have held : (full.request discriminator).get? "fields" = _ :=
    (full.get?_request discriminator (by decide)).trans
      ((completes completed).fields.trans describes.fields)
  cases last : lastProjection? chain with
  | none =>
    rw [last] at held
    have same : shaped naming chain = id := by
      funext document
      rw [shaped, last]
      rfl
    rw [projected_of_none held, same, List.map_id]
  | some fields =>
    rw [last] at held
    have same : shaped naming chain = fun document =>
        document.project (fields.map fun field => wireKeys (naming.resolve field)) := by
      funext document
      rw [shaped, last]
    rw [projected_of_fields held, same]
    rfl

end RequestDraft

/-- The request of a chain finds the documents that its clauses admit, sorted and shaped by its steps. -/
theorem FindRequest.docs_ofChain {naming : FieldNaming} {chain : List Step} {draft : RequestDraft}
    {discriminator : Option String} {request : FindRequest} (shared : ∀ step ∈ chain, step.isShared)
    (drafted : RequestDraft.ofChain naming chain = .ok draft)
    (finished : draft.finish discriminator = .ok request) (warning : Option String)
    (documents : List Json) :
    (request.answer warning documents).map FindResponse.docs =
      (keepItems (Json.admitsEvery (draft.selectorClauses discriminator)) documents).map
        fun matched => (draft.cut (sortDocuments (sortKeysAfter naming chain) matched)).map
          (shaped naming chain) := by
  have describes := RequestDraft.describes_ofChain shared drafted
  obtain ⟨full, completed, rfl⟩ := RequestDraft.finish_eq_ok.mp finished
  rw [RequestDraft.docs_answer describes.tidy completed]
  simp only [describes.projected completed, describes.sortKeys]

section Unpaged

variable {naming : FieldNaming} {chain : List Step} {draft : RequestDraft}
  {discriminator : Option String} {request : FindRequest}

theorem Step.isShared_of_isUnpaged {step : Step} (unpaged : step.isUnpaged) : step.isShared :=
  (Bool.and_eq_true_iff.mp unpaged).1

/-- Without pages a draft cuts nothing out. -/
theorem RequestDraft.unpaged_ofChain (unpaged : ∀ step ∈ chain, step.isUnpaged)
    (drafted : ofChain naming chain = .ok draft) :
    draft.skip = 0 ∧ draft.limit = none := by
  have describes := describes_ofChain (fun step member => Step.isShared_of_isUnpaged (unpaged step member))
    drafted
  exact describes.whole
    (List.all_eq_true.mpr fun step member => (Bool.and_eq_true_iff.mp (unpaged step member)).2)

/-- Without pages all documents are found that the clauses admit. -/
theorem FindRequest.docs_unpaged (unpaged : ∀ step ∈ chain, step.isUnpaged)
    (drafted : RequestDraft.ofChain naming chain = .ok draft)
    (finished : draft.finish discriminator = .ok request) (warning : Option String)
    (documents : List Json) :
    (request.answer warning documents).map FindResponse.docs =
      (keepItems (Json.admitsEvery (draft.selectorClauses discriminator)) documents).map
        fun matched => (sortDocuments (sortKeysAfter naming chain) matched).map
          (shaped naming chain) := by
  obtain ⟨start, endless⟩ := RequestDraft.unpaged_ofChain unpaged drafted
  have shared : ∀ step ∈ chain, step.isShared := fun step member =>
    Step.isShared_of_isUnpaged (unpaged step member)
  have docs := docs_ofChain shared drafted finished warning documents
  simpa only [RequestDraft.cut_whole start endless] using docs

/-- A single page, and the first one. -/
theorem FindRequest.docs_limited {count : Nat} (unpaged : ∀ step ∈ chain, step.isUnpaged)
    (word : count < natBound64) (drafted : RequestDraft.ofChain naming chain = .ok draft)
    (finished : (draft.addLimit count).finish discriminator = .ok request) (warning : Option String)
    (documents : List Json) :
    (request.answer warning documents).map FindResponse.docs =
      (keepItems (Json.admitsEvery (draft.selectorClauses discriminator)) documents).map
        fun matched => ((sortDocuments (sortKeysAfter naming chain) matched).take count).map
          (shaped naming chain) := by
  obtain ⟨start, endless⟩ := RequestDraft.unpaged_ofChain unpaged drafted
  have shared : ∀ step ∈ .take count :: chain, step.isShared :=
    List.forall_mem_cons.mpr ⟨by simpa [Step.isShared] using word,
      fun step member => Step.isShared_of_isUnpaged (unpaged step member)⟩
  have limited : RequestDraft.ofChain naming (.take count :: chain) = .ok (draft.addLimit count) := by
    rw [RequestDraft.ofChain, drafted]
    rfl
  have docs := docs_ofChain shared limited finished warning documents
  have same : (draft.addLimit count).selectorClauses discriminator =
      draft.selectorClauses discriminator := by
    simp [RequestDraft.selectorClauses, RequestDraft.addLimit]
  simp only [RequestDraft.cut_addLimit, RequestDraft.cut_whole start endless, same] at docs
  exact docs

end Unpaged

end DocQuery
