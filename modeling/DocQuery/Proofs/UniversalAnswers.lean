import DocQuery.Proofs.CompositeExpansion
import DocQuery.Proofs.NegatedPredicates
import DocQuery.Proofs.RequestedDocuments
import DocQuery.Proofs.SplitExecution
import DocQuery.Proofs.StandardCompilation

/-! Whether a predicate holds of all documents is asked by looking for a document of which its
negation holds. This is the same question as far as the negation is exact. A document without a flag
that the predicate asks for is no document of the negation, and goes unnoticed. -/

namespace DocQuery

namespace Expression

variable {naming : FieldNaming} {predicate : Expression} {document : Json}

/-- A document is one of the negation if it is none of the predicate. -/
theorem holds_negate
    (answers : ∃ held, predicate.normalize.holds naming (.ofJson document) = .ok held)
    (settled : predicate.NegatesExactly (.ofDocument naming (.ofJson document))) :
    predicate.negate.normalize.holds naming (.ofJson document) =
      .ok (!predicate.accepts naming document) := by
  obtain ⟨held, holds⟩ := answers
  have opposite : predicate.negate.normalize.holds naming (.ofJson document) = .ok (!held) :=
    (test_negate predicate settled).trans (congrArg (Except.map (!·)) holds)
  rw [opposite, accepts, holds]

theorem Selectable.accepts_negate (selectable : Selectable naming .document predicate)
    (identity : (document.get? "_id").isSome)
    (settled : predicate.NegatesExactly (.ofDocument naming (.ofJson document))) :
    predicate.negate.accepts naming document = !predicate.accepts naming document := by
  rw [accepts, holds_negate ⟨_, selectable.holds_eq identity⟩ settled]

end Expression

theorem isEmpty_filter_not {α : Type} (keep : α → Bool) (items : List α) :
    (items.filter fun item => !keep item).isEmpty = items.all keep := by
  induction items with
  | nil => rfl
  | cons item rest ih => cases held : keep item <;> simp [held, ih]

/-- A request for the first documents of a predicate. -/
theorem docs_matching {naming : FieldNaming} {predicate : Expression} {count : Nat}
    (selectable : Expression.Selectable naming .document predicate) (word : count < natBound64) :
    ∃ request, FindRequest.ofChain naming none [.take count, .filter predicate] = .ok request ∧
      ∀ warning documents, (∀ document ∈ documents, (document.get? "_id").isSome) →
        (request.answer warning documents).map FindResponse.docs =
          .ok ((documents.filter (predicate.accepts naming)).take count) := by
  obtain ⟨clause, translated, admits⟩ := selectable.selector_eq
  have drafted : RequestDraft.ofChain naming [.filter predicate] =
      .ok ((RequestDraft.empty.reserve "selector").withClauses [clause]) := by
    change RequestDraft.empty.addFilter naming predicate = _
    exact RequestDraft.addFilter_eq_ok.mpr ⟨rfl, clause, translated, rfl⟩
  have limited : RequestDraft.ofChain naming [.take count, .filter predicate] =
      .ok (((RequestDraft.empty.reserve "selector").withClauses [clause]).addLimit count) := by
    rw [RequestDraft.ofChain, drafted]
    rfl
  refine ⟨_, by rw [FindRequest.ofChain, limited]; rfl, ?_⟩
  intro warning documents identities
  have matched : keepItems (Json.admitsEvery [clause]) documents =
      .ok (documents.filter (predicate.accepts naming)) :=
    keepItems_of_answers fun document member =>
      (Json.admitsEvery_singleton document clause).trans (admits document (identities document member))
  have unpaged : ∀ step ∈ [Step.filter predicate], step.isUnpaged :=
    List.forall_mem_cons.mpr ⟨rfl, List.forall_mem_nil _⟩
  refine (FindRequest.docs_limited unpaged word drafted rfl warning documents).trans ?_
  refine (congrArg _ matched).trans ?_
  have unsorted : sortKeysAfter naming [.filter predicate] = [] := rfl
  have unshaped : shaped naming [.filter predicate] = id := rfl
  rw [map_ok, unshaped, List.map_id, unsorted, sortDocuments_nil]

variable {naming : FieldNaming} {predicate folded : Expression} {documents : List Json}

theorem runSteps_all
    (answers : ∀ document ∈ documents,
      ∃ held, predicate.normalize.holds naming (.ofJson document) = .ok held)
    (settled : ∀ document ∈ documents,
      predicate.NegatesExactly (.ofDocument naming (.ofJson document))) :
    runSteps naming [.all predicate] documents =
      .ok (.boolean (documents.all (predicate.accepts naming))) := by
  have kept : keepMatching naming predicate.negate documents =
      .ok (documents.filter fun document => !predicate.accepts naming document) :=
    keepItems_of_answers fun document member =>
      Expression.holds_negate (answers document member) (settled document member)
  rw [Execution.runSteps_singleton rfl, Step.apply, kept, ok_bind, isEmpty_filter_not]
  rfl

theorem Compiler.compile_all (naming : FieldNaming) (folds : predicate.fold = .ok folded) :
    compile ⟨naming, .standard, none⟩ (.ofSteps [.all predicate]) =
      (FindRequest.ofChain naming none [.take 1, .filter folded.negate]).map
        fun request => ⟨request, [.reduce .notAny]⟩ := by
  have ofLast : (Step.all predicate).fold = .ok (.all folded) := by
    simp [Step.fold, folds]
  have ofEarlier : ([] : List Step).reverse.mapM Step.fold = .ok [] := rfl
  have expands : Plan.expandComposites .standard [.all folded] =
      .ok ([.reduce .notAny].reverse ++ [.take 1, .filter folded.negate]) := rfl
  exact compile_append ofLast ofEarlier expands
    (List.forall_mem_cons.mpr ⟨rfl, List.forall_mem_cons.mpr ⟨rfl, List.forall_mem_nil _⟩⟩)
    (List.forall_mem_cons.mpr ⟨rfl, List.forall_mem_nil _⟩) rfl

/-- Whether a predicate holds of all documents, where its negation is exact. The answer of a server
that has all operations is that of the client on all documents. -/
theorem execute_all (naming : FieldNaming) (store : Store) (database : String)
    (answers : ∀ document ∈ documents,
      ∃ held, predicate.normalize.holds naming (.ofJson document) = .ok held)
    (settled : ∀ document ∈ documents,
      predicate.NegatesExactly (.ofDocument naming (.ofJson document)))
    (ready : store.failure = none) (held : store.databases.get? database = some documents) :
    runSteps naming [.all predicate] documents =
        .ok (.boolean (documents.all (predicate.accepts naming))) ∧
      ((Step.filter predicate).isPortable naming →
        (∀ document ∈ documents, (document.get? "_id").isSome) →
          (Compiler.execute ⟨naming, .standard, none⟩ store database
              (.ofSteps [.all predicate])).1.map QueryResult.output =
            .ok (.boolean (documents.all (predicate.accepts naming)))) := by
  refine ⟨runSteps_all answers settled, fun portable identities => ?_⟩
  obtain ⟨selectable⟩ := Step.keepsRows_of_isPortable portable
  obtain ⟨folded, folds, foldable, same⟩ := selectable.accepts_fold
  obtain ⟨request, requested, found⟩ := docs_matching foldable.negate (by decide : 1 < natBound64)
  have opposite : documents.filter (folded.negate.accepts naming) =
      documents.filter fun document => !predicate.accepts naming document :=
    List.filter_congr fun document member => by
      have identity := identities document member
      rw [foldable.accepts_negate identity
        (selectable.negatesExactly_fold folds (settled document member)), same document identity]
  rw [Compiler.output_execute _ _ ready held, Compiler.compile_all naming folds, requested, map_ok,
    ok_bind, found _ _ identities, ok_bind, opposite, Execution.runSteps_singleton rfl]
  simp only [Step.apply, Reducer.apply, isEmpty_take_one, isEmpty_filter_not]

/-- Whoever is known to be a Jedi or not to be one can be asked about. -/
theorem execute_all_jedi :
    let naming := FieldNaming.ofCase .unchanged
    let predicate : Expression := .binary (.connective .and) (.field ⟨["isJedi"]⟩ .boolean)
      (.binary (.comparison .gt) (.field ⟨["age"]⟩ .value) (.literal (.int 20)))
    let documents : List Json :=
      [.object [("_id", .string "a"), ("isJedi", .bool true), ("age", .integer 53)],
        .object [("_id", .string "b"), ("isJedi", .bool false)]]
    let store := Store.empty.withDatabase "people" documents
    runSteps naming [.all predicate] documents =
        .ok (.boolean (documents.all (predicate.accepts naming))) ∧
      (Compiler.execute ⟨naming, .standard, none⟩ store "people"
          (.ofSteps [.all predicate])).1.map QueryResult.output =
        .ok (.boolean (documents.all (predicate.accepts naming))) := by
  intro naming predicate documents store
  have answers : ∀ document ∈ documents,
      ∃ held, predicate.normalize.holds naming (.ofJson document) = .ok held := by
    simp only [documents, List.forall_mem_cons]
    exact ⟨⟨true, rfl⟩, ⟨false, rfl⟩, nofun⟩
  have settled : ∀ document ∈ documents,
      predicate.NegatesExactly (.ofDocument naming (.ofJson document)) := by
    simp only [documents, List.forall_mem_cons]
    refine ⟨⟨fun found reads => ⟨true, ?_⟩, trivial⟩, ⟨fun found reads => ⟨false, ?_⟩, trivial⟩, nofun⟩ <;>
      exact (Except.ok.inj reads).symm
  obtain ⟨direct, executed⟩ := execute_all naming store "people" answers settled rfl rfl
  exact ⟨direct, executed (by decide) (by decide)⟩

/-- Nothing is known of someone, who is no Jedi then, and yet all are said to be. -/
theorem execute_all_unflagged :
    let naming := FieldNaming.ofCase .unchanged
    let predicate : Expression := .field ⟨["isJedi"]⟩ .boolean
    let document : Json := .object [("_id", .string "a")]
    let store := Store.empty.withDatabase "people" [document]
    runSteps naming [.all predicate] [document] = .ok (.boolean true) ∧
      (Compiler.execute ⟨naming, .standard, none⟩ store "people"
        (.ofSteps [.all predicate])).1.map QueryResult.output = .ok (.boolean true) ∧
      predicate.normalize.holds naming (.ofJson document) = .ok false :=
  ⟨rfl, rfl, rfl⟩

end DocQuery
