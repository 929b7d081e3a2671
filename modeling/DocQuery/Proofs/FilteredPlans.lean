import DocQuery.Proofs.ExecutionStates
import DocQuery.Proofs.PortableFolding
import DocQuery.Proofs.RequestedDocuments
import DocQuery.Proofs.StandardCompilation

/-! Plans that end in a filter. What the filter finds is what the steps before it find and the filter
keeps, sorted and shaped by these steps; the first document of it is what a plan that ends in the first
match gives. -/

namespace DocQuery

variable {naming : FieldNaming} {chain input : List Step} {predicate folded : Expression}
  {documents : List Json}

namespace Step

theorem native_of_isUnpaged {step : Step} (unpaged : step.isUnpaged) :
    step.kind.standardClass = .native := by
  cases step with
  | filter | skip | take | project => rfl
  | orderBy _ order | thenBy _ order => cases order <;> rfl
  | _ => cases unpaged

/-- Folding changes filters only. -/
theorem fold_of_isUnpaged {step changed : Step} (unpaged : step.isUnpaged)
    (folds : step.fold = .ok changed) :
    (∃ predicate folded, step = .filter predicate ∧ changed = .filter folded ∧
      predicate.fold = .ok folded) ∨ changed = step ∧ ∀ predicate, step ≠ .filter predicate := by
  cases step with
  | filter predicate =>
    obtain ⟨folded, made, same⟩ := bind_eq_ok.mp folds
    exact Or.inl ⟨predicate, folded, rfl, (Except.ok.inj same).symm, made⟩
  | orderBy | thenBy | skip | take | project =>
    exact Or.inr ⟨(Except.ok.inj folds).symm, nofun⟩
  | _ => cases unpaged

end Step

/-- A chain whose filters are those of another one, folded. -/
structure FoldedFilters (naming : FieldNaming) (chain input : List Step) : Prop where
  unpaged : ∀ step ∈ input, step.isUnpaged
  sortKeys : sortKeysAfter naming input = sortKeysAfter naming chain
  projection : lastProjection? input = lastProjection? chain
  filters : ∀ folded, .filter folded ∈ input →
    ∃ predicate, .filter predicate ∈ chain ∧ predicate.fold = .ok folded

theorem foldedFilters (naming : FieldNaming) (unpaged : ∀ step ∈ chain, step.isUnpaged)
    (folds : chain.mapM Step.fold = .ok input) : FoldedFilters naming chain input := by
  induction chain generalizing input with
  | nil =>
    cases folds
    exact ⟨nofun, rfl, rfl, nofun⟩
  | cons step rest ih =>
    obtain ⟨own, others⟩ := List.forall_mem_cons.mp unpaged
    rw [List.mapM_cons] at folds
    obtain ⟨changed, first, further⟩ := bind_eq_ok.mp folds
    obtain ⟨remaining, later, made⟩ := bind_eq_ok.mp further
    cases made
    have before := ih others later
    have earlier : ∀ folded, .filter folded ∈ remaining →
        ∃ predicate, .filter predicate ∈ step :: rest ∧ predicate.fold = .ok folded :=
      fun folded member =>
        let ⟨predicate, among, made⟩ := before.filters folded member
        ⟨predicate, List.mem_cons_of_mem step among, made⟩
    obtain ⟨predicate, other, rfl, rfl, made⟩ | ⟨rfl, apart⟩ := Step.fold_of_isUnpaged own first
    · refine ⟨List.forall_mem_cons.mpr ⟨rfl, before.unpaged⟩, before.sortKeys, before.projection, ?_⟩
      intro folded member
      obtain same | member := List.mem_cons.mp member
      · cases same
        exact ⟨predicate, List.mem_cons_self, made⟩
      · exact earlier folded member
    · refine ⟨List.forall_mem_cons.mpr ⟨own, before.unpaged⟩, ?_, ?_, ?_⟩
      · rw [sortKeysAfter_cons, sortKeysAfter_cons, before.sortKeys]
      · cases changed <;> first | exact before.projection | rfl
      · intro folded member
        obtain same | member := List.mem_cons.mp member
        · exact absurd same.symm (apart folded)
        · exact earlier folded member

/-- What is known of a plan that ends in a filter and compiles: the request for the steps before the
filter, and the clause of the filter. -/
structure EndsInFilter (naming : FieldNaming) (earlier : List Step) (predicate : Expression)
    (input : List Step) (folded : Expression) (draft : RequestDraft) (clause : Json) : Prop where
  chain : FoldedFilters naming earlier.reverse input
  foldsEarlier : earlier.reverse.mapM Step.fold = .ok input
  folds : predicate.fold = .ok folded
  selectable : Expression.Selectable naming .document folded
  drafted : RequestDraft.ofChain naming input = .ok draft
  unpaginated : draft.paginated = false
  translated : folded.selector naming = .ok clause
  uniform : ∀ first ∈ draft.sort.head?, draft.sort.all (·.2 == first.2)

theorem FindRequest.exists_ofChain {draft : RequestDraft} (discriminator : Option String)
    (drafted : RequestDraft.ofChain naming chain = .ok draft)
    (uniform : ∀ first ∈ draft.sort.head?, draft.sort.all (·.2 == first.2)) :
    ∃ request, draft.finish discriminator = .ok request ∧
      FindRequest.ofChain naming discriminator chain = .ok request := by
  obtain ⟨request, finished⟩ := RequestDraft.exists_finish.mpr uniform
  refine ⟨request, finished, ?_⟩
  rw [FindRequest.ofChain, drafted]
  exact finished

/-- The clauses of portable filters always have an answer. -/
theorem RequestDraft.admitsEvery_ofChain {draft : RequestDraft}
    (unpaged : ∀ step ∈ chain, step.isUnpaged)
    (portable : ∀ predicate, .filter predicate ∈ chain → predicate.isPortable naming)
    (drafted : ofChain naming chain = .ok draft) {document : Json}
    (identity : (document.get? "_id").isSome) :
    ∃ held, Json.admitsEvery draft.clauses document = .ok held := by
  induction chain generalizing draft with
  | nil =>
    cases drafted
    exact ⟨true, rfl⟩
  | cons step rest ih =>
    obtain ⟨before, ofRest, added⟩ := bind_eq_ok.mp drafted
    obtain ⟨own, others⟩ := List.forall_mem_cons.mp unpaged
    obtain ⟨held, answer⟩ := ih others
      (fun predicate member => portable predicate (List.mem_cons_of_mem step member)) ofRest
    cases step with
    | filter predicate =>
      obtain ⟨_, clause, translated, rfl⟩ := addFilter_eq_ok.mp added
      have selectable := Expression.selectable_of_selector (portable predicate List.mem_cons_self) translated
      obtain ⟨same, equal, admits⟩ := selectable.selector_eq
      cases translated.symm.trans equal
      refine ⟨held && predicate.accepts naming document, ?_⟩
      rw [withClauses_clauses, Json.admitsEvery_append, Json.admitsEvery_singleton,
        admits document identity, answer]
      cases held <;> rfl
    | orderBy field order =>
      obtain ⟨_, _, made⟩ := bind_eq_ok.mp added
      cases made
      exact ⟨held, by simpa using answer⟩
    | thenBy field order =>
      obtain ⟨_, _, made⟩ := bind_eq_ok.mp added
      split at made <;> cases made
      exact ⟨held, answer⟩
    | project fields =>
      cases added
      exact ⟨held, answer⟩
    | skip | take => simp [Step.isUnpaged, Step.isPaging] at own
    | _ => cases own

section Compiled

variable {earlier : List Step} (folds : predicate.fold = .ok folded)
  (foldsEarlier : earlier.reverse.mapM Step.fold = .ok input) (unpaged : ∀ step ∈ input, step.isUnpaged)
include folds foldsEarlier unpaged

theorem compile_filter :
    Compiler.compile ⟨naming, .standard, none⟩ (.ofSteps (earlier ++ [.filter predicate])) =
      (FindRequest.ofChain naming none (.filter folded :: input)).map
        fun request => ⟨request, []⟩ := by
  have native : ∀ step ∈ .filter folded :: input, step.kind.standardClass = .native :=
    List.forall_mem_cons.mpr ⟨rfl, fun step member => Step.native_of_isUnpaged (unpaged step member)⟩
  have ofLast : (Step.filter predicate).fold = .ok (.filter folded) := by
    simp [Step.fold, folds]
  exact Compiler.compile_append ofLast foldsEarlier (Plan.expandComposites_native native) native
    (List.forall_mem_nil _) rfl

/-- The first match is fetched. -/
theorem compile_first :
    Compiler.compile ⟨naming, .standard, none⟩
        (.ofSteps (earlier ++ [.element .firstOrDefault (some predicate)])) =
      (FindRequest.ofChain naming none (.take 1 :: .filter folded :: input)).map
        fun request => ⟨request, [.reduce (.element .firstOrDefault)]⟩ := by
  have native : ∀ step ∈ input, step.kind.standardClass = .native :=
    fun step member => Step.native_of_isUnpaged (unpaged step member)
  have ofLast : (Step.element .firstOrDefault (some predicate)).fold =
      .ok (.element .firstOrDefault (some folded)) := by
    simp [Step.fold, folds]
  have expands : Plan.expandComposites .standard (.element .firstOrDefault (some folded) :: input) =
      .ok (.reduce (.element .firstOrDefault) :: .take 1 :: .filter folded :: input) := by
    rw [Plan.expandComposites, Plan.expandComposites_native native]
    rfl
  exact Compiler.compile_append ofLast foldsEarlier expands
    (List.forall_mem_cons.mpr ⟨rfl, List.forall_mem_cons.mpr ⟨rfl, native⟩⟩)
    (List.forall_mem_cons.mpr ⟨rfl, List.forall_mem_nil _⟩) rfl

end Compiled

theorem exists_endsInFilter {earlier : List Step} {compiled : CompiledQuery}
    (unpaged : ∀ step ∈ earlier, step.isUnpaged) (portable : predicate.isPortable naming)
    (written : predicate.isWritten)
    (accepted : Compiler.compile ⟨naming, .standard, none⟩ (.ofSteps (earlier ++ [.filter predicate])) =
      .ok compiled) :
    ∃ input folded draft clause,
      EndsInFilter naming earlier predicate input folded draft clause := by
  obtain ⟨plan, foldsPlan, _⟩ := bind_eq_ok.mp accepted
  rw [Plan.fold_ofSteps_append] at foldsPlan
  obtain ⟨changed, ofLast, further⟩ := bind_eq_ok.mp foldsPlan
  obtain ⟨folded, folds, rfl⟩ := map_eq_ok.mp ofLast
  obtain ⟨input, foldsEarlier, _⟩ := map_eq_ok.mp further
  have reversed : ∀ step ∈ earlier.reverse, step.isUnpaged := by simpa using unpaged
  have filters := foldedFilters naming reversed foldsEarlier
  have compiles : (FindRequest.ofChain naming none (.filter folded :: input)).map
      (fun request => CompiledQuery.mk request []) = .ok compiled :=
    (compile_filter folds foldsEarlier filters.unpaged).symm.trans accepted
  obtain ⟨request, requested, _⟩ := map_eq_ok.mp compiles
  obtain ⟨full, ofChain, finished⟩ := bind_eq_ok.mp requested
  obtain ⟨draft, drafted, added⟩ := bind_eq_ok.mp ofChain
  obtain ⟨unpaginated, clause, translated, rfl⟩ := RequestDraft.addFilter_eq_ok.mp added
  have selectable := Expression.selectable_of_selector
    (Expression.isPortable_fold predicate portable written folds) translated
  have uniform := RequestDraft.exists_finish.mp ⟨request, finished⟩
  rw [RequestDraft.withClauses_sort, RequestDraft.reserve_sort] at uniform
  exact ⟨input, folded, draft, clause, filters, foldsEarlier, folds, selectable, drafted, unpaginated,
    translated, uniform⟩

namespace EndsInFilter

variable {earlier : List Step} {draft : RequestDraft} {clause : Json} {store : Store}
  {database : String}

/-- The draft of the filter. -/
theorem drafted_filter (ends : EndsInFilter naming earlier predicate input folded draft clause) :
    RequestDraft.ofChain naming (.filter folded :: input) =
      .ok ((draft.reserve "selector").withClauses (draft.clauses ++ [clause])) := by
  rw [RequestDraft.ofChain, ends.drafted]
  exact RequestDraft.addFilter_eq_ok.mpr ⟨ends.unpaginated, clause, ends.translated, rfl⟩

/-- The clause of the filter admits what the filter keeps. -/
theorem keepItems_clause (ends : EndsInFilter naming earlier predicate input folded draft clause)
    (identities : ∀ document ∈ documents, (document.get? "_id").isSome) :
    keepItems (Json.admitsEvery (draft.clauses ++ [clause])) documents =
      (keepItems (Json.admitsEvery draft.clauses) documents).map
        (·.filter (folded.accepts naming)) := by
  obtain ⟨same, equal, admits⟩ := ends.selectable.selector_eq
  cases ends.translated.symm.trans equal
  refine keepItems_both fun document member => ?_
  rw [Json.admitsEvery_append, Json.admitsEvery_singleton,
    admits document (identities document member)]

/-- The documents that a plan finds which ends in a filter. -/
def found (naming : FieldNaming) (input : List Step) (folded : Expression) (draft : RequestDraft)
    (documents : List Json) : Except Error (List Json) :=
  (keepItems (Json.admitsEvery draft.clauses) documents).map fun matched =>
    (sortDocuments (sortKeysAfter naming input) (matched.filter (folded.accepts naming))).map
      (shaped naming input)

theorem output_filter (ends : EndsInFilter naming earlier predicate input folded draft clause)
    (identities : ∀ document ∈ documents, (document.get? "_id").isSome)
    (ready : store.failure = none) (held : store.databases.get? database = some documents) :
    (Compiler.execute ⟨naming, .standard, none⟩ store database
        (.ofSteps (earlier ++ [.filter predicate]))).1.map QueryResult.output =
      (found naming input folded draft documents).map .documents := by
  have unpaged : ∀ step ∈ .filter folded :: input, step.isUnpaged :=
    List.forall_mem_cons.mpr ⟨rfl, ends.chain.unpaged⟩
  obtain ⟨request, finished, requested⟩ :=
    FindRequest.exists_ofChain none ends.drafted_filter (by simpa using ends.uniform)
  rw [Compiler.output_execute _ _ ready held,
    compile_filter ends.folds ends.foldsEarlier ends.chain.unpaged, requested, map_ok, ok_bind,
    FindRequest.docs_unpaged unpaged ends.drafted_filter finished,
    RequestDraft.selectorClauses, RequestDraft.withClauses_clauses, ends.keepItems_clause identities, found]
  cases keepItems (Json.admitsEvery draft.clauses) documents <;> rfl

theorem select_firstOrDefault (items : List Json) :
    ElementKind.firstOrDefault.select items = .ok (.document items.head?) := by
  cases items <;> rfl

theorem output_first (ends : EndsInFilter naming earlier predicate input folded draft clause)
    (identities : ∀ document ∈ documents, (document.get? "_id").isSome)
    (ready : store.failure = none) (held : store.databases.get? database = some documents) :
    (Compiler.execute ⟨naming, .standard, none⟩ store database
        (.ofSteps (earlier ++ [.element .firstOrDefault (some predicate)]))).1.map QueryResult.output =
      (found naming input folded draft documents).map fun items => .document items.head? := by
  have unpaged : ∀ step ∈ .filter folded :: input, step.isUnpaged :=
    List.forall_mem_cons.mpr ⟨rfl, ends.chain.unpaged⟩
  have limited : RequestDraft.ofChain naming (.take 1 :: .filter folded :: input) =
      .ok (((draft.reserve "selector").withClauses (draft.clauses ++ [clause])).addLimit 1) := by
    rw [RequestDraft.ofChain, ends.drafted_filter]
    rfl
  obtain ⟨request, finished, requested⟩ :=
    FindRequest.exists_ofChain none limited (by simpa [RequestDraft.addLimit] using ends.uniform)
  rw [Compiler.output_execute _ _ ready held,
    compile_first ends.folds ends.foldsEarlier ends.chain.unpaged, requested, map_ok, ok_bind,
    FindRequest.docs_limited unpaged (by decide) ends.drafted_filter finished,
    RequestDraft.selectorClauses, RequestDraft.withClauses_clauses, ends.keepItems_clause identities, found]
  cases keepItems (Json.admitsEvery draft.clauses) documents with
  | error failure => rfl
  | ok matched =>
    rw [map_ok, map_ok, ok_bind, Execution.runSteps_singleton rfl, map_ok]
    have head : ∀ items : List Json, ((items.take 1).map (shaped naming input)).head? =
        (items.map (shaped naming input)).head? := fun items => by cases items <;> rfl
    refine (select_firstOrDefault _).trans ?_
    exact congrArg (fun found => Except.ok (Output.document found)) (head _)

/-- If the filters before the last one are portable nothing fails. -/
theorem exists_found (ends : EndsInFilter naming earlier predicate input folded draft clause)
    (portable : ∀ other, .filter other ∈ earlier → other.isPortable naming ∧ other.isWritten)
    (identities : ∀ document ∈ documents, (document.get? "_id").isSome) :
    ∃ items, found naming input folded draft documents = .ok items := by
  have filters : ∀ other, .filter other ∈ input → other.isPortable naming := by
    intro other member
    obtain ⟨whole, among, folds⟩ := ends.chain.filters other member
    obtain ⟨plain, written⟩ := portable whole (List.mem_reverse.mp among)
    exact Expression.isPortable_fold whole plain written folds
  have answers : ∀ document ∈ documents, ∃ held, Json.admitsEvery draft.clauses document = .ok held :=
    fun document member => RequestDraft.admitsEvery_ofChain ends.chain.unpaged filters ends.drafted
      (identities document member)
  obtain ⟨matched, matching⟩ := keepItems_answers answers
  rw [found, matching]
  exact ⟨_, rfl⟩

end EndsInFilter
end DocQuery
