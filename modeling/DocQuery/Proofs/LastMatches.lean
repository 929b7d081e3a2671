import DocQuery.Proofs.FilteredPlans
import DocQuery.Proofs.ProjectedDocuments
import DocQuery.Proofs.ReadFields
import DocQuery.Proofs.SplitExecution
import Mathlib.Algebra.Group.Int.Defs

/-! The last document of which a predicate holds. A server cannot be asked for it, so the client tests
what the request for all documents finds: documents that are sorted and shaped already. It finds the
last one that the server would have found by itself if the predicate still reads in them what it reads
in the whole documents, and if sorting them first makes no difference. -/

namespace DocQuery

variable {naming : FieldNaming} {chain input : List Step} {predicate folded : Expression}
  {documents : List Json}

/-- Whether the last projection of a chain leaves a predicate the fields that it reads. -/
def leavesFields (naming : FieldNaming) (chain : List Step) (predicate : Expression) : Bool :=
  (lastProjection? chain).all fun fields =>
    predicate.documentPaths.all fun path =>
      fields.any fun field =>
        (wireKeys (naming.resolve field)).isPrefixOf (naming.wireSegments path)

theorem lookup?_shaped {path : FieldPath} (leaves : leavesFields naming chain predicate)
    (reads : path ∈ predicate.documentPaths) (document : Json) :
    (shaped naming chain document).lookup? (naming.wireSegments path) =
      document.lookup? (naming.wireSegments path) := by
  unfold shaped
  cases last : lastProjection? chain with
  | none => rfl
  | some fields =>
    rw [leavesFields, last] at leaves
    have each := List.all_eq_true.mp leaves path reads
    obtain ⟨field, member, onward⟩ := List.any_eq_true.mp each
    exact Json.lookup?_project (List.mem_map.mpr ⟨field, member, rfl⟩) (wireKeys_ne_nil _)
      (List.isPrefixOf_iff_prefix.mp onward)

/-- A folded predicate asks the same of a document and of what is left of it. -/
theorem holds_shaped (leaves : leavesFields naming chain predicate)
    (folds : predicate.fold = .ok folded) (document : Json) :
    folded.normalize.holds naming (.ofJson (shaped naming chain document)) =
      folded.normalize.holds naming (.ofJson document) := by
  apply Expression.holds_normalize_congr
  intro path reads
  have known := Expression.documentPaths_fold predicate folds reads
  exact lookup?_shaped leaves known document

/-- The client keeps of the documents that are shaped already what it would keep of the whole ones. -/
theorem keepMatching_shaped (leaves : leavesFields naming input predicate)
    (folds : predicate.fold = .ok folded) {items : List Json}
    (answers : ∀ document ∈ items,
      folded.normalize.holds naming (.ofJson document) = .ok (folded.accepts naming document)) :
    keepMatching naming folded (items.map (shaped naming input)) =
      .ok ((items.filter (folded.accepts naming)).map (shaped naming input)) := by
  have same : ∀ document, folded.accepts naming (shaped naming input document) =
      folded.accepts naming document := fun document => by
    rw [Expression.accepts, holds_shaped leaves folds, Expression.accepts]
  have kept : keepMatching naming folded (items.map (shaped naming input)) =
      .ok ((items.map (shaped naming input)).filter (folded.accepts naming)) := by
    refine keepItems_of_answers fun part member => ?_
    obtain ⟨document, among, rfl⟩ := List.mem_map.mp member
    rw [holds_shaped leaves folds, same]
    exact answers document among
  rw [kept, List.filter_map]
  exact congrArg (fun test => Except.ok ((items.filter test).map _)) (funext same)

/-- The last match is left to the client. -/
theorem compile_last {earlier : List Step} (folds : predicate.fold = .ok folded)
    (foldsEarlier : earlier.reverse.mapM Step.fold = .ok input)
    (unpaged : ∀ step ∈ input, step.isUnpaged) :
    Compiler.compile ⟨naming, .standard, none⟩
        (.ofSteps (earlier ++ [.element .lastOrDefault (some predicate)])) =
      (FindRequest.ofChain naming none input).map
        fun request => ⟨request, [.element .lastOrDefault (some folded)]⟩ := by
  have native : ∀ step ∈ input, step.kind.standardClass = .native :=
    fun step member => Step.native_of_isUnpaged (unpaged step member)
  have ofLast : (Step.element .lastOrDefault (some predicate)).fold =
      .ok (.element .lastOrDefault (some folded)) := by
    simp [Step.fold, folds]
  have expands : Plan.expandComposites .standard (.element .lastOrDefault (some folded) :: input) =
      .ok (.element .lastOrDefault (some folded) :: input) := by
    rw [Plan.expandComposites, Plan.expandComposites_native native]
    rfl
  exact Compiler.compile_append ofLast foldsEarlier expands native
    (List.forall_mem_cons.mpr ⟨rfl, List.forall_mem_nil _⟩) rfl

theorem select_lastOrDefault (items : List Json) :
    ElementKind.lastOrDefault.select items = .ok (.document items.getLast?) := by
  rw [ElementKind.select, ElementKind.pick, ok_bind]
  cases items.getLast? <;> rfl

theorem EndsInFilter.output_last {earlier : List Step} {draft : RequestDraft}
    {clause : Json} {store : Store} {database : String}
    (ends : EndsInFilter naming earlier predicate input folded draft clause)
    (identities : ∀ document ∈ documents, (document.get? "_id").isSome)
    (leaves : leavesFields naming input predicate)
    (ordered : ∀ key ∈ sortKeysAfter naming input, Orders key.compare (· ∈ documents))
    (ready : store.failure = none) (held : store.databases.get? database = some documents) :
    (Compiler.execute ⟨naming, .standard, none⟩ store database
        (.ofSteps (earlier ++ [.element .lastOrDefault (some predicate)]))).1.map QueryResult.output =
      (found naming input folded draft documents).map fun items => .document items.getLast? := by
  obtain ⟨request, finished, requested⟩ := FindRequest.exists_ofChain none ends.drafted ends.uniform
  rw [Compiler.output_execute _ _ ready held,
    compile_last ends.folds ends.foldsEarlier ends.chain.unpaged, requested, map_ok, ok_bind,
    FindRequest.docs_unpaged ends.chain.unpaged ends.drafted finished,
    RequestDraft.selectorClauses, found]
  cases matching : keepItems (Json.admitsEvery draft.clauses) documents with
  | error failure => rfl
  | ok matched =>
    have among : ∀ document ∈ matched, document ∈ documents := fun document =>
      mem_of_keepItems matching
    have known : ∀ document ∈ sortDocuments (sortKeysAfter naming input) matched,
        folded.normalize.holds naming (.ofJson document) = .ok (folded.accepts naming document) :=
      fun document member => ends.selectable.holds_eq
        (identities document (among document (mem_sortBy.mp member)))
    have sorted : (sortDocuments (sortKeysAfter naming input) matched).filter (folded.accepts naming) =
        sortDocuments (sortKeysAfter naming input) (matched.filter (folded.accepts naming)) :=
      (SortKey.compareAll_orders_of_each ordered).filter_sortBy among (folded.accepts naming)
    rw [map_ok, map_ok, ok_bind, Execution.runSteps_singleton rfl, map_ok, ← sorted]
    refine (congrArg (· >>= _) (keepMatching_shaped leaves ends.folds known)).trans ?_
    exact select_lastOrDefault _

/-- The last and the first document of which a predicate holds, asked of a server that has all
operations, are the last and the first of those that a filter by the predicate finds. -/
theorem execute_last (naming : FieldNaming) (store : Store) (database : String)
    {earlier : List Step} {compiled : CompiledQuery} (unpaged : ∀ step ∈ earlier, step.isUnpaged)
    (portable : predicate.isPortable naming) (written : predicate.isWritten)
    (leaves : leavesFields naming earlier.reverse predicate)
    (ordered : ∀ key ∈ sortKeysAfter naming earlier.reverse, Orders key.compare (· ∈ documents))
    (identities : ∀ document ∈ documents, (document.get? "_id").isSome)
    (ready : store.failure = none) (held : store.databases.get? database = some documents)
    (accepted : Compiler.compile ⟨naming, .standard, none⟩ (.ofSteps (earlier ++ [.filter predicate])) =
      .ok compiled) :
    ∃ outcome : Except Error (List Json),
      ((∀ other, .filter other ∈ earlier → other.isPortable naming ∧ other.isWritten) →
        ∃ items, outcome = .ok items) ∧
      (Compiler.execute ⟨naming, .standard, none⟩ store database
          (.ofSteps (earlier ++ [.filter predicate]))).1.map QueryResult.output =
        outcome.map .documents ∧
      (Compiler.execute ⟨naming, .standard, none⟩ store database (.ofSteps
          (earlier ++ [.element .lastOrDefault (some predicate)]))).1.map QueryResult.output =
        outcome.map (fun items => .document items.getLast?) ∧
      (Compiler.execute ⟨naming, .standard, none⟩ store database (.ofSteps
          (earlier ++ [.element .firstOrDefault (some predicate)]))).1.map QueryResult.output =
        outcome.map (fun items => .document items.head?) := by
  obtain ⟨input, folded, draft, clause, ends⟩ :=
    exists_endsInFilter unpaged portable written accepted
  have leavesInput : leavesFields naming input predicate := by
    rw [leavesFields, ends.chain.projection]
    exact leaves
  rw [← ends.chain.sortKeys] at ordered
  exact ⟨EndsInFilter.found naming input folded draft documents,
    fun plain => ends.exists_found plain identities, ends.output_filter identities ready held,
    ends.output_last identities leavesInput ordered ready held,
    ends.output_first identities ready held⟩

/-- The oldest Jedi whose name is known. -/
theorem execute_last_jedi :
    let naming := FieldNaming.ofCase .unchanged
    let name : FieldPath := ⟨["name"]⟩
    let age : FieldPath := ⟨["age"]⟩
    let predicate : Expression := .binary (.connective .and) (.field ⟨["isJedi"]⟩ .boolean)
      (.presence (.field name .value) true)
    let earlier : List Step :=
      [.filter (.binary (.comparison .gt) (.field age .value) (.literal (.int 18))),
        .orderBy age .ascending, .project [name, ⟨["isJedi"]⟩]]
    let documents : List Json :=
      [.object [("_id", .string "a"), ("name", .string "Obi-Wan"), ("age", .integer 57),
          ("isJedi", .bool true)],
        .object [("_id", .string "b"), ("name", .string "Luke"), ("age", .integer 19),
          ("isJedi", .bool true)],
        .object [("_id", .string "c"), ("name", .string "Han"), ("age", .integer 29)]]
    let store := Store.empty.withDatabase "people" documents
    ∃ outcome : Except Error (List Json),
      ((∀ other, .filter other ∈ earlier → other.isPortable naming ∧ other.isWritten) →
        ∃ items, outcome = .ok items) ∧
      (Compiler.execute ⟨naming, .standard, none⟩ store "people"
          (.ofSteps (earlier ++ [.filter predicate]))).1.map QueryResult.output =
        outcome.map .documents ∧
      (Compiler.execute ⟨naming, .standard, none⟩ store "people" (.ofSteps
          (earlier ++ [.element .lastOrDefault (some predicate)]))).1.map QueryResult.output =
        outcome.map (fun items => .document items.getLast?) ∧
      (Compiler.execute ⟨naming, .standard, none⟩ store "people" (.ofSteps
          (earlier ++ [.element .firstOrDefault (some predicate)]))).1.map QueryResult.output =
        outcome.map (fun items => .document items.head?) := by
  intro naming name age predicate earlier documents store
  have words : ∀ document ∈ documents, document.hasOnlyWords := by decide
  have ordered : ∀ key ∈ sortKeysAfter naming earlier.reverse, Orders key.compare (· ∈ documents) :=
    fun key _ => key.compare_orders.restrict fun document member =>
      Json.hasWordsAt_of_hasOnlyWords (words document member) key.path
  exact execute_last naming store "people" (by decide) (by decide) (by decide) (by decide) ordered
    (by decide) rfl rfl rfl

/-- The last match is not the last document that a filter finds where a projection takes away what the
predicate reads, where two integers to sort by differ but equal the same float, and where the predicate
compares with what is no number. -/
theorem execute_last_differs :
    let found := fun (documents : List Json) (steps : List Step) =>
      (Compiler.execute ⟨default, .standard, none⟩ (Store.empty.withDatabase "people" documents)
        "people" (.ofSteps steps)).1.toOption.map (·.output.identities)
    let revision : FieldPath := ⟨["_rev"]⟩
    let first : Expression :=
      .binary (.comparison .eq) (.field revision .value) (.literal (.int 1))
    let document : Json := .object [("_id", .string "a"), ("_rev", .integer 1)]
    let deleted : Expression := .field ⟨["_deleted"]⟩ .boolean
    let mixed : List Json :=
      [.object [("_id", .string "a"), ("_rev", .integer (2 ^ 53 + 1)), ("_deleted", .bool true)],
        .object [("_id", .string "b"), ("_rev", .float (.ofInt (2 ^ 53))), ("_deleted", .bool false)],
        .object [("_id", .string "c"), ("_rev", .integer (2 ^ 53)), ("_deleted", .bool true)]]
    let bounded : Expression :=
      .binary (.comparison .le) (.field revision .value) (.literal (.float .nan))
    (found [document] [.project [⟨["_id"]⟩], .filter first] = some ["a"] ∧
        found [document] [.project [⟨["_id"]⟩], .element .lastOrDefault (some first)] = some []) ∧
      (found mixed [.orderBy revision .ascending, .filter deleted] = some ["c", "a"] ∧
        found mixed [.orderBy revision .ascending, .element .lastOrDefault (some deleted)] =
          some ["c"]) ∧
      (found [document] [.filter bounded] = some [] ∧
        found [document] [.element .lastOrDefault (some bounded)] = some ["a"]) := by
  intro found revision first document deleted mixed bounded
  refine ⟨⟨?_, ?_⟩, ⟨?_, ?_⟩, ?_, ?_⟩ <;> decide +kernel

end DocQuery
