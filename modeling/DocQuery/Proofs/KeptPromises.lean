import DocQuery.Client
import DocQuery.Proofs.Nominations
import DocQuery.Proofs.OutputShapes
import DocQuery.Proofs.ServerFailures
import DocQuery.Proofs.StepFailures

/-! The promises that the parts of the library make to each other are kept: nominations have the shape of
their expressions, clauses of comparisons are asked for comparisons only, values are operated on only by
arithmetic, optimizing leaves no composite operation, a step that is taken off a plan has an input, a sum is a
number, what a query gives has the shape that the operation at its end asks for, and a document that has to be
there is there. So nobody sees an internal error. -/

namespace DocQuery

/-- Whether a failure is no broken promise. -/
def Error.IsExternal (failure : Error) : Prop := ∀ broken, failure ≠ .internal broken

theorem Error.OfQuery.isExternal {failure : Error} (query : failure.OfQuery) : failure.IsExternal := by
  cases query
  exact nofun

theorem Error.OfServer.isExternal {failure : Error} (server : failure.OfServer) :
    failure.IsExternal := by
  cases server <;> exact nofun

theorem Error.OfStep.isExternal {failure : Error} (step : failure.OfStep) : failure.IsExternal := by
  cases step with
  | evaluation evaluating => exact evaluating.ofQuery.isExternal
  | _ => exact nofun

namespace Compiler

variable {compiler : Compiler} {store : Store} {database : String} {plan : Plan}

theorem execute_fails (reduces : compiler.table.classOf .reduce ≠ some .composite) (store : Store)
    (database : String) (plan : Plan) :
    FailsOnly Error.IsExternal (compiler.execute store database plan).1 := by
  rw [fst_execute]
  refine ((compile_fails reduces plan).mono fun _ => Error.OfQuery.isExternal).bind fun compiled _ => ?_
  have responds := store.respond_fails database compiled.request
  refine (responds.mono fun _ => Error.OfServer.isExternal).bind fun response _ => ?_
  have runs := runSteps_fails compiler.naming compiled.clientSteps response.docs
  refine (runs.mono fun _ client => ?_).bind fun output _ => failsOnly_ok _
  exact client.elim Error.OfQuery.isExternal Error.OfStep.isExternal

/-- What a plan gives has the shape that its last step calls for. -/
theorem fits_of_execute {result : QueryResult}
    (executed : (compiler.execute store database plan).1 = .ok result) :
    result.output.Fits plan.reducer? := by
  rw [fst_execute] at executed
  obtain ⟨compiled, accepted, further⟩ := bind_eq_ok.mp executed
  obtain ⟨response, _, further⟩ := bind_eq_ok.mp further
  obtain ⟨output, ran, made⟩ := bind_eq_ok.mp further
  cases made
  exact fits_of_compile accepted ran

end Compiler

namespace Query

/-- Whether a query is made with the methods that add a step to another one. -/
inductive IsFluent : Query → Prop where
  | start (database compiler) : IsFluent ⟨database, compiler, []⟩
  | filter {query} (before : IsFluent query) (predicate) : IsFluent (query.filter predicate)
  | orderBy {query} (before : IsFluent query) (field) : IsFluent (query.orderBy field)
  | orderByDescending {query} (before : IsFluent query) (field) : IsFluent (query.orderByDescending field)
  | thenBy {query} (before : IsFluent query) (field) : IsFluent (query.thenBy field)
  | thenByDescending {query} (before : IsFluent query) (field) : IsFluent (query.thenByDescending field)
  | skip {query} (before : IsFluent query) (count) : IsFluent (query.skip count)
  | take {query} (before : IsFluent query) (count) : IsFluent (query.take count)
  | select {query} (before : IsFluent query) (fields) : IsFluent (query.select fields)
  | useBookmark {query} (before : IsFluent query) (bookmark) : IsFluent (query.useBookmark bookmark)
  | withReadQuorum {query} (before : IsFluent query) (quorum) : IsFluent (query.withReadQuorum quorum)
  | withoutIndexUpdate {query} (before : IsFluent query) : IsFluent query.withoutIndexUpdate
  | fromStable {query} (before : IsFluent query) : IsFluent query.fromStable
  | useIndex {query} (before : IsFluent query) (index) : IsFluent (query.useIndex index)
  | includeExecutionStats {query} (before : IsFluent query) : IsFluent query.includeExecutionStats
  | includeConflicts {query} (before : IsFluent query) : IsFluent query.includeConflicts

variable {query : Query} {result : QueryResult}

/-- None of these methods adds a reduction. -/
theorem IsFluent.reducer?_eq_none (fluent : query.IsFluent) :
    query.steps.getLast?.bind Step.reducer? = none := by
  cases fluent with
  | start => rfl
  | _ => simp [Query.filter, Query.orderBy, Query.orderByDescending, Query.thenBy,
      Query.thenByDescending, Query.skip, Query.take, Query.select, Query.useBookmark,
      Query.withReadQuorum, Query.withoutIndexUpdate, Query.fromStable, Query.useIndex,
      Query.includeExecutionStats, Query.includeConflicts, Query.push, Step.reducer?]

theorem run_fails (reduces : query.compiler.table.classOf .reduce ≠ some .composite) (store : Store)
    (terminal : Option Step) : FailsOnly Error.IsExternal (query.run store terminal).1 :=
  Compiler.execute_fails reduces store query.database (query.planWith terminal)

theorem fits_of_run {store : Store} {terminal : Option Step}
    (ran : (query.run store terminal).1 = .ok result) :
    result.output.Fits ((query.steps ++ terminal.toList).getLast?.bind Step.reducer?) := by
  rw [← Plan.reducer?_ofSteps]
  exact Compiler.fits_of_execute ran

/-- The operation that ends a query decides what the query gives. -/
theorem gives_of_run {store : Store} {terminal : Step} (reducer : Reducer)
    (reduces : terminal.reducer? = some reducer) (ran : (query.run store (some terminal)).1 = .ok result) :
    reducer.Gives result.output := by
  have fits := fits_of_run ran
  rwa [Option.toList_some, List.getLast?_append, List.getLast?_singleton, Option.some_or,
    Option.bind_some, reduces] at fits

section Results

theorem findResultOf_fails (documents : result.output.isDocuments) :
    FailsOnly Error.IsExternal (findResultOf result) := by
  unfold findResultOf
  cases shape : result.output with
  | documents docs => exact failsOnly_ok _
  | _ => rw [shape] at documents; cases documents

theorem answerOf_fails {reducer : Reducer} (asks : reducer = .any ∨ reducer = .notAny)
    (gives : reducer.Gives result.output) : FailsOnly Error.IsExternal (answerOf result) := by
  unfold answerOf
  cases shape : result.output with
  | boolean answer => exact failsOnly_ok answer
  | _ => rw [shape] at gives; obtain rfl | rfl := asks <;> cases gives

theorem documentOf_fails {kind : ElementKind} (gives : (Reducer.element kind).Gives result.output) :
    FailsOnly Error.IsExternal (documentOf result) := by
  unfold documentOf
  cases shape : result.output with
  | document found => exact failsOnly_ok found
  | _ => rw [shape] at gives; cases gives

theorem scalarOf_fails {α : Type} (read : Json → Option α) {function : AggregateFunction}
    {field : FieldPath} (gives : (Reducer.aggregate function field).Gives result.output) :
    FailsOnly Error.IsExternal (scalarOf read result) := by
  unfold scalarOf
  cases shape : result.output with
  | scalar value =>
    dsimp only
    split <;> simp [Error.IsExternal]
  | _ => rw [shape] at gives; cases gives

end Results

variable (reduces : query.compiler.table.classOf .reduce ≠ some .composite) (store : Store)
include reduces

theorem toFindResult_fails (fluent : query.IsFluent) :
    FailsOnly Error.IsExternal (query.toFindResult store).1 := by
  refine (run_fails reduces store none).bind fun result ran => findResultOf_fails ?_
  have fits := fits_of_run ran
  rwa [Option.toList_none, List.append_nil, fluent.reducer?_eq_none] at fits

theorem toList_fails (fluent : query.IsFluent) : FailsOnly Error.IsExternal (query.toList store).1 :=
  (failsOnly_map _ _).mpr (toFindResult_fails reduces store fluent)

theorem any_fails (predicate : Option Expression) :
    FailsOnly Error.IsExternal (query.any store predicate).1 :=
  (run_fails reduces store _).bind fun _ ran =>
    answerOf_fails (Or.inl rfl) (gives_of_run .any rfl ran)

theorem all_fails (predicate : Expression) : FailsOnly Error.IsExternal (query.all store predicate).1 :=
  (run_fails reduces store _).bind fun _ ran =>
    answerOf_fails (Or.inr rfl) (gives_of_run .notAny rfl ran)

theorem element_fails (kind : ElementKind) (predicate : Option Expression) :
    FailsOnly Error.IsExternal (query.element store kind predicate).1 :=
  (run_fails reduces store _).bind fun _ ran =>
    documentOf_fails (gives_of_run (.element kind) rfl ran)

theorem required_fails {kind : ElementKind} (present : ¬kind.orDefault) (predicate : Option Expression) :
    FailsOnly Error.IsExternal (query.required store kind predicate).1 := by
  refine (element_fails reduces store kind predicate).bind fun found element => ?_
  obtain ⟨result, ran, read⟩ := bind_eq_ok.mp element
  have gives := gives_of_run (.element kind) rfl ran
  cases found with
  | some document => exact failsOnly_ok document
  | none =>
    unfold documentOf at read
    split at read
    next shape =>
      cases read
      rw [shape] at gives
      exact absurd (gives.resolve_left nofun) present
    next => cases read

theorem aggregate_fails {α : Type} (function : AggregateFunction) (field : FieldPath)
    (read : Json → Option α) :
    FailsOnly Error.IsExternal (query.aggregate store function field read).1 :=
  (run_fails reduces store _).bind fun _ ran =>
    scalarOf_fails read (gives_of_run (.aggregate function field) rfl ran)

end Query

/-- Nobody ever sees an internal error, where the reductions need no expansion: folding by nominations,
compiling, running a plan on a store and all operations that end a query fail for other reasons only. -/
theorem promises_kept (compiler : Compiler) (reduces : compiler.table.classOf .reduce ≠ some .composite) :
    (∀ expression : Expression,
      FailsOnly Error.IsExternal (expression.replace expression.nominate)) ∧
    (∀ plan, FailsOnly Error.IsExternal (compiler.compile plan)) ∧
    (∀ store database plan, FailsOnly Error.IsExternal (compiler.execute store database plan).1) ∧
    ∀ (query : Query) (store : Store), query.IsFluent → query.compiler = compiler →
      FailsOnly Error.IsExternal (query.toList store).1 ∧
      FailsOnly Error.IsExternal (query.toFindResult store).1 ∧
      (∀ predicate, FailsOnly Error.IsExternal (query.any store predicate).1) ∧
      (∀ predicate, FailsOnly Error.IsExternal (query.all store predicate).1) ∧
      (∀ kind predicate, FailsOnly Error.IsExternal (query.element store kind predicate).1) ∧
      (∀ kind predicate, ¬kind.orDefault →
        FailsOnly Error.IsExternal (query.required store kind predicate).1) ∧
      (∀ (α : Type) function field (read : Json → Option α),
        FailsOnly Error.IsExternal (query.aggregate store function field read).1) ∧
      ∀ field, FailsOnly Error.IsExternal (query.average store field).1 := by
  refine ⟨fun expression => ?_, fun plan => ?_, compiler.execute_fails reduces, ?_⟩
  · rw [expression.replace_nominate]
    exact expression.fold_fails.mono fun _ evaluating => evaluating.ofQuery.isExternal
  · exact (compiler.compile_fails reduces plan).mono fun _ => Error.OfQuery.isExternal
  · rintro query store fluent rfl
    exact ⟨query.toList_fails reduces store fluent, query.toFindResult_fails reduces store fluent,
      query.any_fails reduces store, query.all_fails reduces store, query.element_fails reduces store,
      fun kind predicate present => query.required_fails reduces store present predicate,
      fun α function field read => query.aggregate_fails reduces store function field read,
      fun field => query.aggregate_fails reduces store .average field Json.asFloat?⟩

/-- A server that cannot sort leaves it to the client to find the last of the documents. -/
theorem promises_kept_unsorted :
    let table := ClassificationTable.standard.insert .orderBy .clientOnly
    let query := (Query.mk "people" ⟨.ofCase .camel, table, none⟩ []).orderBy ⟨["age"]⟩
    let store := Store.empty.withDatabase "people" [.object [("_id", .string "1"), ("age", .integer 23)]]
    table.classOf .reduce ≠ some .composite ∧ query.IsFluent ∧ ¬ElementKind.last.orDefault ∧
      FailsOnly Error.IsExternal (query.required store .last none).1 := by
  intro table query store
  have reduces : table.classOf .reduce ≠ some .composite := by decide
  have fluent : query.IsFluent := .orderBy (.start _ _) _
  obtain ⟨_, _, _, queries⟩ := promises_kept ⟨.ofCase .camel, table, none⟩ reduces
  obtain ⟨_, _, _, _, _, required, _⟩ := queries query store fluent rfl
  exact ⟨reduces, fluent, by decide, required .last none (by decide)⟩

/-- A table that has reductions expanded breaks a promise. -/
example :
    (Compiler.mk (.ofCase .camel) (ClassificationTable.standard.insert .reduce .composite) none).compile
      (.ofSteps [.any none]) = .error (.internal (.compositeLeft .reduce)) := rfl

end DocQuery
