import DocQuery.Proofs.DocumentValues
import DocQuery.Proofs.RequestKeys
import DocQuery.QueryResult

/-! A discriminator keeps the documents of others out of every result. The clause that asks for it is
tested before all others, so a document that does not carry it can neither be found nor make the
search fail, and whatever happens after the search sees the same documents. -/

namespace DocQuery

/-- Whether a document belongs to the part of a database that a discriminator names. -/
def Json.carries (name : String) (document : Json) : Bool :=
  (document.get? discriminatorField).bind Json.asString? == some name

theorem Value.collatesEqual_string (value : Value) (text : String) :
    value.collatesEqual (.string text) = (value.asString? == some text) := by
  cases value with
  | string other =>
    rw [Bool.eq_iff_iff]
    simp [collatesEqual, collate, asString?]
  | _ => rfl

theorem Json.admits_discriminator (name : String) (document : Json) :
    (single discriminatorField (.string name)).admits (some document) =
      .ok (document.carries name) := by
  have read : SelectorKey.ofName discriminatorField = .path [discriminatorField] := rfl
  rw [admits_path document _ read, carries, lookup?]
  cases document.get? discriminatorField with
  | none => rfl
  | some value =>
    exact congrArg Except.ok ((Value.collatesEqual_string _ name).trans
      (by rw [Value.asString?_ofJson]; rfl))

namespace FindResponse

/-- A response without the figures about its execution. -/
def withoutStatistics (response : FindResponse) : FindResponse :=
  { response with executionStats := none }

end FindResponse

namespace FindRequest

/-- Requests that differ in their selectors alone have the same answer where they find the same. -/
theorem answer_congr {first second : FindRequest} {warning : Option String}
    {documents others : List Json}
    (keys : ∀ key, key ≠ "selector" → first.get? key = second.get? key)
    (found : first.matching documents = second.matching others) :
    (first.answer warning documents).map FindResponse.withoutStatistics =
      (second.answer warning others).map FindResponse.withoutStatistics := by
  have sorting : first.sortKeys = second.sortKeys := by
    rw [sortKeys, sortKeys, keys "sort" (by decide)]
  have paging : first.pageBounds = second.pageBounds := by
    simp only [pageBounds, bookmarkOffset, count?, keys "bookmark" (by decide),
      keys "skip" (by decide), keys "limit" (by decide)]
  have projecting : first.projected = second.projected := by
    funext page
    simp only [projected, fieldPaths?, keys "fields" (by decide)]
  unfold answer
  rw [found, sorting, paging, projecting]
  simp only [map_bind]
  rfl

end FindRequest

namespace RequestDraft

/-- A discriminator finds what would be found among the documents that carry it. -/
theorem matching_request (draft : RequestDraft) (name : String) (documents : List Json) :
    (draft.request (some name)).matching documents =
      (draft.request none).matching (documents.filter (·.carries name)) := by
  refine keepItems_filter fun document _ => ?_
  rw [selects_request, selects_request, selectorClauses, Json.admitsEvery,
    Json.admits_discriminator]
  rfl

theorem answer_request (draft : RequestDraft) (name : String) (warning : Option String)
    (documents : List Json) :
    ((draft.request (some name)).answer warning documents).map FindResponse.withoutStatistics =
      ((draft.request none).answer warning (documents.filter (·.carries name))).map
        FindResponse.withoutStatistics := by
  refine FindRequest.answer_congr (fun key other => ?_) (draft.matching_request name documents)
  rw [get?_request _ _ other, get?_request _ _ other]

end RequestDraft

def QueryResult.withoutStatistics (result : QueryResult) : QueryResult :=
  { result with executionStats := none }

/-- What the client makes of a response does not depend on the figures. -/
theorem CompiledQuery.resultOf_withoutStatistics (compiled : CompiledQuery) (naming : FieldNaming)
    (response : FindResponse) :
    (compiled.resultOf naming response).map QueryResult.withoutStatistics =
      (compiled.resultOf naming response.withoutStatistics).map QueryResult.withoutStatistics := by
  simp only [resultOf, map_bind]
  rfl

namespace Compiler

/-- A compiler for the part of a database that a discriminator names. -/
def restrictedTo (compiler : Compiler) (name : String) : Compiler :=
  { compiler with discriminator := some name }

def unrestricted (compiler : Compiler) : Compiler := { compiler with discriminator := none }

/-- What compiling does before the discriminator gets into the request: the complete draft and the
steps left to the client. -/
def prepare (compiler : Compiler) (plan : Plan) : Except Error (RequestDraft × List Step) := do
  let optimized ← (← plan.fold).optimize compiler.table default
  let (native, client) ← compiler.table.split optimized.root
  return (← (← RequestDraft.ofChain compiler.naming native.chain).complete, client)

theorem compile_eq (compiler : Compiler) (plan : Plan) :
    compiler.compile plan = (compiler.prepare plan).map fun (draft, client) =>
      ⟨draft.request compiler.discriminator, client⟩ := by
  simp only [compile, prepare, FindRequest.ofChain, RequestDraft.finish_eq, map_bind, bind_assoc]
  congr 1
  funext folded
  congr 1
  funext optimized
  congr 1
  funext (native, client)
  congr 1
  funext draft
  cases draft.complete <;> rfl

/-- What running a plan gives where a database of a store holds some documents: output, bookmark and
warning, or a failure. -/
def outcome (compiler : Compiler) (store : Store) (database : String) (plan : Plan)
    (documents : List Json) : Except Error QueryResult :=
  (compiler.execute (store.withDatabase database documents) database plan).1.map
    QueryResult.withoutStatistics

/-- A discriminator gives what the documents that carry it would give by themselves. -/
theorem outcome_restrictedTo (compiler : Compiler) (name : String) (store : Store)
    (database : String) (plan : Plan) (documents : List Json) :
    (compiler.restrictedTo name).outcome store database plan documents =
      compiler.unrestricted.outcome store database plan (documents.filter (·.carries name)) := by
  have prepared : (compiler.restrictedTo name).prepare plan = compiler.unrestricted.prepare plan :=
    rfl
  simp only [outcome, execute, compile_eq, prepared]
  cases compiler.unrestricted.prepare plan with
  | error failure => rfl
  | ok made =>
    obtain ⟨draft, client⟩ := made
    simp only [map_ok, Store.answer, Store.respond, Store.withDatabase, Entries.get?_insert, if_pos]
    cases store.failure with
    | some failure => rfl
    | none =>
      simp only [map_bind]
      refine bind_congr_map (draft.answer_request name store.warning documents) ?_
      intro response other equal
      rw [CompiledQuery.resultOf_withoutStatistics, equal,
        ← CompiledQuery.resultOf_withoutStatistics]

end Compiler

/-- Discriminator isolation: two databases that hold the same documents with the discriminator give
the same, and they give what those documents would give without one. -/
theorem discriminator_isolates (compiler : Compiler) (name : String) (store : Store)
    (database : String) (plan : Plan) {first second : List Json}
    (same : first.filter (·.carries name) = second.filter (·.carries name)) :
    (compiler.restrictedTo name).outcome store database plan first =
        (compiler.restrictedTo name).outcome store database plan second ∧
      (compiler.restrictedTo name).outcome store database plan first =
        compiler.unrestricted.outcome store database plan (first.filter (·.carries name)) := by
  refine ⟨?_, compiler.outcome_restrictedTo name store database plan first⟩
  rw [compiler.outcome_restrictedTo, compiler.outcome_restrictedTo, same]

/-- A document of another part of the database makes no difference to a filter and a page. -/
theorem discriminator_isolates_rebels :
    let rebel : Json := .object [("name", .string "Leia"), ("split_discriminator", .string "rebel")]
    let other : Json := .object [("name", .integer 7), ("split_discriminator", .string "empire")]
    let compiler : Compiler := ⟨.ofCase .unchanged, .standard, none⟩
    let plan : Plan := .ofSteps
      [.filter (.pattern (.field ⟨["name"]⟩ .value) "e"), .skip 0, .take 2]
    (compiler.restrictedTo "rebel").outcome .empty "people" plan [rebel] =
        (compiler.restrictedTo "rebel").outcome .empty "people" plan [other, rebel] ∧
      (compiler.restrictedTo "rebel").outcome .empty "people" plan [rebel] =
        compiler.unrestricted.outcome .empty "people" plan [rebel] :=
  discriminator_isolates _ "rebel" .empty "people" _ rfl

end DocQuery
