import DocQuery.Proofs.CompositeExpansion
import DocQuery.Proofs.RequestedDocuments
import DocQuery.Proofs.StandardCompilation

/-! The least value of a field, asked of a server. The request fetches the first row in ascending
order, where documents without a value come first: if there is any such document, nothing is left to
take the least of, although the documents have values. -/

namespace DocQuery

theorem fieldValues_isFloatFree {field : String} {documents : List Json}
    (words : ∀ document ∈ documents, document.HasWordsAt (wireKeys field)) :
    ∀ value ∈ fieldValues field documents, value.isFloatFree := by
  intro value member
  rw [fieldValues_eq] at member
  obtain ⟨document, among, found⟩ := List.mem_filterMap.mp member
  exact (words document among).isFloatFree found

/-- The least value of a field is that of the first row in ascending order, if all rows have one. -/
theorem aggregate_min_take {field : String} {documents : List Json}
    (words : ∀ document ∈ documents, document.HasWordsAt (wireKeys field)) :
    AggregateFunction.min.aggregate field
        ((sortDocuments [⟨wireKeys field, .ascending⟩] documents).take 1) =
      if documents.all (·.hasValueAt (wireKeys field)) then
        AggregateFunction.min.aggregate field documents
      else .error .noElements := by
  simp only [AggregateFunction.aggregate, AggregateFunction.apply, fieldValues_eq]
  cases sorted : sortDocuments [⟨wireKeys field, .ascending⟩] documents with
  | nil =>
    rw [sortBy_eq_nil.mp sorted]
    rfl
  | cons first rest =>
    have head := congrArg List.head? sorted
    cases held : first.valueAt? (wireKeys field) with
    | some value =>
      have every : documents.all (·.hasValueAt (wireKeys field)) :=
        List.all_eq_true.mpr fun document member =>
          hasValueAt_ascending words head member (by simp [Json.hasValueAt, held])
      have least := extreme?_head words head held
      rw [if_pos every]
      simp only [List.take_succ_cons, List.take_zero, List.filterMap_cons, List.filterMap_nil, held]
      rw [show Value.extreme? .lt _ = some value from least]
      rfl
    | none =>
      have member := (head_sortDocuments words head).1
      have some : ¬documents.all (·.hasValueAt (wireKeys field)) := fun every => by
        have present := List.all_eq_true.mp every first member
        simp [Json.hasValueAt, held] at present
      rw [if_neg some]
      simp only [List.take_succ_cons, List.take_zero, List.filterMap_cons, List.filterMap_nil, held]
      rfl

/-- The least of all values of a field, where there is one. -/
theorem exists_least {field : String} {documents : List Json}
    (words : ∀ document ∈ documents, document.HasWordsAt (wireKeys field))
    (present : ∃ document ∈ documents, document.hasValueAt (wireKeys field)) :
    ∃ least ∈ fieldValues field documents,
      (∀ value ∈ fieldValues field documents, (least.collate value).isLE) ∧
        AggregateFunction.min.aggregate field documents = .ok (.scalar least.toJson) := by
  obtain ⟨document, member, held⟩ := present
  obtain ⟨value, found⟩ := Option.isSome_iff_exists.mp held
  have among : value ∈ fieldValues field documents := by
    rw [fieldValues_eq]
    exact List.mem_filterMap.mpr ⟨document, member, found⟩
  obtain ⟨least, extreme⟩ : ∃ least,
      Value.extreme? .lt (fieldValues field documents) = some least := by
    cases values : fieldValues field documents with
    | nil =>
      rw [values] at among
      cases among
    | cons first rest => exact ⟨_, rfl⟩
  have free := fieldValues_isFloatFree words
  have ascending : Value.extreme? (SortOrder.ascending.direct .lt) (fieldValues field documents) =
    some least := extreme
  obtain ⟨inside, below⟩ := Value.extreme?_isLE free ascending
  refine ⟨least, inside, below, ?_⟩
  rw [AggregateFunction.aggregate, AggregateFunction.apply, extreme]
  rfl

/-- The request for the least value fetches one row. -/
theorem docs_least (naming : FieldNaming) (field : FieldPath) :
    ∃ request, FindRequest.ofChain naming none
        [.project [field], .take 1, .orderBy field .ascending] = .ok request ∧
      ∀ warning documents, (request.answer warning documents).map FindResponse.docs =
        .ok (((sortDocuments [⟨wireKeys (naming.resolve field), .ascending⟩] documents).take 1).map
          (·.project [wireKeys (naming.resolve field)])) := by
  have drafted : RequestDraft.ofChain naming
      [.project [field], .take 1, .orderBy field .ascending] = .ok _ := rfl
  refine ⟨_, rfl, fun warning documents => ?_⟩
  refine (FindRequest.docs_ofChain (by simp [Step.isShared, natBound64]) drafted rfl warning
    documents).trans ?_
  have all : keepItems (Json.admitsEvery []) documents = .ok documents :=
    keepItems_of_all fun _ _ => rfl
  exact congrArg _ all

/-- The least value of a field, asked of a server that has all operations. On all documents it is a
value that no other one goes before; the server's part of the work leaves it to the client to find
it only if every document has a value. -/
theorem execute_min (naming : FieldNaming) (store : Store) (database : String) (field : FieldPath)
    {documents : List Json}
    (words : ∀ document ∈ documents, document.HasWordsAt (wireKeys (naming.resolve field)))
    (present : ∃ document ∈ documents, document.hasValueAt (wireKeys (naming.resolve field)))
    (ready : store.failure = none) (held : store.databases.get? database = some documents) :
    ∃ least ∈ fieldValues (naming.resolve field) documents,
      (∀ value ∈ fieldValues (naming.resolve field) documents, (least.collate value).isLE) ∧
        runSteps naming [.aggregate .min field] documents = .ok (.scalar least.toJson) ∧
          (Compiler.execute ⟨naming, .standard, none⟩ store database
              (.ofSteps [.aggregate .min field])).1.map QueryResult.output =
            if documents.all (·.hasValueAt (wireKeys (naming.resolve field))) then
              .ok (.scalar least.toJson)
            else .error .noElements := by
  obtain ⟨least, member, below, direct⟩ := exists_least words present
  refine ⟨least, member, below, ?_, ?_⟩
  · exact (Execution.runSteps_singleton rfl documents).trans direct
  · have compiled : Compiler.compile ⟨naming, .standard, none⟩ (.ofSteps [.aggregate .min field]) =
        (FindRequest.ofChain naming none
          [.project [field], .take 1, .orderBy field .ascending]).map
            fun request => ⟨request, [.reduce (.aggregate .min field)]⟩ :=
      Compiler.compile_standard rfl rfl (by simp [Step.kind, OperationKind.standardClass])
        (by simp [Step.kind, OperationKind.standardClass]) rfl
    obtain ⟨request, requested, found⟩ := docs_least naming field
    rw [Compiler.output_execute _ _ ready held, compiled, requested, map_ok, ok_bind, found, ok_bind,
      Execution.runSteps_singleton rfl]
    have reduced := aggregate_min_take words
    rw [direct] at reduced
    rw [← reduced]
    simp only [Step.apply, Reducer.apply, AggregateFunction.aggregate, fieldValues_project]

/-- Everyone has an age. -/
theorem execute_min_ages :
    let naming := FieldNaming.ofCase .unchanged
    let age : FieldPath := ⟨["age"]⟩
    let documents : List Json := [.object [("age", .integer 53)], .object [("age", .integer 19)]]
    let store := Store.empty.withDatabase "people" documents
    ∃ least ∈ fieldValues "age" documents,
      (∀ value ∈ fieldValues "age" documents, (least.collate value).isLE) ∧
        runSteps naming [.aggregate .min age] documents = .ok (.scalar least.toJson) ∧
          (Compiler.execute ⟨naming, .standard, none⟩ store "people"
              (.ofSteps [.aggregate .min age])).1.map QueryResult.output =
            .ok (.scalar least.toJson) := by
  intro naming age documents store
  have words : ∀ document ∈ documents, document.hasOnlyWords := by decide
  obtain ⟨least, member, below, direct, executed⟩ := execute_min naming store "people" age
    (fun document member => Json.hasWordsAt_of_hasOnlyWords (words document member) _)
    ⟨_, List.mem_cons_self, by decide⟩ rfl rfl
  rw [if_pos (by decide)] at executed
  exact ⟨least, member, below, direct, executed⟩

/-- Someone without an age is fetched in the place of the youngest. -/
theorem execute_min_missing :
    let naming := FieldNaming.ofCase .unchanged
    let age : FieldPath := ⟨["age"]⟩
    let documents : List Json :=
      [.object [("_id", .string "a"), ("age", .integer 5)], .object [("_id", .string "b")]]
    let store := Store.empty.withDatabase "people" documents
    runSteps naming [.aggregate .min age] documents = .ok (.scalar (.integer 5)) ∧
      (Compiler.execute ⟨naming, .standard, none⟩ store "people"
        (.ofSteps [.aggregate .min age])).1.map QueryResult.output = .error .noElements :=
  ⟨rfl, rfl⟩

end DocQuery
