import DocQuery.Plan.Optimization
import DocQuery.Proofs.ExecutionStates
import DocQuery.Proofs.ExtremeValues

/-! A composite operation makes of documents what the steps make of them that it is expanded into.
These fetch no more rows than decide the question. The least value of a field is left out here: the
row that is fetched for it need not have a value. -/

namespace DocQuery

/-- The steps of an expansion, in the order in which they are carried out. -/
def Step.Expansion.steps (expansion : Step.Expansion) : List Step :=
  expansion.fetching.reverse ++ [.reduce expansion.reducer]

/-- What decides a reduction to a document of a kind is that document and whether there are more. -/
theorem ElementKind.select_take {kind : ElementKind} {count : Nat} (documents : List Json)
    (enough : kind = .first ∧ count = 1 ∨ kind = .firstOrDefault ∧ count = 1 ∨
      kind = .single ∧ count = 2 ∨ kind = .singleOrDefault ∧ count = 2) :
    kind.select (documents.take count) = kind.select documents := by
  have pick : kind.pick (documents.take count) = kind.pick documents := by
    obtain ⟨rfl, rfl⟩ | ⟨rfl, rfl⟩ | ⟨rfl, rfl⟩ | ⟨rfl, rfl⟩ := enough <;>
      rcases documents with _ | ⟨first, _ | ⟨second, rest⟩⟩ <;> rfl
  rw [select, select, pick]

theorem isEmpty_take_one (documents : List Json) : (documents.take 1).isEmpty = documents.isEmpty := by
  cases documents <;> rfl

theorem fieldValues_project (field : String) (documents : List Json) :
    fieldValues field (documents.map (·.project [wireKeys field])) = fieldValues field documents := by
  simp only [fieldValues, List.filterMap_map]
  congr 3
  funext document
  exact Json.lookup?_project List.mem_cons_self (wireKeys_ne_nil field) (List.prefix_refl _)

/-- The greatest value of a field is that of the first row in descending order. -/
theorem aggregate_max_take {field : String} {documents : List Json}
    (words : ∀ document ∈ documents, document.HasWordsAt (wireKeys field)) :
    AggregateFunction.max.aggregate field
        ((sortDocuments [⟨wireKeys field, .descending⟩] documents).take 1) =
      AggregateFunction.max.aggregate field documents := by
  have greatest := extreme?_descending words
  simp only [AggregateFunction.aggregate, AggregateFunction.apply, fieldValues_eq, greatest]
  cases sortDocuments [⟨wireKeys field, .descending⟩] documents with
  | nil => rfl
  | cons first rest =>
    simp only [List.take_succ_cons, List.take_zero, List.filterMap_cons, List.filterMap_nil,
      List.head?_cons, Option.bind_some]
    cases first.valueAt? (wireKeys field) <;> rfl

namespace Execution

variable {naming : FieldNaming} (keys : List SortKey) (documents : List Json)

theorem finish_take (reducer : Reducer) (count : Nat) :
    finish naming [.take count, .reduce reducer] ⟨.documents documents, keys⟩ =
      reducer.apply naming (documents.take count) := by
  rw [finish_cons]
  exact finish_singleton (.reduce reducer) keys (documents.take count)

/-- An operation that looks for documents among no more rows than decide it. -/
theorem finish_limited (reducer : Reducer) (count : Nat) (predicate : Option Expression) :
    finish naming (Step.Expansion.mk reducer (.take count :: Step.filtering predicate)).steps
        ⟨.documents documents, keys⟩ =
      keepOptional naming predicate documents >>= fun kept =>
        reducer.apply naming (kept.take count) := by
  cases predicate with
  | none => exact finish_take keys documents reducer count
  | some predicate =>
    change finish naming [.filter predicate, .take count, .reduce reducer] _ =
      keepMatching naming predicate documents >>= _
    rw [finish_cons, advance_documents_eq, Step.apply]
    cases keepMatching naming predicate documents with
    | error failure => rfl
    | ok kept => exact finish_take keys kept reducer count

theorem finish_projected (function : AggregateFunction) (field : FieldPath) :
    finish naming [.project [field], .reduce (.aggregate function field)]
        ⟨.documents documents, keys⟩ =
      function.aggregate (naming.resolve field) documents := by
  rw [finish_cons]
  refine (finish_singleton _ keys _).trans ?_
  simp only [Step.apply, Reducer.apply, AggregateFunction.aggregate, List.map_cons, List.map_nil,
    fieldValues_project]

theorem finish_greatest (field : FieldPath)
    (words : ∀ document ∈ documents, document.HasWordsAt (wireKeys (naming.resolve field))) :
    finish naming [.orderBy field .descending, .take 1, .project [field],
        .reduce (.aggregate .max field)] ⟨.documents documents, keys⟩ =
      AggregateFunction.max.aggregate (naming.resolve field) documents := by
  rw [finish_cons]
  refine (finish_cons _ _ _).trans ?_
  refine (finish_projected _ _ AggregateFunction.max field).trans ?_
  exact aggregate_max_take words

/-- The steps of an expansion make of documents what the operation makes of them. -/
theorem finish_expand {step : Step} {expansion : Step.Expansion}
    (expands : step.expand = .ok expansion) (other : ∀ field, step ≠ .aggregate .min field)
    (words : ∀ field, step = .aggregate .max field →
      ∀ document ∈ documents, document.HasWordsAt (wireKeys (naming.resolve field))) :
    finish naming expansion.steps ⟨.documents documents, keys⟩ =
      step.apply naming (step.sortKeys naming keys) documents := by
  cases step with
  | any predicate =>
    cases expands
    rw [finish_limited]
    simp only [Reducer.apply, isEmpty_take_one]
    rfl
  | all predicate =>
    cases expands
    refine (finish_limited keys documents .notAny 1 (some predicate.negate)).trans ?_
    simp only [Reducer.apply, isEmpty_take_one]
    rfl
  | element kind predicate =>
    cases kind with
    | last | lastOrDefault => cases expands
    | first | firstOrDefault | single | singleOrDefault =>
      cases expands
      rw [finish_limited]
      refine bind_congr fun kept => ?_
      exact ElementKind.select_take kept (by simp)
  | aggregate function field =>
    cases function with
    | min => exact absurd rfl (other field)
    | max =>
      cases expands
      exact finish_greatest keys documents field (words field rfl)
    | sum | average =>
      cases expands
      exact finish_projected keys documents _ field
  | _ => cases expands

end Execution

theorem checkSteps_expand {step : Step} {expansion : Step.Expansion}
    (expands : step.expand = .ok expansion) (ordered : Bool) :
    checkSteps ordered expansion.steps = .ok () := by
  cases step with
  | any predicate => cases expands; cases predicate <;> rfl
  | all predicate => cases expands; rfl
  | element kind predicate => cases kind <;> cases expands <;> cases predicate <;> rfl
  | aggregate function field => cases function <;> cases expands <;> rfl
  | _ => cases expands

theorem checkSteps_composite {step : Step} {expansion : Step.Expansion}
    (expands : step.expand = .ok expansion) (ordered : Bool) :
    checkSteps ordered [step] = .ok () := by
  cases step <;> first | rfl | cases expands

/-- Expanding an operation preserves what it makes of documents, whatever steps come before it. Where
these end in something else than documents no operation can follow, expanded or not; the failures
then name the operation itself and the first step of its expansion. -/
theorem runSteps_expand (naming : FieldNaming) (earlier : List Step) (documents : List Json)
    {step : Step} {expansion : Step.Expansion} (expands : step.expand = .ok expansion)
    (other : ∀ field, step ≠ .aggregate .min field)
    (words : ∀ field, step = .aggregate .max field →
      ∀ document ∈ documents, document.HasWordsAt (wireKeys (naming.resolve field))) :
    ((∀ output, runSteps naming earlier documents = .ok output → output.isDocuments) →
        runSteps naming (earlier ++ expansion.steps) documents =
          runSteps naming (earlier ++ [step]) documents) ∧
      ∀ output, runSteps naming earlier documents = .ok output → output.isDocuments = false →
        runSteps naming (earlier ++ [step]) documents =
            .error (.query (.afterResult step.kind output.shape)) ∧
          ∃ first ∈ expansion.steps.head?, runSteps naming (earlier ++ expansion.steps) documents =
            .error (.query (.afterResult first.kind output.shape)) := by
  have expanded : runSteps naming (earlier ++ expansion.steps) documents =
      Execution.after naming earlier documents >>= Execution.finish naming expansion.steps :=
    Execution.runSteps_append (checkSteps_expand expands)
  have direct : runSteps naming (earlier ++ [step]) documents =
      Execution.after naming earlier documents >>= Execution.finish naming [step] :=
    Execution.runSteps_append (checkSteps_composite expands)
  rw [Execution.runSteps_eq_after, expanded, direct]
  cases ran : Execution.after naming earlier documents with
  | error failure => exact ⟨fun _ => rfl, nofun⟩
  | ok state =>
    obtain ⟨output, keys⟩ := state
    refine ⟨fun goesOn => ?_, fun result same final => ?_⟩
    · cases output with
      | documents items =>
        have known : ∀ field, step = .aggregate .max field →
            ∀ document ∈ items, document.HasWordsAt (wireKeys (naming.resolve field)) :=
          fun field same => Execution.after_documents
            (fun document paths held => held.project paths) (words field same) ran rfl
        rw [ok_bind, ok_bind, Execution.finish_singleton]
        exact Execution.finish_expand keys items expands other known
      | _ => cases goesOn _ rfl
    · cases same
      obtain ⟨first, rest, split⟩ : ∃ first rest, expansion.steps = first :: rest :=
        List.exists_cons_of_ne_nil (by simp [Step.Expansion.steps])
      refine ⟨Execution.finish_of_result final step [], first, by rw [split]; rfl, ?_⟩
      rw [split]
      exact Execution.finish_of_result final first rest

/-- The greatest age of those that are left, some of whom have none. -/
theorem runSteps_expand_ages :
    let naming := FieldNaming.ofCase .unchanged
    let age : FieldPath := ⟨["profile", "age"]⟩
    let aged (value : Json) : Json := .object [("profile", .object [("age", value)])]
    let documents : List Json := [.object [], aged (.integer 19), aged .null, aged (.integer 53)]
    ∃ expansion, (Step.aggregate .max age).expand = .ok expansion ∧
      runSteps naming ([.skip 1] ++ expansion.steps) documents =
        runSteps naming ([.skip 1] ++ [.aggregate .max age]) documents := by
  intro naming age aged documents
  have expands : (Step.aggregate .max age).expand = .ok _ := rfl
  refine ⟨_, expands, (runSteps_expand naming [.skip 1] documents expands nofun ?_).1 ?_⟩
  · intro field same document member
    have words : ∀ document ∈ documents, document.hasOnlyWords := by decide
    exact Json.hasWordsAt_of_hasOnlyWords (words document member) _
  · intro output ran
    cases ran
    rfl

/-- After an operation that gives an answer, the failure of an expanded operation names the first step
of its expansion instead. -/
theorem runSteps_expand_afterResult :
    ∃ expansion, (Step.element .first none).expand = .ok expansion ∧
      runSteps default ([.any none] ++ expansion.steps) [] =
        .error (.query (.afterResult .take "boolean")) ∧
      runSteps default ([.any none] ++ [.element .first none]) [] =
        .error (.query (.afterResult .first "boolean")) ∧
      runSteps default ([.any none] ++ expansion.steps) [] ≠
        runSteps default ([.any none] ++ [.element .first none]) [] :=
  ⟨_, rfl, rfl, rfl, nofun⟩

end DocQuery
