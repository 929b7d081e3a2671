import DocQuery.Proofs.StepOrder

/-! The states between steps. Steps that may stand anywhere go on from the state that the steps before
them have left, and what all documents have in common at first those have that are left, unless a
projection takes it away. -/

namespace DocQuery

def Output.isDocuments : Output → Bool
  | .documents _ => true
  | _ => false

theorem passes_of_keepItems {α : Type} {test : α → Except Error Bool} {items kept : List α}
    (found : keepItems test items = .ok kept) {item : α} (member : item ∈ kept) :
    item ∈ items ∧ test item = .ok true := by
  induction items generalizing kept with
  | nil =>
    cases found
    cases member
  | cons first rest ih =>
    obtain ⟨held, tested, further⟩ := bind_eq_ok.mp found
    cases held with
    | false =>
      obtain ⟨among, passes⟩ := ih further member
      exact ⟨List.mem_cons_of_mem first among, passes⟩
    | true =>
      obtain ⟨others, remaining, made⟩ := bind_eq_ok.mp further
      cases made
      obtain rfl | later := List.mem_cons.mp member
      · exact ⟨List.mem_cons_self, tested⟩
      · obtain ⟨among, passes⟩ := ih remaining later
        exact ⟨List.mem_cons_of_mem first among, passes⟩

theorem mem_of_keepItems {α : Type} {test : α → Except Error Bool} {items kept : List α}
    (found : keepItems test items = .ok kept) {item : α} (member : item ∈ kept) : item ∈ items :=
  (passes_of_keepItems found member).1

/-- Whether a reduction can give an output. A document is missing only where the kind allows for it. -/
def Reducer.Gives : Reducer → Output → Prop
  | .aggregate _ _, .scalar _ => True
  | .any, .boolean _ | .notAny, .boolean _ => True
  | .element kind, .document found => found.isSome ∨ kind.orDefault
  | _, _ => False

theorem ElementKind.gives_of_select {kind : ElementKind} {documents : List Json} {output : Output}
    (selected : kind.select documents = .ok output) : (Reducer.element kind).Gives output := by
  obtain ⟨found, _, made⟩ := bind_eq_ok.mp selected
  cases found with
  | some document =>
    cases made
    exact Or.inl rfl
  | none =>
    cases allowed : kind.orDefault <;> simp only [allowed] at made <;> cases made
    exact Or.inr allowed

theorem AggregateFunction.gives_of_aggregate {function : AggregateFunction} {field : FieldPath}
    {name : String} {documents : List Json} {output : Output}
    (found : function.aggregate name documents = .ok output) :
    (Reducer.aggregate function field).Gives output := by
  obtain ⟨value, _, made⟩ := bind_eq_ok.mp found
  cases made
  trivial

theorem Reducer.gives_of_apply {reducer : Reducer} {naming : FieldNaming} {documents : List Json}
    {output : Output} (applied : reducer.apply naming documents = .ok output) :
    reducer.Gives output := by
  cases reducer with
  | aggregate function field => exact AggregateFunction.gives_of_aggregate applied
  | any | notAny => cases applied; trivial
  | element kind => exact ElementKind.gives_of_select applied

theorem Reducer.isDocuments_of_gives {reducer : Reducer} {output : Output} (gives : reducer.Gives output) :
    output.isDocuments = false := by
  cases output with
  | documents items => cases reducer <;> cases gives
  | _ => rfl

theorem Reducer.isDocuments_apply {naming : FieldNaming} {documents : List Json}
    {reducer : Reducer} {output : Output} (applied : reducer.apply naming documents = .ok output) :
    output.isDocuments = false :=
  isDocuments_of_gives (gives_of_apply applied)

namespace Execution

variable {naming : FieldNaming} {earlier later : List Step} {documents : List Json}

/-- The state after steps on documents. -/
def after (naming : FieldNaming) (steps : List Step) (documents : List Json) :
    Except Error Execution := do
  checkSteps false steps
  steps.foldlM (advance naming) (ofDocuments documents)

theorem runSteps_eq_after (naming : FieldNaming) (steps : List Step) (documents : List Json) :
    runSteps naming steps documents = (after naming steps documents).map Execution.output := by
  rw [runSteps, after, map_bind]
  rfl

theorem advance_documents_eq (step : Step) (keys : List SortKey) (documents : List Json) :
    advance naming ⟨.documents documents, keys⟩ step =
      (step.apply naming (step.sortKeys naming keys) documents).map fun output =>
        ⟨output, step.sortKeys naming keys⟩ := by
  change (step.apply naming (step.sortKeys naming keys) documents >>= _) = _
  cases step.apply naming (step.sortKeys naming keys) documents <;> rfl

/-- What comes of steps in a state. -/
def finish (naming : FieldNaming) (steps : List Step) (state : Execution) : Except Error Output :=
  (steps.foldlM (advance naming) state).map Execution.output

theorem runSteps_eq_bind (naming : FieldNaming) (steps : List Step) (documents : List Json) :
    runSteps naming steps documents =
      checkSteps false steps >>= fun _ => finish naming steps (ofDocuments documents) := by
  rw [runSteps_eq_after, after, map_bind]
  rfl

theorem finish_cons (step : Step) (rest : List Step) (state : Execution) :
    finish naming (step :: rest) state = state.advance naming step >>= finish naming rest := by
  rw [finish, List.foldlM_cons, map_bind]
  rfl

theorem finish_singleton (step : Step) (keys : List SortKey) (documents : List Json) :
    finish naming [step] ⟨.documents documents, keys⟩ =
      step.apply naming (step.sortKeys naming keys) documents := by
  rw [finish_cons, advance_documents_eq]
  cases step.apply naming (step.sortKeys naming keys) documents <;> rfl

theorem runSteps_singleton {step : Step} (placed : checkSteps false [step] = .ok ())
    (documents : List Json) :
    runSteps naming [step] documents = step.apply naming (step.sortKeys naming []) documents := by
  rw [runSteps_eq_after, after, placed, ok_bind]
  exact finish_singleton step [] documents

/-- No step can follow what is no list of documents. -/
theorem finish_of_result {state : Execution} (result : state.output.isDocuments = false)
    (step : Step) (rest : List Step) :
    finish naming (step :: rest) state =
      .error (.query (.afterResult step.kind state.output.shape)) := by
  obtain ⟨output, keys⟩ := state
  rw [finish_cons]
  cases output with
  | documents => cases result
  | _ => rfl

/-- Steps that may stand anywhere go on from the state that the steps before them have left. -/
theorem runSteps_append (placed : ∀ ordered, checkSteps ordered later = .ok ()) :
    runSteps naming (earlier ++ later) documents =
      after naming earlier documents >>= finish naming later := by
  simp only [runSteps_eq_after, after, checkSteps_append, bind_assoc, placed, map_bind, ok_bind,
    List.foldlM_append]
  rfl

theorem advance_documents {Holds : Json → Prop}
    (projects : ∀ document paths, Holds document → Holds (document.project paths))
    {state next : Execution} {step : Step} {items : List Json}
    (known : ∀ documents, state.output = .documents documents → ∀ document ∈ documents, Holds document)
    (advanced : state.advance naming step = .ok next) (left : next.output = .documents items) :
    ∀ item ∈ items, Holds item := by
  obtain ⟨output, keys⟩ := state
  cases output with
  | document | scalar | boolean => cases advanced
  | documents documents =>
    have all := known documents rfl
    obtain ⟨made, applied, rest⟩ := bind_eq_ok.mp advanced
    cases rest
    cases left
    intro item member
    cases step with
    | filter predicate =>
      obtain ⟨kept, found, made⟩ := bind_eq_ok.mp applied
      cases made
      exact all item (mem_of_keepItems found member)
    | orderBy | thenBy =>
      cases applied
      exact all item (mem_sortBy.mp member)
    | skip count =>
      cases applied
      exact all item (List.mem_of_mem_drop member)
    | take count =>
      cases applied
      exact all item (List.mem_of_mem_take member)
    | project fields =>
      cases applied
      obtain ⟨document, among, rfl⟩ := List.mem_map.mp member
      exact projects document _ (all document among)
    | any | all =>
      obtain ⟨_, _, made⟩ := bind_eq_ok.mp applied
      cases made
    | element kind predicate =>
      obtain ⟨kept, _, selected⟩ := bind_eq_ok.mp applied
      have reduced : (Reducer.element kind).apply naming kept = .ok (.documents items) := selected
      exact absurd (Reducer.isDocuments_apply reduced) (by simp [Output.isDocuments])
    | aggregate function field =>
      have reduced : (Reducer.aggregate function field).apply naming documents =
        .ok (.documents items) := applied
      exact absurd (Reducer.isDocuments_apply reduced) (by simp [Output.isDocuments])
    | reduce reducer =>
      exact absurd (Reducer.isDocuments_apply applied) (by simp [Output.isDocuments])
    | _ => cases applied

theorem after_documents {Holds : Json → Prop}
    (projects : ∀ document paths, Holds document → Holds (document.project paths))
    (known : ∀ document ∈ documents, Holds document) {state : Execution} {items : List Json}
    (ran : after naming earlier documents = .ok state) (left : state.output = .documents items) :
    ∀ item ∈ items, Holds item := by
  obtain ⟨_, _, further⟩ := bind_eq_ok.mp ran
  have start : ∀ held, (ofDocuments documents).output = .documents held →
      ∀ document ∈ held, Holds document := by
    intro held here
    cases here
    exact known
  exact foldlM_keeps (fun _ _ _ held advanced _ => advance_documents projects held advanced) start further
    items left

end Execution
end DocQuery
