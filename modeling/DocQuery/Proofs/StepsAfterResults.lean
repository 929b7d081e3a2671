import DocQuery.Proofs.OutputShapes
import DocQuery.Proofs.StepFailures

/-! What happens to a step that comes after a result. Compiling lets through only steps that run in memory
and sort in order, but it does not ask where they reduce documents to something else. A step that follows
such a reduction on the client fails as soon as the reduction has given its result, and nothing else makes
steps that compile fail for their places. -/

namespace DocQuery

/-- Whether a failure says that an operation is not supported. -/
def Error.IsUnsupported (failure : Error) : Prop :=
  ∃ error, failure = .query error ∧ error.kind = .unsupportedOperation

namespace Error.OfStep

variable {failure : Error}

theorem not_isUnsupported (failed : failure.OfStep) : ¬failure.IsUnsupported := by
  rintro ⟨error, rfl, kind⟩
  cases failed with
  | evaluation evaluating => cases evaluating <;> cases kind

theorem ne_afterResult (failed : failure.OfStep) (kind : OperationKind) (shape : String) :
    failure ≠ .query (.afterResult kind shape) := by
  rintro rfl
  cases failed with
  | evaluation evaluating => cases evaluating

end Error.OfStep

namespace Execution

variable {naming : FieldNaming} {steps : List Step} {state : Execution} {kind : OperationKind}
  {shape : String}

theorem advance_fails_of_documents {step : Step} (inMemory : step.runsInMemory)
    (documents : state.output.isDocuments) : FailsOnly Error.OfStep (state.advance naming step) := by
  obtain ⟨output, keys⟩ := state
  cases output with
  | documents items =>
    rw [advance_documents_eq, failsOnly_map]
    exact step.apply_fails inMemory naming _ items
  | _ => cases documents

/-- Whether steps come to one of them, at the place it has, with a result instead of documents. -/
def StopsAt (naming : FieldNaming) (steps : List Step) (state : Execution) (step : Step)
    (result : Output) : Prop :=
  result.isDocuments = false ∧ ∃ earlier later, steps = earlier ++ step :: later ∧
    finish naming earlier state = .ok result

section StopsAt

variable {first step : Step} {rest : List Step} {result : Output}

theorem not_stopsAt_nil : ¬StopsAt naming [] state step result := by
  rintro ⟨-, earlier, later, cut, -⟩
  cases earlier <;> cases cut

/-- Nothing runs past a result that is there already. -/
theorem stopsAt_of_result (found : state.output.isDocuments = false) :
    StopsAt naming (first :: rest) state step result ↔ step = first ∧ result = state.output := by
  constructor
  · rintro ⟨-, earlier, later, cut, ran⟩
    cases earlier with
    | nil =>
      cases cut
      cases ran
      exact ⟨rfl, rfl⟩
    | cons head tail =>
      rw [finish_of_result found] at ran
      cases ran
  · rintro ⟨rfl, rfl⟩
    exact ⟨found, [], rest, rfl, rfl⟩

theorem stopsAt_of_documents (documents : state.output.isDocuments) :
    StopsAt naming (first :: rest) state step result ↔
      ∃ next, state.advance naming first = .ok next ∧ StopsAt naming rest next step result := by
  constructor
  · rintro ⟨found, earlier, later, cut, ran⟩
    cases earlier with
    | nil =>
      cases ran
      rw [documents] at found
      cases found
    | cons head tail =>
      cases cut
      rw [finish_cons] at ran
      obtain ⟨next, advanced, ran⟩ := bind_eq_ok.mp ran
      exact ⟨next, advanced, found, tail, later, rfl, ran⟩
  · rintro ⟨next, advanced, found, earlier, later, rfl, ran⟩
    refine ⟨found, first :: earlier, later, rfl, ?_⟩
    rw [finish_cons, advanced, ok_bind, ran]

end StopsAt

/-- Steps fail for their places exactly where one of them finds a result. -/
theorem finish_eq_afterResult (inMemory : ∀ step ∈ steps, step.runsInMemory) :
    finish naming steps state = .error (.query (.afterResult kind shape)) ↔
      ∃ step result, StopsAt naming steps state step result ∧ kind = step.kind ∧
        shape = result.shape := by
  induction steps generalizing state with
  | nil => simp [finish, not_stopsAt_nil]
  | cons first rest ih =>
    obtain ⟨own, others⟩ := List.forall_mem_cons.mp inMemory
    cases documents : state.output.isDocuments with
    | false =>
      simp only [finish_of_result documents, stopsAt_of_result documents]
      constructor
      · rintro ⟨⟩
        exact ⟨first, state.output, ⟨rfl, rfl⟩, rfl, rfl⟩
      · rintro ⟨_, _, ⟨rfl, rfl⟩, rfl, rfl⟩
        rfl
    | true =>
      simp only [finish_cons, stopsAt_of_documents documents]
      cases advanced : state.advance naming first with
      | error failure =>
        have failed := advance_fails_of_documents own documents failure advanced
        constructor
        · rintro ⟨⟩
          exact absurd rfl (failed.ne_afterResult kind shape)
        · rintro ⟨_, _, ⟨next, reached, -⟩, -⟩
          cases reached
      | ok next =>
        rw [ok_bind, ih others]
        simp

end Execution

section Run

variable {naming : FieldNaming} {steps : List Step} {documents : List Json}

theorem runSteps_eq_finish (checked : checkSteps false steps = .ok ()) :
    runSteps naming steps documents = Execution.finish naming steps (.ofDocuments documents) := by
  rw [Execution.runSteps_eq_bind, checked, ok_bind]

theorem checkSteps_of_append {earlier later : List Step}
    (checked : checkSteps false (earlier ++ later) = .ok ()) : checkSteps false earlier = .ok () := by
  rw [checkSteps_append] at checked
  obtain ⟨_, first, _⟩ := bind_eq_ok.mp checked
  exact first

theorem fits_of_runSteps_append {earlier : List Step} {last : Step} {output : Output}
    (ran : runSteps naming (earlier ++ [last]) documents = .ok output) : output.Fits last.reducer? := by
  simpa using fits_of_runSteps ran

/-- What is no list of documents has been given by a reduction at the end. -/
theorem reducer?_of_result {output : Output} (ran : runSteps naming steps documents = .ok output)
    (result : output.isDocuments = false) :
    ∃ earlier reduction reducer, steps = earlier ++ [reduction] ∧ reduction.reducer? = some reducer := by
  obtain rfl | ⟨earlier, last, rfl⟩ := List.eq_nil_or_concat steps
  · cases ran
    cases result
  · rw [List.concat_eq_append] at ran ⊢
    have fits := fits_of_runSteps_append ran
    cases reduces : last.reducer? with
    | some reducer => exact ⟨earlier, last, reducer, rfl, reduces⟩
    | none =>
      rw [reduces] at fits
      exact absurd fits (by simp [Output.Fits, result])

/-- Steps in order stop at a result exactly where a step follows a reduction that has given one. -/
theorem runSteps_eq_afterResult (checked : checkSteps false steps = .ok ()) (kind : OperationKind)
    (shape : String) :
    runSteps naming steps documents = .error (.query (.afterResult kind shape)) ↔
      ∃ earlier reduction step later reducer output,
        steps = earlier ++ reduction :: step :: later ∧ reduction.reducer? = some reducer ∧
          runSteps naming (earlier ++ [reduction]) documents = .ok output ∧
            kind = step.kind ∧ shape = output.shape := by
  have inMemory := ((checkSteps_eq_ok false).mp checked).1
  rw [runSteps_eq_finish checked, Execution.finish_eq_afterResult inMemory]
  constructor
  · rintro ⟨step, output, ⟨result, earlier, later, rfl, ran⟩, found⟩
    rw [← runSteps_eq_finish (checkSteps_of_append checked)] at ran
    obtain ⟨before, reduction, reducer, rfl, reduces⟩ := reducer?_of_result ran result
    exact ⟨before, reduction, step, later, reducer, output, by simp, reduces, ran, found⟩
  · rintro ⟨earlier, reduction, step, later, reducer, output, rfl, reduces, ran, found⟩
    have fits := fits_of_runSteps_append ran
    rw [reduces] at fits
    have placed : checkSteps false (earlier ++ [reduction]) = .ok () := by
      rw [List.append_cons] at checked
      exact checkSteps_of_append checked
    rw [runSteps_eq_finish placed] at ran
    have result := Reducer.isDocuments_of_gives fits
    exact ⟨step, output, ⟨result, earlier ++ [reduction], later, by simp, ran⟩, found⟩

end Run

/-- Steps in order fail for what they find in documents or at a result. -/
theorem runSteps_fails_or_stops {naming : FieldNaming} {steps : List Step}
    (checked : checkSteps false steps = .ok ()) (documents : List Json) :
    FailsOnly (fun failure => failure.OfStep ∨ ∃ kind shape, failure = .query (.afterResult kind shape))
      (runSteps naming steps documents) := by
  have inMemory := ((checkSteps_eq_ok false).mp checked).1
  rw [runSteps_eq_finish checked, Execution.finish, failsOnly_map]
  apply FailsOnly.foldlM
  intro state step member
  cases result : state.output.isDocuments with
  | true =>
    exact (Execution.advance_fails_of_documents (inMemory step member) result).mono fun _ => Or.inl
  | false =>
    intro failure stopped
    obtain ⟨output, keys⟩ := state
    cases output with
    | documents => cases result
    | _ => cases stopped; exact Or.inr ⟨_, _, rfl⟩

namespace Plan

variable {table : ClassificationTable} {chain expanded : List Step} {plan : Plan}

/-- Whether nothing follows a reduction: every step but the last makes documents of documents. -/
def ReducesLast (chain : List Step) : Prop := ∀ step ∈ chain.tail, step.reducer? = none

theorem reducesLast_iff : ReducesLast plan.chain ↔ ∀ step ∈ plan.steps.dropLast, step.reducer? = none := by
  simp [ReducesLast, steps, List.dropLast_reverse]

theorem reducesLast_fold {folded : Plan} (folds : plan.fold = .ok folded) (last : ReducesLast plan.chain) :
    ReducesLast folded.chain := by
  have tails := congrArg List.tail (map_fold (fun _ _ changed => (Step.kind_fold changed).2) folds)
  rw [← List.map_tail, ← List.map_tail] at tails
  intro step member
  have among : step.reducer? ∈ plan.chain.tail.map Step.reducer? := by
    rw [← tails]
    exact List.mem_map_of_mem member
  obtain ⟨other, inside, same⟩ := List.mem_map.mp among
  rw [← same, last other inside]

/-- Only reductions are expanded. -/
theorem ExpandsTo.eq_self (expands : ExpandsTo table chain expanded)
    (documents : ∀ step ∈ chain, step.reducer? = none) : expanded = chain := by
  induction expands with
  | nil => rfl
  | plain _ _ ih => rw [ih (List.forall_mem_cons.mp documents).2]
  | composite _ expands _ _ _ =>
    have own := (List.forall_mem_cons.mp documents).1
    rw [Step.reducer?_of_expand expands] at own
    cases own

theorem ExpandsTo.reducesLast (expands : ExpandsTo table chain expanded)
    (last : ReducesLast chain) : ReducesLast expanded := by
  cases expands with
  | nil => exact last
  | plain _ before =>
    rw [before.eq_self last]
    exact last
  | composite _ expands _ before =>
    rw [before.eq_self last]
    exact List.forall_mem_append.mpr ⟨Step.reducer?_fetching expands, last⟩

theorem reducesLast_rewriteFilters (options : OptimizerOptions) (last : ReducesLast chain) :
    ReducesLast (rewriteFilters options chain) := by
  have merged : ReducesLast (if options.mergesFilters then mergeFilters chain else chain) := by
    split
    · cases chain with
      | nil => exact last
      | cons step input =>
        have before : ∀ other ∈ mergeFilters input, other.reducer? = none :=
          forall_mergeFilters (fun _ _ _ own => own) last
        change ReducesLast (mergeStep step (mergeFilters input))
        unfold mergeStep
        split
        next equal =>
          rw [equal] at before
          exact (List.forall_mem_cons.mp before).2
        next => exact before
    · exact last
  unfold rewriteFilters
  dsimp only
  split
  · intro step member
    rw [← List.map_tail] at member
    obtain ⟨other, among, rfl⟩ := List.mem_map.mp member
    rw [reducer?_normalizeStep]
    exact merged other among
  · exact merged

theorem reducesLast_optimize {optimized : Plan} {options : OptimizerOptions}
    (accepted : plan.optimize table options = .ok optimized) (last : ReducesLast plan.chain) :
    ReducesLast optimized.chain := by
  obtain ⟨expanded, expands, rfl⟩ := optimize_eq_ok.mp accepted
  rw [chain_ofChain]
  exact reducesLast_rewriteFilters options (expands.reducesLast last)

end Plan

/-- The steps of the client come from the end of the plan, so nothing follows a reduction there either. -/
theorem Compiler.Divides.reducesLast {compiler : Compiler} {plan optimized : Plan} {server : List Step}
    {compiled : CompiledQuery} (divides : Divides compiler plan optimized server compiled)
    (last : Plan.ReducesLast plan.chain) : ∀ step ∈ compiled.clientSteps.dropLast, step.reducer? = none := by
  obtain ⟨folded, folds, accepted⟩ := bind_eq_ok.mp divides.optimizes
  have all := Plan.reducesLast_iff.mp
    (Plan.reducesLast_optimize accepted (Plan.reducesLast_fold folds last))
  intro step member
  have some : compiled.clientSteps ≠ [] := by
    rintro none
    rw [none] at member
    cases member
  apply all step
  rw [divides.steps, List.dropLast_append_of_ne_nil some]
  exact List.mem_append_right server member

/-- Compiled steps run until a result. Those of the client pass the check before the fetch, and no
operation of theirs is unsupported. They fail for their places just where a step follows a reduction
that has given a result, and never if no step but the last of the plan is a reduction. -/
theorem clientSteps_run_until_result (compiler : Compiler) (plan : Plan) {compiled : CompiledQuery}
    (accepted : compiler.compile plan = .ok compiled) (documents : List Json) :
    checkSteps false compiled.clientSteps = .ok () ∧
      FailsOnly (fun failure => ¬failure.IsUnsupported)
        (runSteps compiler.naming compiled.clientSteps documents) ∧
      (∀ kind shape, runSteps compiler.naming compiled.clientSteps documents =
          .error (.query (.afterResult kind shape)) ↔
        ∃ earlier reduction step later reducer output,
          compiled.clientSteps = earlier ++ reduction :: step :: later ∧
            reduction.reducer? = some reducer ∧
            runSteps compiler.naming (earlier ++ [reduction]) documents = .ok output ∧
            kind = step.kind ∧ shape = output.shape) ∧
      ((∀ step ∈ plan.steps.dropLast, step.reducer? = none) → ∀ kind shape,
        runSteps compiler.naming compiled.clientSteps documents ≠
          .error (.query (.afterResult kind shape))) := by
  obtain ⟨optimized, server, divides⟩ := Compiler.compile_eq_ok_iff_divides.mp accepted
  have checked : checkSteps false compiled.clientSteps = .ok () :=
    (checkSteps_eq_ok false).mpr ⟨divides.inMemory, Or.inr divides.ordered⟩
  refine ⟨checked, ?_, fun kind shape => runSteps_eq_afterResult checked kind shape, ?_⟩
  · refine (runSteps_fails_or_stops checked documents).mono ?_
    rintro failure (failed | ⟨kind, shape, rfl⟩)
    · exact failed.not_isUnsupported
    · rintro ⟨error, same, unsupported⟩
      cases same
      cases unsupported
  · intro last kind shape stopped
    obtain ⟨earlier, reduction, step, later, reducer, output, cut, reduces, -⟩ :=
      (runSteps_eq_afterResult checked kind shape).mp stopped
    have before : reduction ∈ compiled.clientSteps.dropLast := by
      rw [cut, List.dropLast_append_of_ne_nil (by simp)]
      simp
    have none := divides.reducesLast (Plan.reducesLast_iff.mpr last) reduction before
    rw [reduces] at none
    cases none

/-- The last document of the least age: the age is there, and then there are no documents left. -/
theorem clientSteps_run_until_result_least :
    let compiler : Compiler := ⟨.ofCase .unchanged, .standard, none⟩
    let plan : Plan := .ofSteps [.aggregate .min ⟨["age"]⟩, .element .last none]
    ∃ compiled, compiler.compile plan = .ok compiled ∧
      runSteps compiler.naming compiled.clientSteps [.object [("age", .integer 2)]] =
        .error (.query (.afterResult .last "scalar")) := by
  intro compiler plan
  have least : runSteps (.ofCase .unchanged) [.reduce (.aggregate .min ⟨["age"]⟩)]
      [.object [("age", .integer 2)]] = .ok (.scalar (.integer 2)) := rfl
  refine ⟨_, rfl, ?_⟩
  obtain ⟨_, _, stops, _⟩ := clientSteps_run_until_result compiler plan rfl
    [.object [("age", .integer 2)]]
  exact (stops .last "scalar").mpr ⟨[], _, _, [], _, _, rfl, rfl, least, rfl, rfl⟩

/-- The last document of the last document: the plan compiles, all documents are fetched, and the second
step finds no list of them. -/
theorem compile_lastOfLast :
    let compiler : Compiler := ⟨.ofCase .unchanged, .standard, none⟩
    let plan : Plan := .ofSteps [.element .last none, .element .last none]
    ∃ compiled, compiler.compile plan = .ok compiled ∧
      runSteps compiler.naming compiled.clientSteps [.object [("_id", .string "a")]] =
        .error (.query (.afterResult .last "document")) :=
  ⟨_, rfl, rfl⟩

end DocQuery
