import DocQuery.Proofs.DividedPlans
import DocQuery.Proofs.ExecutionStates

/-! The shape of what a plan gives. The last step of a plan decides it: documents, unless that step reduces
them to something else. No pass over a plan changes what its last step reduces to, and a server carries
out no reductions. -/

namespace DocQuery

/-- Whether an output has the shape that a last step calls for: documents without a reduction. -/
def Output.Fits (output : Output) : Option Reducer → Prop
  | some reducer => reducer.Gives output
  | none => output.isDocuments

theorem Step.fits_of_apply {step : Step} {naming : FieldNaming} {keys : List SortKey}
    {documents : List Json} {output : Output} (applied : step.apply naming keys documents = .ok output) :
    output.Fits step.reducer? := by
  cases step with
  | filter predicate | any predicate | all predicate =>
    obtain ⟨_, _, made⟩ := bind_eq_ok.mp applied
    cases made
    trivial
  | orderBy | thenBy | skip | take | project => cases applied; rfl
  | element kind predicate =>
    obtain ⟨_, _, selected⟩ := bind_eq_ok.mp applied
    exact ElementKind.gives_of_select selected
  | aggregate function field => exact AggregateFunction.gives_of_aggregate applied
  | reduce reducer => exact Reducer.gives_of_apply applied
  | _ => cases applied

/-- The last of the steps decides what comes of documents. -/
theorem fits_of_runSteps {naming : FieldNaming} {steps : List Step} {documents : List Json}
    {output : Output} (ran : runSteps naming steps documents = .ok output) :
    output.Fits (steps.getLast?.bind Step.reducer?) := by
  obtain rfl | ⟨earlier, last, rfl⟩ := List.eq_nil_or_concat steps
  · cases ran
    rfl
  obtain ⟨_, _, further⟩ := bind_eq_ok.mp ran
  obtain ⟨final, folded, made⟩ := bind_eq_ok.mp further
  cases made
  rw [List.concat_eq_append, List.foldlM_append] at folded
  obtain ⟨state, _, advanced⟩ := bind_eq_ok.mp folded
  rw [List.foldlM_cons] at advanced
  obtain ⟨next, advanced, stopped⟩ := bind_eq_ok.mp advanced
  cases stopped
  obtain ⟨output, keys⟩ := state
  cases output with
  -- Nothing follows what is no list of documents.
  | document | scalar | boolean => cases advanced
  | documents documents =>
    obtain ⟨output, applied, made⟩ := bind_eq_ok.mp advanced
    cases made
    simpa using Step.fits_of_apply applied

namespace Plan

/-- What a plan reduces documents to at its end, if it ends in a reduction. -/
def reducer? (plan : Plan) : Option Reducer := plan.chain.head?.bind Step.reducer?

theorem reducer?_ofSteps (steps : List Step) :
    (ofSteps steps).reducer? = steps.getLast?.bind Step.reducer? := by
  rw [reducer?, chain_ofSteps, List.head?_reverse]

theorem reducer?_fold {plan folded : Plan} (folds : plan.fold = .ok folded) :
    folded.reducer? = plan.reducer? := by
  have heads := congrArg List.head? (map_fold (fun _ _ changed => (Step.kind_fold changed).2) folds)
  rw [List.head?_map, List.head?_map] at heads
  change folded.chain.head?.bind _ = plan.chain.head?.bind _
  cases first : folded.chain.head? <;> cases second : plan.chain.head? <;> simp_all

theorem reducer?_optimize {plan optimized : Plan} {table : ClassificationTable}
    {options : OptimizerOptions} (accepted : plan.optimize table options = .ok optimized) :
    optimized.reducer? = plan.reducer? := by
  obtain ⟨expanded, expands, rfl⟩ := optimize_eq_ok.mp accepted
  rw [reducer?, chain_ofChain, reducer?_head_rewriteFilters, expands.reducer?_head]
  rfl

end Plan

/-- A request has no reductions. -/
theorem RequestDraft.reducer?_of_ofChain {naming : FieldNaming} {chain : List Step} {draft : RequestDraft}
    (drafted : ofChain naming chain = .ok draft) : ∀ step ∈ chain, step.reducer? = none := by
  induction chain generalizing draft with
  | nil => exact nofun
  | cons step input ih =>
    obtain ⟨before, earlier, added⟩ := bind_eq_ok.mp drafted
    refine List.forall_mem_cons.mpr ⟨?_, ih earlier⟩
    cases step with
    | any | all | element | aggregate | reduce => cases added
    | _ => rfl

namespace Compiler

variable {compiler : Compiler} {plan : Plan} {compiled : CompiledQuery}

/-- What the client makes of an answer has the shape that the last step of the plan calls for. -/
theorem fits_of_compile (accepted : compiler.compile plan = .ok compiled) {documents : List Json}
    {output : Output} (ran : runSteps compiler.naming compiled.clientSteps documents = .ok output) :
    output.Fits plan.reducer? := by
  obtain ⟨optimized, server, divides⟩ := compile_eq_ok_iff_divides.mp accepted
  obtain ⟨folded, folds, optimizes⟩ := bind_eq_ok.mp divides.optimizes
  have last : plan.reducer? = (server ++ compiled.clientSteps).getLast?.bind Step.reducer? := by
    rw [← Plan.reducer?_fold folds, ← Plan.reducer?_optimize optimizes, ← Plan.reducer?_ofSteps,
      ← divides.steps, Plan.ofSteps_steps]
  have fits := fits_of_runSteps ran
  obtain all | ⟨earlier, step, joined⟩ := List.eq_nil_or_concat compiled.clientSteps
  · -- The server carries out all steps, and none of them is a reduction.
    obtain ⟨draft, drafted, _⟩ := bind_eq_ok.mp divides.request
    have documents : server.getLast?.bind Step.reducer? = none := by
      cases ends : server.getLast? with
      | none => rfl
      | some step =>
        have among : step ∈ server.reverse := List.mem_reverse.mpr (List.mem_of_getLast? ends)
        exact RequestDraft.reducer?_of_ofChain drafted step among
    rw [all] at fits
    rwa [last, all, List.append_nil, documents]
  · rw [joined] at fits
    rw [last, joined]
    simpa using fits

end Compiler
end DocQuery
