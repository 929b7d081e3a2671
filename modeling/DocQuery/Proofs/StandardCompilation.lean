import DocQuery.Proofs.DividedPlans
import DocQuery.Proofs.RequestPreservation
import DocQuery.QueryResult

/-! Compiling for a server that has all operations. Once composite operations are expanded, a plan
ends in the steps that are left to the client, and the steps before them give the request as they
stand: merging their filters and normalizing them changes nothing in it. -/

namespace DocQuery

theorem FindRequest.ofChain_rewritten (naming : FieldNaming) (discriminator : Option String)
    (chain : List Step) :
    FindRequest.ofChain naming discriminator ((Plan.mergeFilters chain).map Plan.normalizeStep) =
      FindRequest.ofChain naming discriminator chain := by
  rw [FindRequest.ofChain, Plan.ofChain_normalizeStep]
  exact bind_congr_map (Plan.ofChain_mergeFilters naming chain) fun first second same =>
    RequestDraft.finish_flat discriminator same

namespace Plan

variable {last server : List Step}

/-- Steps left to the client are no filters. -/
theorem rewrite_append (left : ∀ step ∈ last, step.kind.standardClass = .clientOnly) :
    (mergeFilters (last ++ server)).map normalizeStep =
      last ++ (mergeFilters server).map normalizeStep := by
  induction last with
  | nil => rfl
  | cons step rest ih =>
    obtain ⟨own, others⟩ := List.forall_mem_cons.mp left
    have apart : mergeFilters (step :: (rest ++ server)) = step :: mergeFilters (rest ++ server) := by
      cases step <;> first | rfl | cases own
    have same : normalizeStep step = step := by
      cases step <;> first | rfl | cases own
    rw [List.cons_append, apart, List.map_cons, same, ih others, List.cons_append]

theorem native_rewritten (native : ∀ step ∈ server, step.kind.standardClass = .native) :
    ∀ step ∈ (mergeFilters server).map normalizeStep, step.kind.standardClass = .native :=
  forall_kind_rewriteFilters (fun kind => kind.standardClass = .native) default native

theorem fold_ofSteps_append (earlier : List Step) (last : Step) :
    (ofSteps (earlier ++ [last])).fold = last.fold >>= fun folded =>
      (earlier.reverse.mapM Step.fold).map fun input => ofChain (folded :: input) := by
  rw [fold, chain_ofSteps, List.reverse_append, List.reverse_singleton, List.singleton_append,
    List.mapM_cons]
  cases last.fold with
  | error failure => rfl
  | ok folded => cases earlier.reverse.mapM Step.fold <;> rfl

end Plan

theorem ClassificationTable.split_standard {server client : List Step}
    (native : ∀ step ∈ server, step.kind.standardClass = .native)
    (left : ∀ step ∈ client, step.kind.standardClass = .clientOnly)
    (checked : checkSteps false client = .ok ()) :
    standard.split (Plan.ofChain (client.reverse ++ server)).root =
      .ok ((Plan.ofChain server).root, client) := by
  refine split_eq_ok.mpr ⟨by simp, ?_, fun step member => congrArg some (left step member), checked⟩
  intro step member
  rw [Plan.root_chain, Plan.chain_ofChain] at member
  exact congrArg some (native step member)

/-- No step of a server is expanded. -/
theorem Plan.expandComposites_native {server : List Step}
    (native : ∀ step ∈ server, step.kind.standardClass = .native) :
    expandComposites .standard server = .ok server :=
  expandComposites_of_plain fun step member => Or.inl (congrArg some (native step member))

namespace Compiler

variable {naming : FieldNaming} {discriminator : Option String} {plan folded : Plan}
  {server client : List Step}

/-- A plan compiles to the request of its native steps and to the steps after them. -/
theorem compile_standard (folds : plan.fold = .ok folded)
    (expands : Plan.expandComposites .standard folded.chain = .ok (client.reverse ++ server))
    (native : ∀ step ∈ server, step.kind.standardClass = .native)
    (left : ∀ step ∈ client, step.kind.standardClass = .clientOnly)
    (checked : checkSteps false client = .ok ()) :
    compile ⟨naming, .standard, discriminator⟩ plan =
      (FindRequest.ofChain naming discriminator server).map fun request => ⟨request, client⟩ := by
  have optimized : folded.optimize .standard default =
      .ok (.ofChain (client.reverse ++ (Plan.mergeFilters server).map Plan.normalizeStep)) := by
    rw [Plan.optimize, expands, ← Plan.rewrite_append (by simpa using left)]
    rfl
  rw [compile, folds, ok_bind, optimized, ok_bind,
    ClassificationTable.split_standard (Plan.native_rewritten native) left checked]
  simp only [ok_bind, Plan.root_chain, Plan.chain_ofChain, FindRequest.ofChain_rewritten, pure_eq_ok]
  cases FindRequest.ofChain naming discriminator server <;> rfl

/-- A plan with one operation at its end, by what that is expanded into. -/
theorem compile_append {earlier input : List Step} {last changed : Step}
    (ofLast : last.fold = .ok changed) (ofEarlier : earlier.reverse.mapM Step.fold = .ok input)
    (expands : Plan.expandComposites .standard (changed :: input) = .ok (client.reverse ++ server))
    (native : ∀ step ∈ server, step.kind.standardClass = .native)
    (left : ∀ step ∈ client, step.kind.standardClass = .clientOnly)
    (checked : checkSteps false client = .ok ()) :
    compile ⟨naming, .standard, discriminator⟩ (.ofSteps (earlier ++ [last])) =
      (FindRequest.ofChain naming discriminator server).map fun request => ⟨request, client⟩ := by
  have folds : (Plan.ofSteps (earlier ++ [last])).fold = .ok (.ofChain (changed :: input)) := by
    rw [Plan.fold_ofSteps_append, ofLast, ok_bind, ofEarlier]
    rfl
  exact compile_standard folds (by rwa [Plan.chain_ofChain]) native left checked

/-- What a plan gives on a database that holds some documents: the client's steps are carried out on
those that the request finds. -/
theorem output_execute (compiler : Compiler) {store : Store} {database : String} (plan : Plan)
    {documents : List Json} (ready : store.failure = none)
    (held : store.databases.get? database = some documents) :
    (compiler.execute store database plan).1.map QueryResult.output =
      compiler.compile plan >>= fun compiled =>
        (compiled.request.answer store.warning documents).map FindResponse.docs >>=
          runSteps compiler.naming compiled.clientSteps := by
  rw [fst_execute, map_bind]
  congr 1
  funext compiled
  simp only [Store.respond, ready, held]
  cases compiled.request.answer store.warning documents with
  | error failure => rfl
  | ok response =>
    simp only [ok_bind, map_ok, CompiledQuery.resultOf]
    cases runSteps compiler.naming compiled.clientSteps response.docs <;> rfl

end Compiler
end DocQuery
