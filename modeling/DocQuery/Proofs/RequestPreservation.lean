import DocQuery.Proofs.EmittedClauses
import DocQuery.Proofs.OptimizerPasses
import DocQuery.Proofs.FoldedExpressions
import DocQuery.Proofs.RequestKeys

/-! Optimizing a plan that the server carries out by itself changes nothing in its request. Merged
filters give one array of clauses where separate ones give several clauses, and a selector is made of
the flattened clauses. Failures come from the same steps in the same order. -/

namespace DocQuery
namespace Expression

variable {naming : FieldNaming}

/-- The selector of a conjunction comes from those of its two sides, the left one first. -/
theorem selector_and (left right : Expression) :
    (Expression.binary (.connective .and) left right).selector naming =
      (left.selector naming >>= fun first =>
        right.selector naming >>= fun second => .ok (connect .and false [first, second])) := by
  simp only [selector, clauses_connective]
  cases foundLeft : left.clauses naming .document none false with
  | error failure => rfl
  | ok first =>
    obtain ⟨clause, rfl, _⟩ := emits_of_clauses left foundLeft
    cases foundRight : right.clauses naming .document none false with
    | error failure => rfl
    | ok second =>
      obtain ⟨other, rfl, _⟩ := emits_of_clauses right foundRight
      rfl

end Expression

namespace RequestDraft

/-- A draft with its clauses flattened, as they get into the request. -/
def flat (draft : RequestDraft) : RequestDraft :=
  { draft with clauses := spliced "$and" draft.clauses }

theorem eq_withClauses_of_flat {first second : RequestDraft} (same : first.flat = second.flat) :
    second = first.withClauses second.clauses ∧
      spliced "$and" first.clauses = spliced "$and" second.clauses := by
  obtain ⟨body, clauses, sort, skip, limit, paginated⟩ := first
  obtain ⟨otherBody, others, otherSort, otherSkip, otherLimit, otherPaginated⟩ := second
  simp only [flat, mk.injEq] at same
  obtain ⟨rfl, flattened, rfl, rfl, rfl, rfl⟩ := same
  exact ⟨rfl, flattened⟩

theorem finishSort_withClauses (draft : RequestDraft) (clauses : List Json) :
    (draft.withClauses clauses).finishSort = draft.finishSort.map (·.withClauses clauses) := by
  obtain ⟨body, own, sort, skip, limit, paginated⟩ := draft
  cases sort with
  | nil => rfl
  | cons first rest =>
    cases uniform : (first :: rest).all (·.2 == first.2) <;>
      simp [finishSort, withClauses, put, uniform]

theorem finishSkip_withClauses (draft : RequestDraft) (clauses : List Json) :
    (draft.withClauses clauses).finishSkip = draft.finishSkip.withClauses clauses := by
  cases skipped : draft.body.contains "skip" <;> simp [finishSkip, withClauses, put, skipped]

theorem finishLimit_withClauses (draft : RequestDraft) (clauses : List Json) :
    (draft.withClauses clauses).finishLimit = draft.finishLimit.withClauses clauses := by
  obtain ⟨body, own, sort, skip, limit, paginated⟩ := draft
  cases limit <;> rfl

theorem complete_withClauses (draft : RequestDraft) (clauses : List Json) :
    (draft.withClauses clauses).complete = draft.complete.map (·.withClauses clauses) := by
  rw [complete, complete, finishSort_withClauses]
  cases draft.finishSort with
  | error failure => rfl
  | ok sorted => simp [finishSkip_withClauses, finishLimit_withClauses]

theorem conjunction_congr {first second : List Json}
    (same : spliced "$and" first = spliced "$and" second) :
    conjunction first = conjunction second := by
  unfold conjunction
  rw [same]

theorem selectorClauses_flat {first second : RequestDraft} (discriminator : Option String)
    (same : spliced "$and" first.clauses = spliced "$and" second.clauses) :
    spliced "$and" (first.selectorClauses discriminator) =
      spliced "$and" (second.selectorClauses discriminator) := by
  cases discriminator with
  | none => exact same
  | some name =>
    have split : ∀ clauses, spliced "$and" (single discriminatorField (.string name) :: clauses) =
        single discriminatorField (.string name) :: spliced "$and" clauses := fun _ => rfl
    rw [selectorClauses, selectorClauses, split, split, same]

theorem finish_flat {first second : RequestDraft} (discriminator : Option String)
    (same : first.flat = second.flat) :
    first.finish discriminator = second.finish discriminator := by
  obtain ⟨other, flattened⟩ := eq_withClauses_of_flat same
  rw [finish_eq, finish_eq, other, complete_withClauses]
  cases completed : first.complete with
  | error failure => rfl
  | ok full =>
    have joined : conjunction (full.selectorClauses discriminator) =
        conjunction ((full.withClauses second.clauses).selectorClauses discriminator) := by
      apply conjunction_congr
      apply selectorClauses_flat discriminator
      rw [clauses_of_complete completed]
      exact flattened
    simp only [map_ok, request, ← joined]
    rfl

theorem requireUnpaginated_withClauses (draft : RequestDraft) (clauses : List Json)
    (operation : String) :
    (draft.withClauses clauses).requireUnpaginated operation = draft.requireUnpaginated operation :=
  rfl

/-- A step that adds no clause goes by everything but the clauses. -/
theorem addStep_withClauses (naming : FieldNaming) (draft : RequestDraft) (clauses : List Json)
    {step : Step} (plain : ∀ predicate, step ≠ .filter predicate) :
    (draft.withClauses clauses).addStep naming step =
      (draft.addStep naming step).map (·.withClauses clauses) := by
  cases step with
  | filter predicate => exact absurd rfl (plain predicate)
  | orderBy field order =>
    simp only [addStep, setOrder, requireUnpaginated_withClauses, reserve_withClauses]
    cases draft.requireUnpaginated "OrderBy" <;> rfl
  | thenBy field order =>
    simp only [addStep, addOrder, requireUnpaginated_withClauses]
    cases draft.requireUnpaginated "ThenBy" with
    | error failure => rfl
    | ok unpaginated => cases sorted : draft.sort.isEmpty <;> simp [withClauses, sorted]
  | skip count => simp only [addStep, addSkip, reserve_withClauses]; rfl
  | take count => simp only [addStep, addLimit, reserve_withClauses]; rfl
  | useIndex index => rcases index with _ | ⟨design, _ | ⟨name, _ | ⟨other, rest⟩⟩⟩ <;> rfl
  | _ => rfl

theorem addFilter_flat (naming : FieldNaming) (predicate : Expression) {first second : RequestDraft}
    (same : first.flat = second.flat) :
    (first.addFilter naming predicate).map flat = (second.addFilter naming predicate).map flat := by
  obtain ⟨other, flattened⟩ := eq_withClauses_of_flat same
  rw [other]
  simp only [addFilter, requireUnpaginated_withClauses, reserve_withClauses, map_bind]
  congr 1
  funext _
  congr 1
  funext clause
  simp only [flat, withClauses, reserve_clauses, pure_eq_ok, map_ok, Json.spliced_append, flattened]

theorem addOther_flat (naming : FieldNaming) {step : Step} {first second : RequestDraft}
    (plain : ∀ predicate, step ≠ .filter predicate) (same : first.flat = second.flat) :
    (first.addStep naming step).map flat = (second.addStep naming step).map flat := by
  obtain ⟨other, flattened⟩ := eq_withClauses_of_flat same
  have own : first.addStep naming step =
      (first.addStep naming step).map (·.withClauses first.clauses) :=
    addStep_withClauses naming first first.clauses plain
  rw [other, addStep_withClauses naming first _ plain, own]
  cases first.addStep naming step with
  | error failure => rfl
  | ok next => simp [flat, withClauses, flattened]

theorem addStep_flat (naming : FieldNaming) (step : Step) {first second : RequestDraft}
    (same : first.flat = second.flat) :
    (first.addStep naming step).map flat = (second.addStep naming step).map flat := by
  cases step with
  | filter predicate => exact addFilter_flat naming predicate same
  | _ => exact addOther_flat naming nofun same

/-- One filter by a conjunction comes to filters by both sides. -/
theorem addFilter_and (naming : FieldNaming) (draft : RequestDraft) (inner outer : Expression) :
    (draft.addFilter naming (.binary (.connective .and) inner outer)).map flat =
      (draft.addFilter naming inner >>= fun next => next.addFilter naming outer).map flat := by
  cases paginated : draft.paginated with
  | true => simp [addFilter, requireUnpaginated, paginated]
  | false =>
    rw [addFilter_eq paginated, addFilter_eq paginated, Expression.selector_and]
    cases inner.selector naming with
    | error failure => rfl
    | ok first =>
      simp only [map_ok, ok_bind]
      rw [addFilter_eq (by simpa [withClauses] using paginated)]
      cases outer.selector naming with
      | error failure => rfl
      | ok second =>
        have flattened : spliced "$and" [Expression.connect .and false [first, second]] =
            spliced "$and" [first, second] := Expression.spliced_connect .and _
        simp only [map_ok, reserve_withClauses, reserve_reserve]
        simp [flat, withClauses, Json.spliced_append, flattened]

end RequestDraft

namespace Plan

theorem ofChain_mergeStep (naming : FieldNaming) (step : Step) (merged : List Step) :
    (RequestDraft.ofChain naming (mergeStep step merged)).map RequestDraft.flat =
      (RequestDraft.ofChain naming (step :: merged)).map RequestDraft.flat := by
  unfold mergeStep
  split
  next outer inner rest =>
    simp only [RequestDraft.ofChain, RequestDraft.addStep, bind_assoc, map_bind]
    congr 1
    funext draft
    rw [draft.addFilter_and, map_bind]
  next => rfl

theorem ofChain_mergeFilters (naming : FieldNaming) (chain : List Step) :
    (RequestDraft.ofChain naming (mergeFilters chain)).map RequestDraft.flat =
      (RequestDraft.ofChain naming chain).map RequestDraft.flat := by
  induction chain with
  | nil => rfl
  | cons step input ih =>
    rw [mergeFilters, List.foldr_cons, ofChain_mergeStep]
    simp only [RequestDraft.ofChain, map_bind]
    exact bind_congr_map ih fun first second same => RequestDraft.addStep_flat naming step same

theorem addStep_normalizeStep (naming : FieldNaming) (draft : RequestDraft) (step : Step) :
    draft.addStep naming (normalizeStep step) = draft.addStep naming step := by
  cases step with
  | filter predicate =>
    simp only [normalizeStep, RequestDraft.addStep, RequestDraft.addFilter,
      Expression.selector_normalize]
  | _ => rfl

theorem ofChain_normalizeStep (naming : FieldNaming) (chain : List Step) :
    RequestDraft.ofChain naming (chain.map normalizeStep) = RequestDraft.ofChain naming chain := by
  induction chain with
  | nil => rfl
  | cons step input ih =>
    simp only [List.map_cons, RequestDraft.ofChain, ih, addStep_normalizeStep]

theorem fold_of_native {step : Step} (native : step.kind.standardClass = .native)
    (folded : ∀ predicate, step = .filter predicate → predicate.IsFolded) :
    step.fold = .ok step := by
  cases step with
  | filter predicate =>
    rw [Step.fold, Expression.fold_of_isFolded predicate (folded predicate rfl)]
    rfl
  | all predicate => cases native
  | any predicate => cases native
  | element kind predicate => cases kind <;> cases native
  | _ => rfl

theorem fold_eq_self {plan : Plan}
    (native : ∀ step ∈ plan.chain, step.kind.standardClass = .native)
    (folded : ∀ predicate, .filter predicate ∈ plan.chain → predicate.IsFolded) :
    plan.fold = .ok plan := by
  have same : plan.chain.mapM Step.fold = .ok plan.chain := by
    refine mapM_eq_self fun step among => fold_of_native (native step among) ?_
    rintro predicate rfl
    exact folded predicate among
  rw [fold, same, ok_bind, pure_eq_ok, ofChain_chain]

end Plan

/-- Optimizing a plan of native operations with nothing left to fold preserves its request, or the
failure to make one. -/
theorem ofChain_optimize {plan : Plan}
    (native : ∀ step ∈ plan.chain, step.kind.standardClass = .native)
    (folded : ∀ predicate, .filter predicate ∈ plan.chain → predicate.IsFolded)
    (options : OptimizerOptions) (naming : FieldNaming) (discriminator : Option String) :
    (plan.fold >>= fun constant => constant.optimize .standard options >>= fun optimized =>
      FindRequest.ofChain naming discriminator optimized.chain) =
      FindRequest.ofChain naming discriminator plan.chain := by
  rw [Plan.fold_eq_self native folded, ok_bind, Plan.optimize,
    Plan.expandComposites_of_plain fun step among => Or.inl (congrArg some (native step among))]
  simp only [ok_bind, pure_eq_ok, Plan.chain_ofChain]
  have merged : ∀ chain, (RequestDraft.ofChain naming
      (if options.mergesFilters then Plan.mergeFilters chain else chain)).map RequestDraft.flat =
      (RequestDraft.ofChain naming chain).map RequestDraft.flat := by
    intro chain
    split
    · exact Plan.ofChain_mergeFilters naming chain
    · rfl
  have normalized : ∀ chain, RequestDraft.ofChain naming
      (if options.normalizes then chain.map Plan.normalizeStep else chain) =
      RequestDraft.ofChain naming chain := by
    intro chain
    split
    · exact Plan.ofChain_normalizeStep naming chain
    · rfl
  rw [FindRequest.ofChain, normalized]
  exact bind_congr_map (merged plan.chain) fun first second same =>
    RequestDraft.finish_flat discriminator same

/-- Two filters, one of them by a flag, and a sort between them. -/
theorem ofChain_optimize_filters :
    let pinned : Expression := .unary .not (.field ⟨["pinned"]⟩ .boolean)
    let recent : Expression := .binary (.connective .and) (.field ⟨["public"]⟩ .boolean)
      (.binary (.comparison .ge) (.field ⟨["year"]⟩ .value) (.literal (.int 2020)))
    let plan : Plan := .ofSteps [.filter pinned, .filter recent, .orderBy ⟨["year"]⟩ .ascending]
    (plan.fold >>= fun constant => constant.optimize .standard default >>= fun optimized =>
      FindRequest.ofChain (.ofCase .unchanged) (some "news") optimized.chain) =
      FindRequest.ofChain (.ofCase .unchanged) (some "news") plan.chain := by
  intro pinned recent plan
  refine ofChain_optimize (by decide) ?_ default (.ofCase .unchanged) (some "news")
  intro predicate among
  have filters : predicate = recent ∨ predicate = pinned := by
    simpa [plan] using among
  obtain rfl | rfl := filters <;> exact Expression.isFolded_of_largestConstants rfl

end DocQuery
