import DocQuery.Proofs.OptimizedRows
import Mathlib.Data.List.Chain

/-! Optimizing reaches a settled plan in one round: each operation has a side that carries it out, no
filter stands next to another one and all predicates have their normal form. In a settled plan there
is nothing to do. -/

namespace DocQuery

theorem Expression.normalize_normalize (predicate : Expression) :
    predicate.normalize.normalize = predicate.normalize :=
  normalize_normalize_polar predicate false

namespace Plan

variable {table : ClassificationTable} {options : OptimizerOptions} {chain : List Step}

/-- Whether no filter stands next to another one. -/
def Apart (chain : List Step) : Prop :=
  chain.IsChain fun later earlier => (later.isFilter && earlier.isFilter) = false

/-- Whether all filters have predicates in normal form. -/
def Normal (chain : List Step) : Prop :=
  ∀ predicate, .filter predicate ∈ chain → predicate.normalize = predicate

/-- A filter can take the place of another one. -/
theorem Apart.replace {first second : Expression} {rest : List Step}
    (apart : Apart (.filter first :: rest)) : Apart (.filter second :: rest) := by
  cases rest with
  | nil => exact .singleton _
  | cons next others =>
    obtain ⟨own, before⟩ := List.isChain_cons_cons.mp apart
    exact .cons_cons own before

theorem apart_mergeStep {step : Step} (apart : Apart chain) : Apart (mergeStep step chain) := by
  unfold mergeStep
  split
  next outer inner rest => exact apart.replace
  next other =>
    cases chain with
    | nil => exact .singleton step
    | cons next rest =>
      refine .cons_cons ?_ apart
      cases step with
      | filter outer =>
        cases next with
        | filter inner => exact absurd rfl (other outer inner rest rfl)
        | _ => rfl
      | _ => rfl

theorem apart_mergeFilters (chain : List Step) : Apart (mergeFilters chain) := by
  induction chain with
  | nil => exact .nil
  | cons step input ih => exact apart_mergeStep ih

theorem mergeFilters_of_apart (apart : Apart chain) : mergeFilters chain = chain := by
  induction chain with
  | nil => rfl
  | cons step input ih =>
    have before : mergeFilters input = input := ih (List.IsChain.tail apart)
    change mergeStep step (mergeFilters input) = step :: input
    rw [before]
    unfold mergeStep
    split
    next outer inner rest => cases List.IsChain.rel apart
    next => rfl

theorem isFilter_normalizeStep (step : Step) : (normalizeStep step).isFilter = step.isFilter := by
  cases step <;> rfl

theorem apart_normalize (apart : Apart chain) : Apart (chain.map normalizeStep) := by
  rw [Apart, List.isChain_map]
  simp only [isFilter_normalizeStep]
  exact apart

theorem normal_normalize (chain : List Step) : Normal (chain.map normalizeStep) := by
  intro predicate member
  obtain ⟨step, _, made⟩ := List.mem_map.mp member
  cases step with
  | filter original =>
    cases made
    exact original.normalize_normalize
  | _ => cases made

theorem normalize_of_normal (normal : Normal chain) : chain.map normalizeStep = chain := by
  refine (List.map_congr_left fun step member => ?_).trans (List.map_id chain)
  cases step with
  | filter predicate => rw [normalizeStep, normal predicate member, id]
  | _ => rfl

/-- A chain with which the optimizer is done. -/
structure Settled (table : ClassificationTable) (options : OptimizerOptions) (chain : List Step) :
    Prop where
  plain : ∀ step ∈ chain, table.IsPlain step.kind
  apart : options.mergesFilters → Apart chain
  normal : options.normalizes → Normal chain

/-- One round settles a chain whose operations have been expanded. -/
theorem settled_rewriteFilters (options : OptimizerOptions)
    (plain : ∀ step ∈ chain, table.IsPlain step.kind) :
    Settled table options (rewriteFilters options chain) where
  plain := forall_kind_rewriteFilters table.IsPlain options plain
  apart merges := by
    rw [rewriteFilters, if_pos merges]
    split
    · exact apart_normalize (apart_mergeFilters chain)
    · exact apart_mergeFilters chain
  normal normalizes := by
    rw [rewriteFilters, if_pos normalizes]
    exact normal_normalize _

theorem Settled.rewriteFilters_eq (settled : Settled table options chain) :
    rewriteFilters options chain = chain := by
  have merged : (if options.mergesFilters then mergeFilters chain else chain) = chain := by
    split
    next merges => exact mergeFilters_of_apart (settled.apart merges)
    next => rfl
  rw [rewriteFilters, merged]
  split
  next normalizes => exact normalize_of_normal (settled.normal normalizes)
  next => rfl

theorem Settled.optimize_eq {plan : Plan} (settled : Settled table options plan.chain) :
    plan.optimize table options = .ok plan := by
  refine optimize_eq_ok.mpr ⟨plan.chain, ?_, by rw [settled.rewriteFilters_eq, ofChain_chain]⟩
  exact expandComposites_eq_ok.mp (expandComposites_of_plain settled.plain)

/-- Every plan that is optimized is settled, where the reductions need no expansion. -/
theorem settled_of_optimize {plan optimized : Plan} (reduces : table.IsPlain .reduce)
    (accepted : plan.optimize table options = .ok optimized) :
    Settled table options optimized.chain := by
  obtain ⟨expanded, expands, rfl⟩ := optimize_eq_ok.mp accepted
  rw [chain_ofChain]
  exact settled_rewriteFilters options (expands.forall_mem (fun _ plain => plain) fun _ => reduces)

theorem Settled.not_adjacent (settled : Settled table options chain) (merges : options.mergesFilters)
    (earlier later : List Step) (first second : Expression) :
    chain.reverse ≠ earlier ++ .filter first :: .filter second :: later := by
  intro same
  have turned : chain = later.reverse ++ .filter second :: .filter first :: earlier.reverse := by
    rw [← List.reverse_reverse chain, same]
    simp
  cases List.isChain_iff_forall_rel_of_append_cons_cons.mp (settled.apart merges) turned

end Plan

/-- Optimizing is idempotent: one round leaves no composite operation, no two filters next to each
other if filters are merged, and only predicates in normal form if they are normalized, so another
round changes nothing. Reductions are what composite operations end in, so the table must say which
side carries them out. -/
theorem optimize_idempotent (table : ClassificationTable) (options : OptimizerOptions)
    {plan optimized : Plan}
    (reduces : ∃ classification, table.classOf .reduce = some classification ∧
      classification ≠ .composite)
    (accepted : plan.optimize table options = .ok optimized) :
    optimized.optimize table options = .ok optimized ∧
      (∀ step ∈ optimized.steps, table.classOf step.kind ≠ some .composite) ∧
      (options.mergesFilters → ∀ earlier later first second,
        optimized.steps ≠ earlier ++ .filter first :: .filter second :: later) ∧
      (options.normalizes → ∀ predicate, .filter predicate ∈ optimized.steps →
        predicate.normalize = predicate) := by
  have plain : table.IsPlain .reduce := by
    obtain ⟨classification, listed, other⟩ := reduces
    exact ClassificationTable.isPlain_of_classOf listed other
  have settled := Plan.settled_of_optimize plain accepted
  refine ⟨settled.optimize_eq, fun step member => ?_, settled.not_adjacent, ?_⟩
  · exact (settled.plain step (List.mem_reverse.mp member)).ne_composite
  · exact fun normalizes predicate member => settled.normal normalizes predicate (List.mem_reverse.mp member)

/-- Two filters before a question about all documents, whose negation joins them; the flags in them are
spelled out. -/
theorem optimize_idempotent_flags :
    let pinned : Expression := .field ⟨["pinned"]⟩ .boolean
    let shown : Expression := .field ⟨["public"]⟩ .boolean
    let plan : Plan := .ofSteps
      [.orderBy ⟨["year"]⟩ .ascending, .filter (.unary .not pinned), .filter pinned,
        .all (.binary (.connective .and) shown (.unary .not shown))]
    ∃ optimized, plan.optimize .standard default = .ok optimized ∧
      optimized.steps = [.orderBy ⟨["year"]⟩ .ascending,
        .filter (.binary (.connective .and)
          (.binary (.connective .and) (pinned.equalsFlag false) (pinned.equalsFlag true))
          (.binary (.connective .or) (shown.equalsFlag false) (shown.equalsFlag true))),
        .take 1, .reduce .notAny] ∧
      optimized.optimize .standard default = .ok optimized ∧
      (∀ step ∈ optimized.steps, ClassificationTable.standard.classOf step.kind ≠ some .composite) ∧
      (∀ earlier later first second,
        optimized.steps ≠ earlier ++ .filter first :: .filter second :: later) ∧
      ∀ predicate, .filter predicate ∈ optimized.steps → predicate.normalize = predicate := by
  intro pinned shown plan
  have reduces : ∃ classification, ClassificationTable.standard.classOf .reduce = some classification ∧
      classification ≠ .composite := ⟨.clientOnly, rfl, nofun⟩
  have accepted : plan.optimize .standard default = .ok _ := rfl
  obtain ⟨again, plain, apart, normal⟩ := optimize_idempotent .standard default reduces accepted
  exact ⟨_, accepted, rfl, again, plain, apart rfl, normal rfl⟩

end DocQuery
