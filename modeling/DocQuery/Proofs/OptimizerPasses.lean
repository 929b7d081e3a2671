import DocQuery.Plan.Optimization
import DocQuery.Proofs.Outcomes

/-! What the passes over a plan do to its steps. Folding changes predicates only. When composite
operations are expanded, a step that one side carries out stays; another one gives way to a reduction
and to the steps that fetch for it, and these need no expansion themselves. Merging and normalizing
change filters only, so the end of a plan keeps what it makes of documents. -/

namespace DocQuery

namespace ClassificationTable

/-- Whether one of the two sides carries out an operation as it is. -/
def IsPlain (table : ClassificationTable) (kind : OperationKind) : Prop :=
  table.classOf kind = some .native ∨ table.classOf kind = some .clientOnly

variable {table : ClassificationTable} {kind : OperationKind} {classification : Classification}

theorem classify_eq_ok : table.classify kind = .ok classification ↔
    table.classOf kind = some classification := by
  rw [classify]
  cases table.classOf kind <;> simp

theorem isPlain_of_classOf (listed : table.classOf kind = some classification)
    (other : classification ≠ .composite) : table.IsPlain kind := by
  cases classification with
  | native => exact Or.inl listed
  | clientOnly => exact Or.inr listed
  | composite => exact absurd rfl other

theorem IsPlain.ne_composite (plain : table.IsPlain kind) : table.classOf kind ≠ some .composite := by
  obtain own | own := plain <;> simp [own]

theorem IsPlain.isSome (plain : table.IsPlain kind) : (table.classOf kind).isSome := by
  obtain own | own := plain <;> simp [own]

end ClassificationTable

namespace Step

variable {table : ClassificationTable} {step : Step} {expansion : Step.Expansion}

/-- The reduction that a step makes of documents, if it makes something else of them than documents. -/
def reducer? : Step → Option Reducer
  | .any _ => some .any
  | .all _ => some .notAny
  | .element kind _ => some (.element kind)
  | .aggregate function field => some (.aggregate function field)
  | .reduce reducer => some reducer
  | _ => none

theorem reducer?_of_expand (expands : step.expand = .ok expansion) :
    step.reducer? = some expansion.reducer := by
  cases step with
  | any predicate => cases expands; rfl
  | all predicate => cases expands; rfl
  | element kind predicate => cases kind <;> cases expands <;> rfl
  | aggregate function field => cases function <;> cases expands <;> rfl
  | _ => cases expands

/-- The steps that fetch make documents of documents. -/
theorem reducer?_fetching (expands : step.expand = .ok expansion) :
    ∀ fetching ∈ expansion.fetching, fetching.reducer? = none := by
  have filters : ∀ predicate, ∀ fetching ∈ filtering predicate, fetching.reducer? = none := by
    intro predicate fetching member
    cases predicate with
    | none => cases member
    | some predicate => cases List.mem_singleton.mp member; rfl
  cases step with
  | any predicate =>
    cases expands
    exact List.forall_mem_cons.mpr ⟨rfl, filters predicate⟩
  | all predicate =>
    cases expands
    exact List.forall_mem_cons.mpr ⟨rfl, filters (some predicate.negate)⟩
  | element kind predicate =>
    cases kind <;> cases expands <;> exact List.forall_mem_cons.mpr ⟨rfl, filters predicate⟩
  | aggregate function field =>
    cases function <;> cases expands <;> simp [reducer?]
  | _ => cases expands

theorem requirePlain_eq_ok (documents : step.reducer? = none) :
    step.requirePlain table = .ok () ↔ table.IsPlain step.kind := by
  have unexpanded : ∃ failure, step.expand = .error failure := by
    cases expands : step.expand with
    | error failure => exact ⟨failure, rfl⟩
    | ok expansion => cases documents.symm.trans (reducer?_of_expand expands)
  obtain ⟨failure, fails⟩ := unexpanded
  rw [requirePlain, ClassificationTable.classify, ClassificationTable.IsPlain]
  cases table.classOf step.kind with
  | none => simp
  | some classification => cases classification <;> simp [fails]

/-- What folding makes of a step: its predicate is folded, and without one it stays as it is. -/
inductive FoldsTo : Step → Step → Prop where
  | filter {predicate folded} (folds : predicate.fold = .ok folded) :
      FoldsTo (.filter predicate) (.filter folded)
  | all {predicate folded} (folds : predicate.fold = .ok folded) :
      FoldsTo (.all predicate) (.all folded)
  | any {predicate folded} (folds : predicate.fold = .ok folded) :
      FoldsTo (.any (some predicate)) (.any (some folded))
  | element {kind predicate folded} (folds : predicate.fold = .ok folded) :
      FoldsTo (.element kind (some predicate)) (.element kind (some folded))
  | bare {step : Step} (bare : step.predicate? = none) : FoldsTo step step

theorem foldsTo_of_fold {folded : Step} (folds : step.fold = .ok folded) : FoldsTo step folded := by
  cases step with
  | filter predicate =>
    obtain ⟨changed, own, made⟩ := bind_eq_ok.mp folds
    cases made
    exact .filter own
  | all predicate =>
    obtain ⟨changed, own, made⟩ := bind_eq_ok.mp folds
    cases made
    exact .all own
  | any predicate =>
    cases predicate with
    | none =>
      cases folds
      exact .bare rfl
    | some predicate =>
      obtain ⟨changed, own, made⟩ := bind_eq_ok.mp folds
      cases made
      exact .any own
  | element kind predicate =>
    cases predicate with
    | none =>
      cases folds
      exact .bare rfl
    | some predicate =>
      obtain ⟨changed, own, made⟩ := bind_eq_ok.mp folds
      cases made
      exact .element own
  | _ =>
    cases folds
    exact .bare rfl

theorem kind_fold {folded : Step} (folds : step.fold = .ok folded) :
    folded.kind = step.kind ∧ folded.reducer? = step.reducer? := by
  cases foldsTo_of_fold folds <;> exact ⟨rfl, rfl⟩

end Step

namespace Plan

variable {table : ClassificationTable} {chain expanded : List Step}

/-- What folding keeps of each step, it keeps of a plan. -/
theorem map_fold {α : Type} {view : Step → α} {plan folded : Plan}
    (kept : ∀ step changed, step.fold = .ok changed → view changed = view step)
    (folds : plan.fold = .ok folded) : folded.chain.map view = plan.chain.map view := by
  obtain ⟨results, changed, made⟩ := bind_eq_ok.mp folds
  cases made
  rw [chain_ofChain]
  exact map_of_mapM kept changed

/-- What a chain becomes when its composite operations are expanded. -/
inductive ExpandsTo (table : ClassificationTable) : List Step → List Step → Prop where
  | nil : ExpandsTo table [] []
  | plain {step input expanded} (plain : table.IsPlain step.kind)
      (before : ExpandsTo table input expanded) :
      ExpandsTo table (step :: input) (step :: expanded)
  | composite {step input expanded expansion}
      (composite : table.classOf step.kind = some .composite)
      (expands : step.expand = .ok expansion)
      (fetching : ∀ other ∈ expansion.fetching, table.IsPlain other.kind)
      (before : ExpandsTo table input expanded) :
      ExpandsTo table (step :: input)
        (.reduce expansion.reducer :: (expansion.fetching ++ expanded))

theorem expandComposites_eq_ok :
    expandComposites table chain = .ok expanded ↔ ExpandsTo table chain expanded := by
  constructor
  · intro found
    induction chain generalizing expanded with
    | nil => cases found; exact .nil
    | cons step input ih =>
      obtain ⟨classification, classified, further⟩ := bind_eq_ok.mp found
      have listed := ClassificationTable.classify_eq_ok.mp classified
      cases classification with
      | native =>
        obtain ⟨rest, before, made⟩ := bind_eq_ok.mp further
        cases made
        exact .plain (Or.inl listed) (ih before)
      | clientOnly =>
        obtain ⟨rest, before, made⟩ := bind_eq_ok.mp further
        cases made
        exact .plain (Or.inr listed) (ih before)
      | composite =>
        obtain ⟨expansion, expands, further⟩ := bind_eq_ok.mp further
        obtain ⟨_, required, further⟩ := bind_eq_ok.mp further
        obtain ⟨rest, before, made⟩ := bind_eq_ok.mp further
        cases made
        refine .composite listed expands (fun other member => ?_) (ih before)
        exact (Step.requirePlain_eq_ok (Step.reducer?_fetching expands other member)).mp
          (forM_eq_ok.mp required other member)
  · intro expands
    induction expands with
    | nil => rfl
    | plain plain _ ih =>
      rw [expandComposites]
      obtain own | own := plain <;> simp [ClassificationTable.classify_eq_ok.mpr own, ih]
    | composite composite expands fetching _ ih =>
      have required : forM _ (Step.requirePlain table) = .ok () := forM_eq_ok.mpr fun other member =>
        (Step.requirePlain_eq_ok (Step.reducer?_fetching expands other member)).mpr (fetching other member)
      rw [expandComposites, ClassificationTable.classify_eq_ok.mpr composite]
      simp [expands, required, ih]

namespace ExpandsTo

/-- What is left is carried out by one side or reduces what has been fetched. -/
theorem forall_mem {Holds : Step → Prop} (expands : ExpandsTo table chain expanded)
    (plain : ∀ step : Step, table.IsPlain step.kind → Holds step)
    (reduces : ∀ reducer, Holds (.reduce reducer)) : ∀ step ∈ expanded, Holds step := by
  induction expands with
  | nil => exact nofun
  | plain own _ ih => exact List.forall_mem_cons.mpr ⟨plain _ own, ih⟩
  | composite _ _ fetching _ ih =>
    refine List.forall_mem_cons.mpr ⟨reduces _, List.forall_mem_append.mpr ⟨fun other member => ?_, ih⟩⟩
    exact plain other (fetching other member)

/-- Every operation of the chain is listed. -/
theorem listed (expands : ExpandsTo table chain expanded) :
    ∀ step ∈ chain, (table.classOf step.kind).isSome := by
  induction expands with
  | nil => exact nofun
  | plain own _ ih => exact List.forall_mem_cons.mpr ⟨own.isSome, ih⟩
  | composite composite _ _ _ ih => exact List.forall_mem_cons.mpr ⟨by simp [composite], ih⟩

/-- The chain ends as before: what the last step reduces documents to stays the same. -/
theorem reducer?_head (expands : ExpandsTo table chain expanded) :
    expanded.head?.bind Step.reducer? = chain.head?.bind Step.reducer? := by
  cases expands with
  | nil => rfl
  | plain => rfl
  | composite _ expands => exact (Step.reducer?_of_expand expands).symm

end ExpandsTo

/-- Operations that one side carries out as they are need no expansion. -/
theorem expandComposites_of_plain (plain : ∀ step ∈ chain, table.IsPlain step.kind) :
    expandComposites table chain = .ok chain := by
  rw [expandComposites_eq_ok]
  induction chain with
  | nil => exact .nil
  | cons step input ih =>
    obtain ⟨own, others⟩ := List.forall_mem_cons.mp plain
    exact .plain own (ih others)

theorem kind_normalizeStep (step : Step) : (normalizeStep step).kind = step.kind := by
  cases step <;> rfl

theorem reducer?_normalizeStep (step : Step) : (normalizeStep step).reducer? = step.reducer? := by
  cases step <;> rfl

theorem forall_mergeFilters {Holds : Step → Prop}
    (joins : ∀ inner outer, Holds (.filter inner) → Holds (.filter outer) →
      Holds (.filter (.binary (.connective .and) inner outer)))
    (all : ∀ step ∈ chain, Holds step) : ∀ step ∈ mergeFilters chain, Holds step := by
  induction chain with
  | nil => exact all
  | cons step input ih =>
    obtain ⟨own, others⟩ := List.forall_mem_cons.mp all
    have merged := ih others
    change ∀ other ∈ mergeStep step (mergeFilters input), Holds other
    unfold mergeStep
    split
    next outer inner rest equal =>
      rw [equal] at merged
      obtain ⟨next, before⟩ := List.forall_mem_cons.mp merged
      exact List.forall_mem_cons.mpr ⟨joins inner outer next own, before⟩
    next => exact List.forall_mem_cons.mpr ⟨own, merged⟩

theorem reducer?_head_mergeFilters (chain : List Step) :
    (mergeFilters chain).head?.bind Step.reducer? = chain.head?.bind Step.reducer? := by
  cases chain with
  | nil => rfl
  | cons step input =>
    change (mergeStep step (mergeFilters input)).head?.bind Step.reducer? = step.reducer?
    unfold mergeStep
    split <;> rfl

/-- A chain with its filters merged and normalized, as far as the options ask for it. -/
def rewriteFilters (options : OptimizerOptions) (chain : List Step) : List Step :=
  let merged := if options.mergesFilters then mergeFilters chain else chain
  if options.normalizes then merged.map normalizeStep else merged

theorem optimize_eq_ok {plan optimized : Plan} {options : OptimizerOptions} :
    plan.optimize table options = .ok optimized ↔
      ∃ expanded, ExpandsTo table plan.chain expanded ∧
        optimized = ofChain (rewriteFilters options expanded) := by
  rw [optimize, bind_eq_ok]
  simp only [expandComposites_eq_ok, pure_eq_ok, Except.ok.injEq]
  exact exists_congr fun expanded => and_congr_right fun _ => eq_comm

/-- What holds of all kinds of steps in a chain holds of those that are left. -/
theorem forall_kind_rewriteFilters (Holds : OperationKind → Prop) (options : OptimizerOptions)
    (all : ∀ step ∈ chain, Holds step.kind) : ∀ step ∈ rewriteFilters options chain, Holds step.kind := by
  have merged : ∀ step ∈ if options.mergesFilters then mergeFilters chain else chain,
      Holds step.kind := by
    split
    · exact forall_mergeFilters (fun _ _ _ own => own) all
    · exact all
  unfold rewriteFilters
  dsimp only
  generalize (if options.mergesFilters then mergeFilters chain else chain) = between at merged ⊢
  split
  · intro step member
    obtain ⟨other, among, rfl⟩ := List.mem_map.mp member
    rw [kind_normalizeStep]
    exact merged other among
  · exact merged

theorem reducer?_head_rewriteFilters (options : OptimizerOptions) (chain : List Step) :
    (rewriteFilters options chain).head?.bind Step.reducer? = chain.head?.bind Step.reducer? := by
  have normalized : ∀ chain : List Step,
      (chain.map normalizeStep).head?.bind Step.reducer? = chain.head?.bind Step.reducer? := by
    intro chain
    cases chain with
    | nil => rfl
    | cons step input => exact reducer?_normalizeStep step
  unfold rewriteFilters
  split <;> split <;> simp only [normalized, reducer?_head_mergeFilters]

end Plan
end DocQuery
