import DocQuery.Proofs.ExecutionRows
import DocQuery.Proofs.RequestPreservation

/-! Folding constants, merging filters and normalizing predicates change the filters of a chain, but
not what the chain makes of documents. All other steps stay, in their order. -/

namespace DocQuery

namespace Step

def isFilter : Step → Bool
  | .filter _ => true
  | _ => false

end Step

/-- The steps of a chain that are no filters. -/
def frame (chain : List Step) : List Step := chain.filter (!·.isFilter)

/-- A chain that chooses and orders documents as another one does, with filters of its own. -/
structure Rewrites (naming : FieldNaming) (chain rewritten : List Step) : Prop where
  keeps : ∀ step ∈ rewritten, step.KeepsRows naming
  frame : frame rewritten = frame chain
  rows : ∀ rows : Rows, rows.Proper → rows.run naming rewritten = rows.run naming chain

namespace Rewrites

variable {naming : FieldNaming} {first second third input rewritten : List Step} {step changed : Step}

theorem refl (keeps : ∀ step ∈ first, step.KeepsRows naming) : Rewrites naming first first :=
  ⟨keeps, rfl, fun _ _ => rfl⟩

theorem trans (one : Rewrites naming first second) (other : Rewrites naming second third) :
    Rewrites naming first third where
  keeps := other.keeps
  frame := other.frame.trans one.frame
  rows rows proper := (other.rows rows proper).trans (one.rows rows proper)

/-- A last step that changes rows alike can be put after a chain that is rewritten. -/
theorem cons (before : Rewrites naming input rewritten)
    (keeps : ∀ step ∈ input, step.KeepsRows naming) (kept : changed.KeepsRows naming)
    (kind : DocQuery.frame [changed] = DocQuery.frame [step])
    (alike : ∀ rows : Rows, rows.Proper → rows.advance naming changed = rows.advance naming step) :
    Rewrites naming (step :: input) (changed :: rewritten) where
  keeps := by
    intro other member
    obtain rfl | member := List.mem_cons.mp member
    · exact kept
    · exact before.keeps other member
  frame := by
    have split : ∀ (step : Step) chain,
        DocQuery.frame (step :: chain) = DocQuery.frame [step] ++ DocQuery.frame chain :=
      fun step chain => List.filter_append [step] chain
    rw [split changed, split step, kind, before.frame]
  rows rows proper := by
    change (rows.run naming rewritten).advance naming changed = (rows.run naming input).advance naming step
    rw [before.rows rows proper, alike _ (proper.run keeps)]

end Rewrites

theorem Rows.advance_filter_congr {naming : FieldNaming} {predicate other : Expression}
    (same : ∀ document : Json, (document.get? "_id").isSome →
      other.accepts naming document = predicate.accepts naming document)
    (rows : Rows) (proper : rows.Proper) :
    rows.advance naming (.filter other) = rows.advance naming (.filter predicate) := by
  have kept : rows.documents.filter (other.accepts naming) =
      rows.documents.filter (predicate.accepts naming) :=
    List.filter_congr fun document member => same document (proper document member).identity
  simp only [advance, Step.rows, kept]
  rfl

/-- Steps are checked for their order, which filters have no part in. -/
theorem checkSteps_frame (ordered : Bool) (steps : List Step) :
    checkSteps ordered steps = checkSteps ordered (frame steps) := by
  induction steps generalizing ordered with
  | nil => rfl
  | cons step rest ih =>
    have framed : frame (step :: rest) = if step.isFilter then frame rest else step :: frame rest := by
      cases step <;> rfl
    rw [framed]
    cases step with
    | filter predicate => exact ih ordered
    | _ => simp only [checkSteps, ih, Step.isFilter, Bool.false_eq_true, if_false]

namespace Plan

variable {naming : FieldNaming} {chain : List Step}

theorem rewrites_fold (keeps : ∀ step ∈ chain, step.KeepsRows naming) :
    ∃ folded, chain.mapM Step.fold = .ok folded ∧ Rewrites naming chain folded ∧
      folded.map Step.kind = chain.map Step.kind := by
  induction chain with
  | nil => exact ⟨[], rfl, .refl keeps, rfl⟩
  | cons step input ih =>
    obtain ⟨kept, before⟩ := List.forall_mem_cons.mp keeps
    obtain ⟨rest, found, rewrites, kinds⟩ := ih before
    by_cases filters : ∃ predicate, step = .filter predicate
    · obtain ⟨predicate, rfl⟩ := filters
      cases kept with
      | filter selectable =>
        obtain ⟨folded, equal, same, accepts⟩ := selectable.accepts_fold
        refine ⟨.filter folded :: rest, ?_, ?_, ?_⟩
        · simp [Step.fold, equal, found]
        · exact rewrites.cons before (.filter same) rfl (Rows.advance_filter_congr accepts)
        · simp [kinds, Step.kind]
    · have unchanged : step.fold = .ok step := by
        cases kept with
        | filter => simp at filters
        | _ => rfl
      refine ⟨step :: rest, by simp [unchanged, found], ?_, by simp [kinds]⟩
      exact rewrites.cons before kept rfl fun _ _ => rfl

theorem rewrites_mergeStep {step : Step} (keeps : ∀ other ∈ step :: chain, other.KeepsRows naming) :
    Rewrites naming (step :: chain) (mergeStep step chain) := by
  unfold mergeStep
  split
  next outer inner rest =>
    obtain ⟨last, others⟩ := List.forall_mem_cons.mp keeps
    obtain ⟨next, before⟩ := List.forall_mem_cons.mp others
    cases last with
    | filter ofOuter =>
      cases next with
      | filter ofInner =>
        refine ⟨fun other member => ?_, rfl, fun rows proper => ?_⟩
        · obtain rfl | member := List.mem_cons.mp member
          · exact .filter (ofInner.connective .and ofOuter)
          · exact before other member
        · have both : ∀ document ∈ (rows.run naming rest).documents,
              (Expression.binary (.connective .and) inner outer).accepts naming document =
                (outer.accepts naming document && inner.accepts naming document) := by
            intro document member
            rw [Bool.and_comm]
            exact Expression.accepts_and ofInner ofOuter (proper.run before document member).identity
          have kept := List.filter_congr both
          rw [← List.filter_filter] at kept
          exact congrArg (fun documents => Rows.mk documents (rows.run naming rest).sortKeys) kept
  next => exact .refl keeps

theorem rewrites_mergeFilters (keeps : ∀ step ∈ chain, step.KeepsRows naming) :
    Rewrites naming chain (mergeFilters chain) := by
  induction chain with
  | nil => exact .refl keeps
  | cons step input ih =>
    obtain ⟨kept, before⟩ := List.forall_mem_cons.mp keeps
    have last := (ih before).cons before kept rfl fun _ _ => rfl
    exact last.trans (rewrites_mergeStep last.keeps)

theorem rewrites_normalize (keeps : ∀ step ∈ chain, step.KeepsRows naming) :
    Rewrites naming chain (chain.map normalizeStep) := by
  induction chain with
  | nil => exact .refl keeps
  | cons step input ih =>
    obtain ⟨kept, before⟩ := List.forall_mem_cons.mp keeps
    refine (ih before).cons before ?_ ?_ ?_
    · cases kept with
      | filter selectable => exact .filter (selectable.normalize_polar false)
      | orderBy field order => exact .orderBy field order
      | thenBy field order => exact .thenBy field order
      | skip count => exact .skip count
      | take word => exact .take word
    · cases kept <;> rfl
    · cases kept with
      | filter selectable =>
        exact Rows.advance_filter_congr fun document _ => Expression.accepts_normalize naming _ document
      | _ => exact fun _ _ => rfl

theorem optimize_of_plain {table : ClassificationTable}
    (plain : ∀ step ∈ chain,
      table.classOf step.kind = some .native ∨ table.classOf step.kind = some .clientOnly) :
    (ofChain chain).optimize table default = .ok (ofChain ((mergeFilters chain).map normalizeStep)) := by
  rw [optimize, chain_ofChain, expandComposites_of_plain plain]
  rfl

/-- Folding and optimizing a chain that chooses and orders documents gives one that does the same. -/
theorem optimize_rows {table : ClassificationTable} (isChain : IsRowChain naming chain)
    (plain : ∀ step ∈ chain,
      table.classOf step.kind = some .native ∨ table.classOf step.kind = some .clientOnly) :
    ∃ optimized, ((ofChain chain).fold >>= fun folded => folded.optimize table default) =
        .ok (ofChain optimized) ∧
      IsRowChain naming optimized ∧ frame optimized = frame chain ∧
        ∀ rows : Rows, rows.Proper → rows.run naming optimized = rows.run naming chain := by
  have kindsPlain : ∀ folded : List Step, folded.map Step.kind = chain.map Step.kind →
      ∀ step ∈ folded,
        table.classOf step.kind = some .native ∨ table.classOf step.kind = some .clientOnly := by
    intro folded kinds step member
    have among : step.kind ∈ chain.map Step.kind := kinds ▸ List.mem_map_of_mem member
    obtain ⟨other, known, same⟩ := List.mem_map.mp among
    exact same ▸ plain other known
  cases isChain with
  | body keeps =>
    obtain ⟨folded, found, rewrites, kinds⟩ := rewrites_fold keeps
    have merged := rewrites_mergeFilters rewrites.keeps
    have whole := rewrites.trans (merged.trans (rewrites_normalize merged.keeps))
    refine ⟨_, ?_, .body whole.keeps, whole.frame, whole.rows⟩
    rw [fold, chain_ofChain, found]
    exact optimize_of_plain (kindsPlain folded kinds)
  | @project fields body keeps =>
    obtain ⟨folded, found, rewrites, kinds⟩ := rewrites_fold keeps
    have merged := rewrites_mergeFilters rewrites.keeps
    have whole := rewrites.trans (merged.trans (rewrites_normalize merged.keeps))
    refine ⟨.project fields :: (mergeFilters folded).map normalizeStep, ?_,
      .project fields whole.keeps, ?_, fun rows proper => ?_⟩
    · have all : (Step.project fields :: body).mapM Step.fold = .ok (.project fields :: folded) := by
        simp [Step.fold, found]
      rw [fold, chain_ofChain, all]
      exact optimize_of_plain (kindsPlain (.project fields :: folded) (by simp [kinds]))
    · exact congrArg (Step.project fields :: ·) whole.frame
    · exact congrArg (Rows.advance naming (.project fields)) (whole.rows rows proper)

end Plan
end DocQuery
