import DocQuery.Proofs.DividedPlans
import DocQuery.Proofs.Failures

/-! Compiling fails only for reasons that lie in the query. Clauses are made of comparisons only, every step that
is taken off an operator has an input, and no composite operation is left for the split, where reductions are
not composite themselves. -/

namespace DocQuery

/-- The failures for which a query is to blame. -/
inductive Error.OfQuery : Error → Prop where
  | query (error : QueryError) : OfQuery (.query error)

attribute [simp] Error.OfQuery.query

theorem Error.OfEvaluation.ofQuery {failure : Error} (evaluating : failure.OfEvaluation) :
    failure.OfQuery := by
  cases evaluating <;> exact .query _

namespace Expression

variable (naming : FieldNaming) (scope : PredicateScope)

theorem target_fails (expression : Expression) :
    FailsOnly Error.OfQuery (expression.target naming scope) := by
  cases expression with
  | item => cases scope <;> simp [target]
  | _ => simp [target]

theorem literalItem_fails (expression : Expression) : FailsOnly Error.OfQuery expression.literalItem := by
  cases expression <;> simp [literalItem]

theorem literalList_fails (set : Expression) : FailsOnly Error.OfQuery set.literalList := by
  unfold literalList
  split
  · simp
  · simp
  · exact .mapM fun member _ => member.literalItem_fails
  · simp

/-- A clause made for a comparison is never refused for being none. -/
theorem comparisonClause_fails (op : Comparison) (left : Expression) (value : Value) :
    FailsOnly Error.OfQuery (comparisonClause naming scope (.comparison op) left value) := by
  unfold comparisonClause
  split
  · repeat' split
    all_goals simp [target_fails]
  · repeat' split
    all_goals simp [target_fails]
  · refine (target_fails naming scope left).bind fun target _ => ?_
    cases op <;> simp

theorem compareClause_fails (op : Comparison) (left right : Expression) :
    FailsOnly Error.OfQuery (compareClause naming scope (.comparison op) left right) := by
  unfold compareClause
  split
  · exact comparisonClause_fails naming scope op left _
  · exact comparisonClause_fails naming scope op.flipped right _
  · simp

theorem clauses_fail (expression : Expression) (scope : PredicateScope) (joining : Option Connective)
    (negated : Bool) : FailsOnly Error.OfQuery (expression.clauses naming scope joining negated) := by
  match expression with
  | .binary (.connective op) left right =>
    refine (clauses_fail left scope (some op) false).bind fun first _ => ?_
    refine (clauses_fail right scope (some op) false).bind fun second _ => ?_
    split <;> simp
  | .binary (.comparison op) left right => simp [compareClause_fails]
  | .unary .not operand => exact clauses_fail operand scope none !negated
  | .quantifier _ collection predicate =>
    simp [clauses, target_fails, clauses_fail predicate .element none false]
  | .isIn operand set _ | .contains operand set => simp [clauses, target_fails, literalList_fails]
  | .presence operand _ | .isType operand _ | .pattern operand _ => simp [clauses, target_fails]
  | .item => cases scope <;> simp [clauses]
  | .field _ kind => cases kind <;> simp [clauses]
  | .literal value => cases value <;> simp [clauses]
  | .binary (.arithmetic _) _ _ => simp
  | .unary .neg _ | .list _ | .size _ => simp [clauses]
termination_by structural expression

theorem selector_fails (predicate : Expression) : FailsOnly Error.OfQuery (predicate.selector naming) := by
  refine (clauses_fail naming predicate .document none false).bind fun clauses _ => ?_
  cases clauses <;> simp

end Expression

namespace RequestDraft

variable (naming : FieldNaming) (draft : RequestDraft)

theorem requireUnpaginated_fails (operation : String) :
    FailsOnly Error.OfQuery (draft.requireUnpaginated operation) := by
  unfold requireUnpaginated
  split <;> simp

theorem addStep_fails (step : Step) : FailsOnly Error.OfQuery (draft.addStep naming step) := by
  cases step with
  | filter predicate =>
    simp [addStep, addFilter, requireUnpaginated_fails, Expression.selector_fails]
  | orderBy field order => simp [addStep, setOrder, requireUnpaginated_fails]
  | thenBy field order =>
    refine (draft.requireUnpaginated_fails "ThenBy").bind fun _ _ => ?_
    split <;> simp
  | useIndex index =>
    simp only [addStep, setIndex]
    split <;> simp
  | _ => simp [addStep]

theorem ofChain_fails (chain : List Step) : FailsOnly Error.OfQuery (ofChain naming chain) := by
  induction chain with
  | nil => exact failsOnly_ok empty
  | cons step input ih => exact ih.bind fun draft _ => draft.addStep_fails naming step

theorem finishSort_fails : FailsOnly Error.OfQuery draft.finishSort := by
  unfold finishSort
  split
  · simp
  · split <;> simp

end RequestDraft

theorem FindRequest.ofChain_fails (naming : FieldNaming) (discriminator : Option String)
    (chain : List Step) : FailsOnly Error.OfQuery (ofChain naming discriminator chain) := by
  simp [ofChain, RequestDraft.ofChain_fails, RequestDraft.finish, RequestDraft.finishSort_fails]

namespace Step

theorem fold_fails (step : Step) : FailsOnly Error.OfEvaluation step.fold := by
  cases step with
  | any predicate | element kind predicate => cases predicate <;> simp [fold, Expression.fold_fails]
  | _ => simp [fold, Expression.fold_fails]

theorem expand_fails (step : Step) : FailsOnly Error.OfQuery step.expand := by
  cases step with
  | element kind predicate => cases kind <;> simp [expand]
  | aggregate function field => cases function <;> simp [expand]
  | _ => simp [expand]

end Step

theorem checkSteps_fails (ordered : Bool) (steps : List Step) :
    FailsOnly Error.OfQuery (checkSteps ordered steps) := by
  induction steps generalizing ordered with
  | nil => exact failsOnly_ok ()
  | cons step rest ih =>
    unfold checkSteps
    repeat' split
    all_goals simp [ih]

namespace ClassificationTable

variable (table : ClassificationTable)

theorem classify_fails (kind : OperationKind) : FailsOnly Error.OfQuery (table.classify kind) := by
  unfold classify
  split <;> simp

theorem requirePlain_fails (step : Step) : FailsOnly Error.OfQuery (step.requirePlain table) := by
  refine (table.classify_fails step.kind).bind fun classification _ => ?_
  cases classification <;> simp [step.expand_fails]

theorem requireNativeKind_fails (kind : OperationKind) :
    FailsOnly Error.OfQuery (table.requireNativeKind kind) := by
  refine (table.classify_fails kind).bind fun classification _ => ?_
  split <;> simp

theorem requireNative_fails (operator : Operator) :
    FailsOnly Error.OfQuery (table.requireNative operator) := by
  induction operator using Operator.wrap_induction with
  | allDocuments => exact failsOnly_ok ()
  | wrap input step ih =>
    rw [requireNative_wrap]
    exact (table.requireNativeKind_fails step.kind).bind fun _ _ => ih

/-- Taking steps off an operator without composite ones fails only for a step that is not listed: what is
taken off always has an input. -/
theorem splitOperator_fails {operator : Operator}
    (plain : ∀ step ∈ operator.chain, table.classOf step.kind ≠ some .composite) :
    FailsOnly Error.OfQuery (table.splitOperator operator) := by
  induction operator using Operator.wrap_induction with
  | allDocuments => exact failsOnly_ok (Operator.allDocuments, [])
  | wrap input step ih =>
    rw [Operator.chain_wrap] at plain
    obtain ⟨own, others⟩ := List.forall_mem_cons.mp plain
    rw [splitOperator_wrap]
    refine (table.classify_fails step.kind).bind fun classification classified => ?_
    cases classification with
    | native => simp
    | composite => exact absurd (classify_eq_ok.mp classified) own
    | clientOnly => simp [ih others]

theorem split_fails {operator : Operator}
    (plain : ∀ step ∈ operator.chain, table.classOf step.kind ≠ some .composite) :
    FailsOnly Error.OfQuery (table.split operator) := by
  simp [split, splitOperator_fails table plain, requireNative_fails, checkSteps_fails]

end ClassificationTable

namespace Plan

variable {table : ClassificationTable}

theorem fold_fails (plan : Plan) : FailsOnly Error.OfEvaluation plan.fold :=
  (FailsOnly.mapM fun step _ => step.fold_fails).bind fun chain _ => failsOnly_ok (ofChain chain)

theorem expandComposites_fails (table : ClassificationTable) (chain : List Step) :
    FailsOnly Error.OfQuery (expandComposites table chain) := by
  induction chain with
  | nil => exact failsOnly_ok []
  | cons step input ih =>
    refine (table.classify_fails step.kind).bind fun classification _ => ?_
    cases classification with
    | composite =>
      refine step.expand_fails.bind fun expansion _ => ?_
      exact (FailsOnly.forM fun other _ => table.requirePlain_fails other).bind fun _ _ => by simp [ih]
    | _ => simp [ih]

theorem optimize_fails (options : OptimizerOptions) (plan : Plan) :
    FailsOnly Error.OfQuery (plan.optimize table options) := by
  simp [optimize, expandComposites_fails]

/-- An optimized plan has no composite operation, unless reductions are composite. -/
theorem ne_composite_of_optimize {plan optimized : Plan} {options : OptimizerOptions}
    (reduces : table.classOf .reduce ≠ some .composite)
    (accepted : plan.optimize table options = .ok optimized) :
    ∀ step ∈ optimized.chain, table.classOf step.kind ≠ some .composite := by
  obtain ⟨expanded, expands, rfl⟩ := optimize_eq_ok.mp accepted
  rw [chain_ofChain]
  refine forall_kind_rewriteFilters (fun kind => table.classOf kind ≠ some .composite) options ?_
  exact expands.forall_mem (fun step plain => plain.ne_composite) fun _ => reduces

end Plan

/-- Compiling fails only for reasons that lie in the query. -/
theorem Compiler.compile_fails {compiler : Compiler}
    (reduces : compiler.table.classOf .reduce ≠ some .composite) (plan : Plan) :
    FailsOnly Error.OfQuery (compiler.compile plan) := by
  refine (plan.fold_fails.mono fun _ => Error.OfEvaluation.ofQuery).bind fun folded _ => ?_
  refine (folded.optimize_fails default).bind fun optimized accepted => ?_
  have plain := Plan.ne_composite_of_optimize reduces accepted
  refine (compiler.table.split_fails plain).bind fun divided _ => ?_
  simp [FindRequest.ofChain_fails]

end DocQuery
