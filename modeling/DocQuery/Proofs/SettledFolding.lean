import DocQuery.Proofs.ExpressionParts
import DocQuery.Proofs.Nominations
import DocQuery.Proofs.OptimizerPasses
import Mathlib.Data.List.Forall2

/-! Folding leaves nothing to fold. It keeps the fields of an expression in their order, so it makes no
expression constant that was none: what is constant in its result comes from a constant and is a literal.
A plan keeps its steps, and only the predicates in them are folded. -/

namespace DocQuery

namespace Expression

mutual

/-- The fields that occur in an expression from left to right, also those of elements in the predicates of
quantifiers. -/
def fieldReferences : Expression → List (FieldPath × FieldKind)
  | .field path kind => [(path, kind)]
  | .item | .literal _ => []
  | .list items => fieldReferencesOf items
  | .binary _ left right => left.fieldReferences ++ right.fieldReferences
  | .unary _ operand => operand.fieldReferences
  | .isIn operand set _ => operand.fieldReferences ++ set.fieldReferences
  | .contains collection values => collection.fieldReferences ++ values.fieldReferences
  | .quantifier _ collection predicate => collection.fieldReferences ++ predicate.fieldReferences
  | .presence operand _ => operand.fieldReferences
  | .isType operand _ => operand.fieldReferences
  | .size collection => collection.fieldReferences
  | .pattern operand _ => operand.fieldReferences
termination_by structural expression => expression

def fieldReferencesOf : List Expression → List (FieldPath × FieldKind)
  | [] => []
  | first :: rest => first.fieldReferences ++ fieldReferencesOf rest
termination_by structural items => items

end

mutual

theorem hasField_iff (expression : Expression) :
    expression.hasField = true ↔ expression.fieldReferences ≠ [] := by
  match expression with
  | .field _ _ | .item | .literal _ => simp [hasField, fieldReferences]
  | .list items => exact anyHasField_iff items
  | .binary _ left right | .isIn left right _ | .contains left right | .quantifier _ left right =>
    simp [hasField, fieldReferences, hasField_iff left, hasField_iff right, Classical.or_iff_not_imp_left]
  | .unary _ operand | .presence operand _ | .isType operand _ | .size operand | .pattern operand _ =>
    exact hasField_iff operand
termination_by structural expression

theorem anyHasField_iff (items : List Expression) :
    anyHasField items = true ↔ fieldReferencesOf items ≠ [] := by
  match items with
  | [] => simp [anyHasField, fieldReferencesOf]
  | first :: rest =>
    simp [anyHasField, fieldReferencesOf, hasField_iff first, anyHasField_iff rest,
      Classical.or_iff_not_imp_left]
termination_by structural items

end

mutual

/-- A constant has no fields, not even in the predicate of a quantifier. -/
theorem fieldReferences_of_isConstant (expression : Expression) (constant : expression.isConstant) :
    expression.fieldReferences = [] := by
  match expression with
  | .literal _ => rfl
  | .field _ _ | .item => cases constant
  | .list items => exact fieldReferencesOf_of_areConstant items constant
  | .binary _ left right | .isIn left right _ | .contains left right =>
    obtain ⟨first, second⟩ := Bool.and_eq_true_iff.mp constant
    rw [fieldReferences, fieldReferences_of_isConstant left first,
      fieldReferences_of_isConstant right second, List.append_nil]
  | .quantifier _ collection predicate =>
    obtain ⟨own, inner⟩ := Bool.and_eq_true_iff.mp constant
    have fieldless : predicate.fieldReferences = [] := by
      by_contra held
      simp [(hasField_iff predicate).mpr held] at inner
    rw [fieldReferences, fieldReferences_of_isConstant collection own, fieldless, List.append_nil]
  | .unary _ operand | .presence operand _ | .isType operand _ | .size operand | .pattern operand _ =>
    exact fieldReferences_of_isConstant operand constant
termination_by structural expression

theorem fieldReferencesOf_of_areConstant (items : List Expression) (constant : areConstant items) :
    fieldReferencesOf items = [] := by
  match items with
  | [] => rfl
  | first :: rest =>
    obtain ⟨own, others⟩ := Bool.and_eq_true_iff.mp constant
    rw [fieldReferencesOf, fieldReferences_of_isConstant first own,
      fieldReferencesOf_of_areConstant rest others, List.append_nil]
termination_by structural items

end

mutual

/-- Folding keeps the fields of an expression in their order: what it replaces has none. -/
theorem fieldReferences_fold (expression : Expression) {folded : Expression}
    (folds : expression.fold = .ok folded) : folded.fieldReferences = expression.fieldReferences := by
  by_cases constant : expression.isConstant
  · obtain ⟨value, _, rfl⟩ := fold_of_isConstant constant folds
    exact (fieldReferences_of_isConstant expression constant).symm
  match expression, foldedParts_of_fold constant folds with
  | .field _ _, .field _ _ | .item, .item => rfl
  | .list items, .list parts => exact fieldReferencesOf_foldItems items parts
  | .binary _ left right, .binary _ ofLeft ofRight | .isIn left right _, .isIn _ ofLeft ofRight
  | .contains left right, .contains ofLeft ofRight
  | .quantifier _ left right, .quantifier _ ofLeft ofRight =>
    simp only [fieldReferences, fieldReferences_fold left ofLeft, fieldReferences_fold right ofRight]
  | .unary _ operand, .unary _ part | .presence operand _, .presence _ part
  | .isType operand _, .isType _ part | .size operand, .size part
  | .pattern operand _, .pattern _ part =>
    have inner := fieldReferences_fold operand part
    exact inner
termination_by structural expression

theorem fieldReferencesOf_foldItems (items : List Expression) {folded : List Expression}
    (folds : foldItems items = .ok folded) : fieldReferencesOf folded = fieldReferencesOf items := by
  match items with
  | [] =>
    cases folds
    rfl
  | first :: rest =>
    obtain ⟨part, ofFirst, further⟩ := bind_eq_ok.mp folds
    obtain ⟨others, ofRest, made⟩ := bind_eq_ok.mp further
    cases made
    rw [fieldReferencesOf, fieldReferences_fold first ofFirst, fieldReferencesOf_foldItems rest ofRest,
      fieldReferencesOf]
termination_by structural items

end

theorem hasField_fold {expression folded : Expression} (folds : expression.fold = .ok folded) :
    folded.hasField = expression.hasField := by
  rw [Bool.eq_iff_iff, hasField_iff, hasField_iff, fieldReferences_fold expression folds]

mutual

/-- Folding makes nothing constant that was not constant before. -/
theorem isConstant_fold (expression : Expression) {folded : Expression}
    (folds : expression.fold = .ok folded) : folded.isConstant = expression.isConstant := by
  by_cases constant : expression.isConstant
  · obtain ⟨value, _, rfl⟩ := fold_of_isConstant constant folds
    exact constant.symm
  match expression, foldedParts_of_fold constant folds with
  | .field _ _, .field _ _ | .item, .item => rfl
  | .list items, .list parts => exact areConstant_foldItems items parts
  | .binary _ left right, .binary _ ofLeft ofRight | .isIn left right _, .isIn _ ofLeft ofRight
  | .contains left right, .contains ofLeft ofRight =>
    simp only [isConstant, isConstant_fold left ofLeft, isConstant_fold right ofRight]
  | .quantifier _ collection _, .quantifier _ ofCollection ofPredicate =>
    simp only [isConstant, isConstant_fold collection ofCollection, hasField_fold ofPredicate]
  | .unary _ operand, .unary _ part | .presence operand _, .presence _ part
  | .isType operand _, .isType _ part | .size operand, .size part
  | .pattern operand _, .pattern _ part =>
    have inner := isConstant_fold operand part
    exact inner
termination_by structural expression

theorem areConstant_foldItems (items : List Expression) {folded : List Expression}
    (folds : foldItems items = .ok folded) : areConstant folded = areConstant items := by
  match items with
  | [] =>
    cases folds
    rfl
  | first :: rest =>
    obtain ⟨part, ofFirst, further⟩ := bind_eq_ok.mp folds
    obtain ⟨others, ofRest, made⟩ := bind_eq_ok.mp further
    cases made
    rw [areConstant, isConstant_fold first ofFirst, areConstant_foldItems rest ofRest, areConstant]
termination_by structural items

end

/-- Nothing in a folded expression is left to fold: a constant in it is what a constant was folded to. -/
theorem isFolded_fold {expression folded : Expression} (folds : expression.fold = .ok folded) :
    folded.IsFolded := by
  intro part inside constant
  obtain ⟨origin, _, ofOrigin⟩ := inside.exists_fold folds
  rw [isConstant_fold origin ofOrigin] at constant
  obtain ⟨value, _, rfl⟩ := fold_of_isConstant constant ofOrigin
  rfl

theorem fold_fold {expression folded : Expression} (folds : expression.fold = .ok folded) :
    folded.fold = .ok folded :=
  fold_of_isFolded folded (isFolded_fold folds)

end Expression

namespace Step

variable {step folded : Step}

theorem fold_of_bare (bare : step.predicate? = none) : step.fold = .ok step := by
  cases step with
  | filter | all => cases bare
  | any predicate | element _ predicate =>
    cases bare
    rfl
  | _ => rfl

theorem fold_fold (folds : step.fold = .ok folded) : folded.fold = .ok folded := by
  cases foldsTo_of_fold folds with
  | bare bare => exact fold_of_bare bare
  | filter own | all own | any own | element own =>
    rw [fold, Expression.fold_fold own]
    rfl

theorem fold_fails_iff : (∃ failure, step.fold = .error failure) ↔
    ∃ predicate ∈ step.predicate?, ∃ failure, predicate.fold = .error failure := by
  constructor
  · rintro ⟨failure, fails⟩
    cases given : step.predicate? with
    | none =>
      rw [fold_of_bare given] at fails
      cases fails
    | some predicate =>
      refine ⟨predicate, rfl, ?_⟩
      cases folds : predicate.fold with
      | error failure => exact ⟨failure, rfl⟩
      | ok changed =>
        exfalso
        cases step <;> cases given <;> simp [fold, folds] at fails
  · rintro ⟨predicate, given, failure, fails⟩
    refine ⟨failure, ?_⟩
    cases step <;> cases given <;> simp [fold, fails]

end Step

/-- What changing all items gives stands where the items stand. -/
theorem forall₂_of_mapM {ε α β : Type} {change : α → Except ε β} {items : List α} {results : List β}
    (changed : items.mapM change = .ok results) :
    List.Forall₂ (fun item result => change item = .ok result) items results := by
  induction items generalizing results with
  | nil =>
    cases changed
    exact .nil
  | cons item rest ih =>
    rw [List.mapM_cons] at changed
    obtain ⟨first, own, further⟩ := bind_eq_ok.mp changed
    obtain ⟨others, remaining, made⟩ := bind_eq_ok.mp further
    cases made
    exact .cons own (ih remaining)

namespace Plan

variable {plan folded : Plan}

theorem forall₂_fold (folds : plan.fold = .ok folded) :
    List.Forall₂ Step.FoldsTo plan.steps folded.steps := by
  obtain ⟨chain, changed, made⟩ := bind_eq_ok.mp folds
  cases made
  apply List.forall₂_reverse_iff.mpr
  rw [chain_ofChain]
  exact (forall₂_of_mapM changed).imp fun step result => Step.foldsTo_of_fold

theorem fold_fold (folds : plan.fold = .ok folded) : folded.fold = .ok folded := by
  obtain ⟨chain, changed, made⟩ := bind_eq_ok.mp folds
  cases made
  have same : chain.mapM Step.fold = .ok chain := by
    apply mapM_eq_self
    intro step among
    obtain ⟨source, _, ofSource⟩ := exists_of_mem_mapM changed among
    exact Step.fold_fold ofSource
  rw [fold, chain_ofChain, same]
  rfl

theorem fold_fails_iff : (∃ failure, plan.fold = .error failure) ↔
    ∃ step ∈ plan.steps, ∃ predicate ∈ step.predicate?, ∃ failure, predicate.fold = .error failure := by
  have folded : plan.fold = (plan.chain.mapM Step.fold).map ofChain := by
    rw [fold]
    cases plan.chain.mapM Step.fold <;> rfl
  simp only [steps, List.mem_reverse, ← Step.fold_fails_iff, ← mapM_fails_iff, folded, map_eq_error]

end Plan

/-- Folding reaches a normal form. What is nominated in a folded expression is a literal, the fields are those
of the expression in their order, and folding again changes nothing. A plan keeps its steps in their order,
each with its kind and all its arguments but the predicate, which is folded; folding the plan again changes
nothing either. It fails exactly if folding one of its predicates does. -/
theorem fold_settles :
    (∀ expression folded : Expression, expression.fold = .ok folded →
      expression.replace expression.nominate = .ok folded ∧
        (∀ part, folded.PartOf part → part.nominate.constant → part.isLiteral) ∧
        folded.fieldReferences = expression.fieldReferences ∧ folded.fold = .ok folded) ∧
    ∀ plan : Plan,
      (∀ folded, plan.fold = .ok folded →
        List.Forall₂ Step.FoldsTo plan.steps folded.steps ∧
          folded.steps.map Step.kind = plan.steps.map Step.kind ∧ folded.fold = .ok folded) ∧
      ((∃ failure, plan.fold = .error failure) ↔ ∃ step ∈ plan.steps, ∃ predicate ∈ step.predicate?,
        ∃ failure, predicate.fold = .error failure) := by
  refine ⟨fun expression folded folds => ⟨?_, ?_, ?_, ?_⟩, fun plan => ⟨fun folded folds => ⟨?_, ?_, ?_⟩, ?_⟩⟩
  · rw [Expression.replace_nominate, folds]
  · intro part inside nominated
    rw [Expression.constant_nominate] at nominated
    exact Expression.isFolded_fold folds part inside nominated
  · exact Expression.fieldReferences_fold expression folds
  · exact Expression.fold_fold folds
  · exact Plan.forall₂_fold folds
  · rw [Plan.steps, Plan.steps, List.map_reverse, List.map_reverse,
      Plan.map_fold (fun step changed own => (Step.kind_fold own).1) folds]
  · exact Plan.fold_fold folds
  · exact Plan.fold_fails_iff

/-- The field of an element stays, a sum beside it becomes a number, and a quantifier over constants a truth
value. -/
theorem fold_settles_scores :
    let two : Expression := .binary (.arithmetic .add) (.literal (.int 1)) (.literal (.int 1))
    let scores : Expression := .field ⟨["scores"]⟩ .value
    let points : Expression := .field ⟨["points"]⟩ .value
    let exceeds (bound : Expression) : Expression :=
      .quantifier .any scores (.binary (.comparison .gt) points bound)
    let known : Expression := .quantifier .all (.list [two]) (.binary (.comparison .eq) .item two)
    let expression : Expression := .binary (.connective .and) (exceeds two) known
    let folded : Expression :=
      .binary (.connective .and) (exceeds (.literal (.int 2))) (.literal (.bool true))
    let plan := Plan.ofSteps [.filter expression, .take 3]
    let settled := Plan.ofSteps [.filter folded, .take 3]
    expression.fold = .ok folded ∧ plan.fold = .ok settled ∧
      (∀ part, folded.PartOf part → part.nominate.constant → part.isLiteral) ∧
      folded.fieldReferences = [(⟨["scores"]⟩, .value), (⟨["points"]⟩, .value)] ∧
      folded.fold = .ok folded ∧ List.Forall₂ Step.FoldsTo plan.steps settled.steps ∧
      settled.fold = .ok settled ∧ ¬∃ failure, plan.fold = .error failure := by
  intro two scores points exceeds known expression folded plan settled
  have folds : expression.fold = .ok folded := rfl
  have foldsPlan : plan.fold = .ok settled := rfl
  obtain ⟨expressions, plans⟩ := fold_settles
  obtain ⟨_, literal, fields, again⟩ := expressions expression folded folds
  obtain ⟨kept, _⟩ := plans plan
  obtain ⟨steps, _, settles⟩ := kept settled foldsPlan
  refine ⟨folds, foldsPlan, literal, fields, again, steps, settles, ?_⟩
  rintro ⟨failure, fails⟩
  cases foldsPlan.symm.trans fails

end DocQuery
