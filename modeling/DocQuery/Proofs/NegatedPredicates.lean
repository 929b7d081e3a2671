import DocQuery.Proofs.FilterRewriting
import DocQuery.Proofs.FoldedExpressions

/-! The negation of a predicate that is looked for among documents. It is false wherever the predicate
is true, but on documents without the flags and members that the predicate asks for both are false:
a negated flag is the comparison with the other truth value, a negated membership test is another
membership test, and neither holds of what is not there. -/

namespace DocQuery.Expression

/-- Whether a predicate or the normal form of its negation is true, as far as flags and membership
tests go: a flag has to be a truth value, and what is looked for in a set has to be there. -/
def IsDecided (scope : Scope) : Expression → Prop
  | .field path .boolean =>
    ∀ found, scope.lookup? path = .ok found → ∃ flag, found = some (.bool flag)
  | .isIn operand _ _ => operand.value? scope ≠ .ok none
  | .unary .not operand => operand.IsDecided scope
  | _ => True

/-- Whether every operand of a conjunction is decided. A negation goes into conjunctions only. -/
def NegatesExactly (scope : Scope) : Expression → Prop
  | .binary (.connective .and) left right =>
    left.NegatesExactly scope ∧ right.NegatesExactly scope
  | predicate => predicate.IsDecided scope

variable {scope : Scope}

theorem test_equalsFlag (path : FieldPath) (flag : Bool) (scope : Scope) :
    (equalsFlag (.field path .boolean) flag).test scope =
      (scope.lookup? path).map fun found => found.any (·.collatesEqual (.bool flag)) := by
  cases found : scope.lookup? path with
  | error failure => simp [equalsFlag, test, evaluate, value?, found]
  | ok held =>
    have read : (Expression.field path .boolean).value? scope = .ok held := found
    refine (test_comparison .eq read rfl).trans ?_
    cases held <;> rfl

theorem test_isIn_negated (operand set : Expression) (excluded : Bool) {scope : Scope}
    (present : operand.value? scope ≠ .ok none) :
    (Expression.isIn operand set (!excluded)).test scope =
      ((Expression.isIn operand set excluded).test scope).map (!·) := by
  simp only [test, evaluate, value?]
  cases found : operand.value? scope with
  | error failure => rfl
  | ok held =>
    cases held with
    | none => exact absurd found present
    | some member =>
      cases set.value? scope with
      | error failure => rfl
      | ok listed => cases excluded <;> simp [Value.isTrue]

theorem map_not_map_not {ε : Type} (answer : Except ε Bool) :
    (answer.map (!·)).map (!·) = answer := by
  cases answer <;> simp

/-- The normal form of a negation is the opposite of the normal form of what it negates. -/
theorem test_normalize_not (predicate : Expression) (decided : predicate.IsDecided scope) :
    (Expression.unary .not predicate).normalize.test scope =
      (predicate.normalize.test scope).map (!·) := by
  match predicate with
  | .field path .boolean =>
    refine (test_equalsFlag path false scope).trans ?_
    refine Eq.trans ?_ (congrArg (Except.map (!·)) (test_equalsFlag path true scope).symm)
    cases found : scope.lookup? path with
    | error failure => rfl
    | ok held =>
      obtain ⟨flag, rfl⟩ := decided held found
      cases flag <;> rfl
  | .isIn operand set excluded => exact test_isIn_negated operand set excluded decided
  | .unary .not operand =>
    have opposite := test_normalize_not operand decided
    rw [opposite, map_not_map_not]
    rfl
  | .binary .. | .contains .. | .quantifier .. | .presence .. | .isType .. | .pattern ..
  | .unary .neg _ | .field _ .value | .item | .list _ | .size _ | .literal _ =>
    exact test_not _ scope
termination_by structural predicate

/-- Where a negation is exact it is the opposite of the predicate. -/
theorem test_negate (predicate : Expression) (settled : predicate.NegatesExactly scope) :
    predicate.negate.normalize.test scope = (predicate.normalize.test scope).map (!·) := by
  match predicate with
  | .binary (.connective .and) left right =>
    have first := test_negate left settled.1
    have second := test_negate right settled.2
    change (Expression.binary (.connective .or) left.negate.normalize right.negate.normalize).test
      scope = ((Expression.binary (.connective .and) left.normalize right.normalize).test scope).map _
    rw [test_connective, test_connective, first, second]
    rcases left.normalize.test scope with failure | _ | _ <;> rfl
  | .unary .not operand =>
    rw [test_normalize_not operand settled, map_not_map_not]
    rfl
  | .literal value =>
    cases value with
    | bool held => rfl
    | _ => exact test_not _ scope
  | .field path .boolean => exact test_normalize_not (.field path .boolean) settled
  | .isIn operand set excluded => exact test_normalize_not (.isIn operand set excluded) settled
  | .binary (.connective .or) _ _ | .binary (.comparison _) _ _ | .binary (.arithmetic _) _ _
  | .contains .. | .quantifier .. | .presence .. | .isType .. | .pattern ..
  | .unary .neg _ | .field _ .value | .item | .list _ | .size _ =>
    exact test_normalize_not _ settled
termination_by structural predicate

variable {naming : FieldNaming} {position : PredicateScope} {predicate folded : Expression}

theorem IsLeaf.negate_eq (leaf : IsLeaf naming position predicate) :
    predicate.negate = .unary .not predicate := by
  cases leaf <;> rfl

/-- The negation of a predicate with a selector has one as well. -/
theorem Selectable.negate (selectable : Selectable naming position predicate) :
    Selectable naming position predicate.negate := by
  induction selectable with
  | leaf leaf =>
    rw [leaf.negate_eq]
    exact .not (.leaf leaf)
  | truth held => exact .truth !held
  | flag plain => exact .leaf (.compare .eq _ (.field plain) rfl)
  | isIn excluded about literals => exact .isIn (!excluded) about literals
  | not inner _ => exact inner
  | connective op first second ofFirst ofSecond =>
    cases op with
    | and => exact .connective .or ofFirst ofSecond
    | or => exact .not (.connective .or first second)
  | quantifier kind about inner _ => exact .not (.quantifier kind about inner)

theorem IsLeaf.isDecided (leaf : IsLeaf naming position predicate) : predicate.IsDecided scope := by
  cases leaf <;> exact True.intro

theorem Selectable.isDecided_fold (selectable : Selectable naming position predicate)
    (folds : predicate.fold = .ok folded) (decided : predicate.IsDecided scope) :
    folded.IsDecided scope := by
  induction selectable generalizing folded with
  | leaf leaf =>
    obtain ⟨other, equal, same, _⟩ := leaf.fold_eq
    cases equal.symm.trans folds
    exact same.isDecided
  | truth held =>
    cases folds
    exact True.intro
  | flag plain =>
    cases folds
    exact decided
  | @isIn _ operand _ set _ excluded about literals =>
    have moving : ¬(Expression.isIn operand set excluded).isConstant := by
      simp [isConstant, about.not_isConstant]
    cases foldedParts_of_fold moving folds with
    | isIn _ part ofSet =>
      cases about.fold_eq.symm.trans part
      exact decided
  | @not _ operand inner ih =>
    by_cases constant : (Expression.unary .not operand).isConstant
    · obtain ⟨value, _, rfl⟩ := fold_of_isConstant constant folds
      exact True.intro
    · cases foldedParts_of_fold constant folds with
      | unary _ part =>
        have inside := ih part decided
        exact inside
  | @connective _ left right op first second ofFirst ofSecond =>
    by_cases constant : (Expression.binary (.connective op) left right).isConstant
    · obtain ⟨value, _, rfl⟩ := fold_of_isConstant constant folds
      exact True.intro
    · cases foldedParts_of_fold constant folds
      exact True.intro
  | @quantifier _ collection _ predicate kind about inner ih =>
    have moving : ¬(Expression.quantifier kind collection predicate).isConstant := by
      simp [isConstant, about.not_isConstant]
    cases foldedParts_of_fold moving folds
    exact True.intro

/-- Whether a negation goes into a predicate. -/
def isConjunction : Expression → Bool
  | .binary (.connective .and) _ _ => true
  | _ => false

theorem negatesExactly_iff (single : predicate.isConjunction = false) :
    predicate.NegatesExactly scope ↔ predicate.IsDecided scope := by
  unfold NegatesExactly
  split
  · cases single
  · rfl

theorem FoldedParts.isConjunction_eq (parts : FoldedParts predicate folded) :
    folded.isConjunction = predicate.isConjunction := by
  cases parts with
  | binary op ofLeft ofRight => rcases op with _ | ⟨_ | _⟩ | _ <;> rfl
  | _ => rfl

theorem isConjunction_fold (single : predicate.isConjunction = false)
    (folds : predicate.fold = .ok folded) : folded.isConjunction = false := by
  by_cases constant : predicate.isConstant
  · obtain ⟨value, _, rfl⟩ := fold_of_isConstant constant folds
    rfl
  · exact (foldedParts_of_fold constant folds).isConjunction_eq.trans single

/-- Folding leaves a negation exact. -/
theorem Selectable.negatesExactly_fold (selectable : Selectable naming position predicate)
    (folds : predicate.fold = .ok folded) (settled : predicate.NegatesExactly scope) :
    folded.NegatesExactly scope := by
  have whole : ∀ {position predicate folded}, Selectable naming position predicate →
      predicate.isConjunction = false → predicate.fold = .ok folded →
        predicate.NegatesExactly scope → folded.NegatesExactly scope :=
    fun selectable single folds settled => (negatesExactly_iff (isConjunction_fold single folds)).mpr
      (selectable.isDecided_fold folds ((negatesExactly_iff single).mp settled))
  induction selectable generalizing folded with
  | leaf leaf => exact whole (.leaf leaf) (by cases leaf <;> rfl) folds settled
  | truth held =>
    cases folds
    exact True.intro
  | flag plain =>
    cases folds
    exact settled
  | isIn excluded about literals => exact whole (.isIn excluded about literals) rfl folds settled
  | not inner _ => exact whole (.not inner) rfl folds settled
  | quantifier kind about inner _ => exact whole (.quantifier kind about inner) rfl folds settled
  | @connective _ left right op first second ofFirst ofSecond =>
    cases op with
    | or => exact whole (.connective .or first second) rfl folds settled
    | and =>
      by_cases constant : (Expression.binary (.connective .and) left right).isConstant
      · obtain ⟨value, _, rfl⟩ := fold_of_isConstant constant folds
        exact True.intro
      · cases foldedParts_of_fold constant folds with
        | binary _ ofLeft ofRight => exact ⟨ofFirst ofLeft settled.1, ofSecond ofRight settled.2⟩

end DocQuery.Expression
