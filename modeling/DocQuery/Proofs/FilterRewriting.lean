import DocQuery.Expression.Folding
import DocQuery.Proofs.SelectorAgreement

/-! A filter asks the same after its constants have been folded and its predicate has been brought to
normal form. Constants in a portable predicate are truth values and sets of literals only, so
folding one cannot fail. -/

namespace DocQuery
namespace Expression

theorem normalize_normalize_polar (predicate : Expression) (negated : Bool) :
    (predicate.polar negated).normalize.normalize = (predicate.polar negated).normalize := by
  match predicate with
  | .binary (.connective op) left right =>
    have first : left.normalize.normalize = left.normalize := normalize_normalize_polar left false
    have second : right.normalize.normalize = right.normalize :=
      normalize_normalize_polar right false
    cases negated <;> simp [polar, normalize, first, second]
  | .quantifier kind collection predicate =>
    have inner : predicate.normalize.normalize = predicate.normalize :=
      normalize_normalize_polar predicate false
    cases negated <;> simp [polar, normalize, inner]
  | .unary .not operand =>
    cases negated with
    | false => exact normalize_normalize_polar operand true
    | true => exact normalize_normalize_polar operand false
  | .isIn _ _ _ | .field _ .boolean | .binary (.comparison _) _ _ | .binary (.arithmetic _) _ _
  | .unary .neg _ | .contains .. | .presence .. | .isType .. | .pattern .. | .field _ .value | .item
  | .list _ | .size _ | .literal _ => cases negated <;> rfl
termination_by structural predicate

variable {naming : FieldNaming} {position : PredicateScope} {expression predicate : Expression}
  {target : Target}

theorem IsTarget.not_isConstant (about : IsTarget naming position expression target) :
    expression.isConstant = false := by
  cases about <;> rfl

theorem IsTarget.fold_eq (about : IsTarget naming position expression target) :
    expression.fold = .ok expression := by
  cases about <;> rfl

theorem areConstant_literals (values : List Value) :
    areConstant (values.map Expression.literal) = true := by
  induction values with
  | nil => rfl
  | cons value rest ih => exact ih

theorem IsLiteralSet.fold_eq {set : Expression} {values : List Value}
    (literals : IsLiteralSet set values) :
    ∃ folded, set.fold = .ok folded ∧ IsLiteralSet folded values := by
  cases literals with
  | list finite => exact ⟨_, rfl, .list finite⟩
  | single finite lone => exact ⟨_, rfl, .single finite lone⟩
  | items finite =>
    refine ⟨.literal (.list values), ?_, .list finite⟩
    have constant : (Expression.list (values.map .literal)).isConstant :=
      areConstant_literals values
    rw [fold, if_pos constant]
    simp [constantLiteral, evaluate, value?, values_literals]

/-- A leaf is about some part of the document, so it is no constant. -/
theorem IsLeaf.not_isConstant (leaf : IsLeaf naming position predicate) :
    predicate.isConstant = false := by
  cases leaf with
  | compare op value about finite => simp [isConstant, about.not_isConstant]
  | compareFlipped op value about finite => simp [isConstant, about.not_isConstant]
  | size count about natural => simp [isConstant, about.not_isConstant]
  | sizeFlipped count about natural => simp [isConstant, about.not_isConstant]
  | contains about set => simp [isConstant, about.not_isConstant]
  | presence expected plain => rfl
  | isType type about => simp [isConstant, about.not_isConstant]
  | pattern about parsed => simp [isConstant, about.not_isConstant]
  | item => rfl

theorem IsLeaf.fold_eq (leaf : IsLeaf naming position predicate) :
    ∃ folded, predicate.fold = .ok folded ∧ IsLeaf naming position folded ∧
      ∀ scope value, Scope.Shows scope naming position value →
        folded.test scope = predicate.test scope := by
  have moving := leaf.not_isConstant
  cases leaf with
  | contains about set =>
    obtain ⟨folded, equal, same⟩ := set.fold_eq
    refine ⟨_, ?_, .contains about same, fun scope value shows => ?_⟩
    · rw [fold, if_neg (by simp [moving]), about.fold_eq, equal]
      rfl
    · rw [test_contains (about.value?_eq shows) same, test_contains (about.value?_eq shows) set]
  | compare op value about finite =>
    exact ⟨_, by cases about <;> rfl, .compare op value about finite, fun _ _ _ => rfl⟩
  | compareFlipped op value about finite =>
    exact ⟨_, by cases about <;> rfl, .compareFlipped op value about finite, fun _ _ _ => rfl⟩
  | size count about natural =>
    exact ⟨_, by cases about <;> rfl, .size count about natural, fun _ _ _ => rfl⟩
  | sizeFlipped count about natural =>
    exact ⟨_, by cases about <;> rfl, .sizeFlipped count about natural, fun _ _ _ => rfl⟩
  | presence expected plain => exact ⟨_, rfl, .presence expected plain, fun _ _ _ => rfl⟩
  | isType type about =>
    exact ⟨_, by cases about <;> rfl, .isType type about, fun _ _ _ => rfl⟩
  | pattern about parsed =>
    exact ⟨_, by cases about <;> rfl, .pattern about parsed, fun _ _ _ => rfl⟩
  | item => exact ⟨_, rfl, .item, fun _ _ _ => rfl⟩

/-- A constant predicate holds or does not hold, whatever the document is. -/
theorem Selectable.value_of_isConstant (selectable : Selectable naming position predicate)
    (constant : predicate.isConstant) :
    ∃ held, (∀ scope, predicate.value? scope = .ok (some (.bool held))) ∧
      ∀ negated scope, (predicate.polar negated).normalize.test scope = .ok (held != negated) := by
  induction selectable with
  | leaf leaf => rw [leaf.not_isConstant] at constant; cases constant
  | truth held => exact ⟨held, fun _ => rfl, fun negated _ => by cases negated <;> cases held <;> rfl⟩
  | flag plain => cases constant
  | isIn excluded about literals => simp [isConstant, about.not_isConstant] at constant
  | quantifier kind about inner ih => simp [isConstant, about.not_isConstant] at constant
  | not inner ih =>
    obtain ⟨held, values, tests⟩ := ih constant
    refine ⟨!held, fun scope => by simp [value?, values, Value.isTrue], fun negated scope => ?_⟩
    have opposite := tests (!negated) scope
    cases negated <;> cases held <;> exact opposite
  | @connective _ left right op first second ofFirst ofSecond =>
    simp only [isConstant, Bool.and_eq_true] at constant
    obtain ⟨held, values, tests⟩ := ofFirst constant.1
    obtain ⟨other, otherValues, otherTests⟩ := ofSecond constant.2
    have plain : ∀ scope, (Expression.binary (.connective op) left right).normalize.test scope =
        .ok (op.join held other) := by
      intro scope
      have first : left.normalize.test scope = .ok held := by simpa [polar] using tests false scope
      have second : right.normalize.test scope = .ok other := by
        simpa [polar] using otherTests false scope
      exact test_connective_of_answers first second
    refine ⟨op.join held other, fun scope => ?_, fun negated scope => ?_⟩
    · simp only [value?, values, otherValues, ok_bind]
      cases op <;> cases held <;> cases other <;> rfl
    · cases negated with
      | false => exact (plain scope).trans (by rw [Bool.bne_false])
      | true =>
        have negation := test_not (Expression.binary (.connective op) left right).normalize scope
        rw [plain] at negation
        exact negation.trans (by rw [Bool.bne_true]; rfl)

def AsksSame (naming : FieldNaming) (position : PredicateScope) (first second : Expression) : Prop :=
  ∀ scope value, Scope.Shows scope naming position value → first.test scope = second.test scope

theorem AsksSame.polar {first second : Expression} (same : AsksSame naming position first second)
    (negated : Bool) : AsksSame naming position (first.polar negated) (second.polar negated) := by
  cases negated with
  | false => exact same
  | true =>
    intro scope value shows
    exact (test_not first scope).trans
      ((congrArg (Except.map (!·)) (same scope value shows)).trans (test_not second scope).symm)

theorem AsksSame.connective {left right first second : Expression} (op : Connective)
    (ofLeft : AsksSame naming position left first)
    (ofRight : AsksSame naming position right second) :
    AsksSame naming position (.binary (.connective op) left right)
      (.binary (.connective op) first second) := by
  intro scope value shows
  rw [test_connective, test_connective, ofLeft scope value shows, ofRight scope value shows]

theorem AsksSame.quantifier {first second : Expression} (kind : QuantifierKind)
    (about : IsTarget naming position expression target)
    (same : AsksSame naming .element first second) :
    AsksSame naming position (.quantifier kind expression first)
      (.quantifier kind expression second) := by
  intro scope value shows
  rw [test_quantifier kind first (about.value?_eq shows),
    test_quantifier kind second (about.value?_eq shows), asList?_held]
  cases (target.held value).bind Json.asArray? with
  | none => rfl
  | some items =>
    simp only [Option.map_some, kind.decide_map]
    congr 1
    funext part
    exact same _ part (shows.element part)

/-- Folding a predicate succeeds, and the normal forms before and after it ask the same. -/
def FoldsAlike (naming : FieldNaming) (position : PredicateScope) (predicate : Expression) : Prop :=
  ∃ folded, predicate.fold = .ok folded ∧ Selectable naming position folded ∧
    ∀ negated, AsksSame naming position (folded.polar negated).normalize
      (predicate.polar negated).normalize

theorem Selectable.foldsAlike_of_isConstant (selectable : Selectable naming position predicate)
    (constant : predicate.isConstant) : FoldsAlike naming position predicate := by
  obtain ⟨held, values, tests⟩ := selectable.value_of_isConstant constant
  refine ⟨.literal (.bool held), ?_, .truth held, fun negated scope value shows => ?_⟩
  · rw [fold.eq_def, if_pos constant]
    simp [constantLiteral, evaluate, values]
  · rw [tests]
    cases negated <;> cases held <;> rfl

theorem Selectable.foldsAlike (selectable : Selectable naming position predicate) :
    FoldsAlike naming position predicate := by
  induction selectable with
  | leaf leaf =>
    obtain ⟨folded, equal, same, tests⟩ := leaf.fold_eq
    refine ⟨folded, equal, .leaf same, fun negated => ?_⟩
    rw [leaf.normalize_polar, same.normalize_polar]
    exact AsksSame.polar tests negated
  | truth held => exact ⟨_, rfl, .truth held, fun _ _ _ _ => rfl⟩
  | flag plain => exact ⟨_, rfl, .flag plain, fun _ _ _ _ => rfl⟩
  | isIn excluded about literals =>
    obtain ⟨folded, equal, same⟩ := literals.fold_eq
    refine ⟨_, ?_, .isIn excluded about same, fun negated scope value shows => ?_⟩
    · rw [fold, if_neg (by simp [isConstant, about.not_isConstant]), about.fold_eq, equal]
      rfl
    · have found := about.value?_eq shows
      cases negated
      · exact (test_isIn _ found same).trans (test_isIn _ found literals).symm
      · exact (test_isIn _ found same).trans (test_isIn _ found literals).symm
  | quantifier kind about inner ih =>
    obtain ⟨folded, equal, same, asks⟩ := ih
    refine ⟨_, ?_, .quantifier kind about same, fun negated => ?_⟩
    · rw [fold, if_neg (by simp [isConstant, about.not_isConstant]), about.fold_eq, equal]
      rfl
    · have quantified := (AsksSame.quantifier kind about (asks false)).polar negated
      cases negated <;> exact quantified
  | @not position operand inner ih =>
    by_cases constant : operand.isConstant
    · exact inner.not.foldsAlike_of_isConstant constant
    obtain ⟨folded, equal, same, asks⟩ := ih
    refine ⟨_, ?_, .not same, fun negated => ?_⟩
    · rw [fold, if_neg (by simpa [isConstant] using constant), equal]
      rfl
    · cases negated with
      | false => exact asks true
      | true => exact asks false
  | @connective position left right op first second ofFirst ofSecond =>
    by_cases constant : (Expression.binary (.connective op) left right).isConstant
    · exact (first.connective op second).foldsAlike_of_isConstant constant
    obtain ⟨folded, equal, same, asks⟩ := ofFirst
    obtain ⟨other, otherEqual, otherSame, otherAsks⟩ := ofSecond
    refine ⟨_, ?_, .connective op same otherSame, fun negated => ?_⟩
    · rw [fold, if_neg constant, equal, otherEqual]
      rfl
    · have connected := (AsksSame.connective op (asks false) (otherAsks false)).polar negated
      cases negated <;> exact connected

theorem Selectable.normalize_polar (selectable : Selectable naming position predicate)
    (negated : Bool) : Selectable naming position (predicate.polar negated).normalize := by
  induction selectable generalizing negated with
  | leaf leaf =>
    rw [leaf.normalize_polar]
    cases negated with
    | false => exact .leaf leaf
    | true => exact .not (.leaf leaf)
  | truth held =>
    cases negated with
    | false => exact .truth held
    | true => exact .not (.truth held)
  | flag plain => cases negated <;> exact .leaf (.compare .eq _ (.field plain) rfl)
  | isIn excluded about literals => cases negated <;> exact .isIn _ about literals
  | not inner ih =>
    cases negated with
    | false => exact ih true
    | true => exact ih false
  | connective op first second ofFirst ofSecond =>
    have connected := Selectable.connective op (ofFirst false) (ofSecond false)
    cases negated with
    | false => exact connected
    | true => exact .not connected
  | quantifier kind about inner ih =>
    have quantified := Selectable.quantifier kind about (ih false)
    cases negated with
    | false => exact quantified
    | true => exact .not quantified

/-- Whether a filter keeps a document. -/
def accepts (naming : FieldNaming) (predicate : Expression) (document : Json) : Bool :=
  match predicate.normalize.holds naming (.ofJson document) with
  | .ok answer => answer
  | .error _ => false

variable {document : Json}

theorem Selectable.holds_eq (selectable : Selectable naming .document predicate)
    (identity : (document.get? "_id").isSome) :
    predicate.normalize.holds naming (.ofJson document) = .ok (predicate.accepts naming document) := by
  obtain ⟨_, _, agrees⟩ := selectable.selects
  obtain ⟨answer, _, holds⟩ := agrees document identity
  rw [accepts, holds]

/-- The selector of a filter selects what the filter keeps. -/
theorem Selectable.selector_eq (selectable : Selectable naming .document predicate) :
    ∃ clause, predicate.selector naming = .ok clause ∧
      ∀ document : Json, (document.get? "_id").isSome →
        clause.admits (some document) = .ok (predicate.accepts naming document) := by
  obtain ⟨clause, found, agrees⟩ := selectable.selects
  refine ⟨clause, found, fun document identity => ?_⟩
  obtain ⟨answer, selects, holds⟩ := agrees document identity
  rw [accepts, holds]
  exact selects

theorem accepts_normalize (naming : FieldNaming) (predicate : Expression) (document : Json) :
    predicate.normalize.accepts naming document = predicate.accepts naming document := by
  have same : predicate.normalize.normalize = predicate.normalize :=
    normalize_normalize_polar predicate false
  rw [accepts, same, accepts]

theorem accepts_and {left right : Expression} (first : Selectable naming .document left)
    (second : Selectable naming .document right) (identity : (document.get? "_id").isSome) :
    (Expression.binary (.connective .and) left right).accepts naming document =
      (left.accepts naming document && right.accepts naming document) := by
  have both : (Expression.binary (.connective .and) left right).normalize.holds naming
      (.ofJson document) = .ok (left.accepts naming document && right.accepts naming document) :=
    test_connective_of_answers (first.holds_eq identity) (second.holds_eq identity)
  rw [accepts, both]

theorem Selectable.accepts_fold (selectable : Selectable naming .document predicate) :
    ∃ folded, predicate.fold = .ok folded ∧ Selectable naming .document folded ∧
      ∀ document : Json, (document.get? "_id").isSome →
        folded.accepts naming document = predicate.accepts naming document := by
  obtain ⟨folded, equal, same, asks⟩ := selectable.foldsAlike
  refine ⟨folded, equal, same, fun document identity => ?_⟩
  have alike : folded.normalize.holds naming (.ofJson document) =
      predicate.normalize.holds naming (.ofJson document) :=
    asks false _ document (Scope.shows_document naming identity)
  rw [accepts, alike, accepts]

end Expression
end DocQuery
