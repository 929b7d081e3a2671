import DocQuery.Expression.Folding
import DocQuery.Proofs.Outcomes

/-! What folding makes of an expression: a literal if it is constant, else the same form with folded
parts. Folding stops at literals: an expression whose constant parts are all literals stays as it is. -/

namespace DocQuery.Expression

/-- An expression of the same form, with its parts folded. -/
inductive FoldedParts : Expression → Expression → Prop where
  | field (path kind) : FoldedParts (.field path kind) (.field path kind)
  | item : FoldedParts .item .item
  | list {items folded} (parts : foldItems items = .ok folded) :
      FoldedParts (.list items) (.list folded)
  | binary (op) {left right first second} (ofLeft : left.fold = .ok first)
      (ofRight : right.fold = .ok second) : FoldedParts (.binary op left right) (.binary op first second)
  | unary (op) {operand folded} (part : operand.fold = .ok folded) :
      FoldedParts (.unary op operand) (.unary op folded)
  | isIn (excluded) {operand set folded members} (part : operand.fold = .ok folded)
      (ofSet : set.fold = .ok members) :
      FoldedParts (.isIn operand set excluded) (.isIn folded members excluded)
  | contains {collection values folded needles} (part : collection.fold = .ok folded)
      (ofValues : values.fold = .ok needles) :
      FoldedParts (.contains collection values) (.contains folded needles)
  | quantifier (kind) {collection predicate folded inner} (part : collection.fold = .ok folded)
      (ofPredicate : predicate.fold = .ok inner) :
      FoldedParts (.quantifier kind collection predicate) (.quantifier kind folded inner)
  | presence (expected) {operand folded} (part : operand.fold = .ok folded) :
      FoldedParts (.presence operand expected) (.presence folded expected)
  | isType (type) {operand folded} (part : operand.fold = .ok folded) :
      FoldedParts (.isType operand type) (.isType folded type)
  | size {collection folded} (part : collection.fold = .ok folded) :
      FoldedParts (.size collection) (.size folded)
  | pattern (source) {operand folded} (part : operand.fold = .ok folded) :
      FoldedParts (.pattern operand source) (.pattern folded source)

theorem fold_of_isConstant {expression folded : Expression} (constant : expression.isConstant)
    (folds : expression.fold = .ok folded) :
    ∃ value, expression.evaluate .constant = .ok value ∧ folded = .literal value := by
  rw [fold.eq_def, if_pos constant] at folds
  obtain ⟨value, evaluates, made⟩ := bind_eq_ok.mp folds
  exact ⟨value, evaluates, (Except.ok.inj made).symm⟩

theorem foldedParts_of_fold {expression folded : Expression} (moving : ¬expression.isConstant)
    (folds : expression.fold = .ok folded) : FoldedParts expression folded := by
  rw [fold.eq_def, if_neg moving] at folds
  cases expression with
  | literal value => exact absurd rfl moving
  | field path kind =>
    cases folds
    exact .field path kind
  | item =>
    cases folds
    exact .item
  | list items =>
    obtain ⟨parts, equal, made⟩ := bind_eq_ok.mp folds
    cases made
    exact .list equal
  | binary op left right =>
    obtain ⟨first, ofLeft, rest⟩ := bind_eq_ok.mp folds
    obtain ⟨second, ofRight, made⟩ := bind_eq_ok.mp rest
    cases made
    exact .binary op ofLeft ofRight
  | isIn operand set excluded =>
    obtain ⟨first, ofOperand, rest⟩ := bind_eq_ok.mp folds
    obtain ⟨second, ofSet, made⟩ := bind_eq_ok.mp rest
    cases made
    exact .isIn excluded ofOperand ofSet
  | contains collection values =>
    obtain ⟨first, ofCollection, rest⟩ := bind_eq_ok.mp folds
    obtain ⟨second, ofValues, made⟩ := bind_eq_ok.mp rest
    cases made
    exact .contains ofCollection ofValues
  | quantifier kind collection predicate =>
    obtain ⟨first, ofCollection, rest⟩ := bind_eq_ok.mp folds
    obtain ⟨second, ofPredicate, made⟩ := bind_eq_ok.mp rest
    cases made
    exact .quantifier kind ofCollection ofPredicate
  | unary op operand =>
    obtain ⟨part, equal, made⟩ := bind_eq_ok.mp folds
    cases made
    exact .unary op equal
  | presence operand expected =>
    obtain ⟨part, equal, made⟩ := bind_eq_ok.mp folds
    cases made
    exact .presence expected equal
  | isType operand type =>
    obtain ⟨part, equal, made⟩ := bind_eq_ok.mp folds
    cases made
    exact .isType type equal
  | size collection =>
    obtain ⟨part, equal, made⟩ := bind_eq_ok.mp folds
    cases made
    exact .size equal
  | pattern operand source =>
    obtain ⟨part, equal, made⟩ := bind_eq_ok.mp folds
    cases made
    exact .pattern source equal

/-- The parts of an expression, the expression itself among them. -/
inductive PartOf (whole : Expression) : Expression → Prop where
  | whole : PartOf whole whole
  | child {part child : Expression} (above : PartOf whole part) (among : child ∈ part.children) :
      PartOf whole child

/-- Whether nothing in an expression is left to fold: what does not depend on a document is a
literal. -/
def IsFolded (expression : Expression) : Prop :=
  ∀ part, PartOf expression part → part.isConstant → part.isLiteral

theorem PartOf.trans {whole middle part : Expression} (first : PartOf whole middle)
    (second : PartOf middle part) : PartOf whole part := by
  induction second with
  | whole => exact first
  | child _ among ih => exact ih.child among

/-- A list that holds the children of each of its members holds all parts of a member. -/
theorem PartOf.mem_of_closed {whole part : Expression} {parts : List Expression}
    (inside : PartOf whole part) (first : whole ∈ parts)
    (closed : ∀ part ∈ parts, part.children ⊆ parts) : part ∈ parts := by
  induction inside with
  | whole => exact first
  | child _ among ih => exact closed _ ih among

theorem IsFolded.child {expression child : Expression} (folded : expression.IsFolded)
    (among : child ∈ expression.children) : child.IsFolded :=
  fun part inside => folded part ((PartOf.whole.child among).trans inside)

theorem IsFolded.not_isConstant {expression : Expression} (folded : expression.IsFolded)
    (compound : expression.isLiteral = false) : ¬expression.isConstant := by
  intro constant
  rw [folded expression .whole constant] at compound
  cases compound

mutual

theorem fold_of_isFolded (expression : Expression) (folded : expression.IsFolded) :
    expression.fold = .ok expression := by
  match expression with
  | .field _ _ | .item | .literal _ => rfl
  | .list items =>
    rw [fold, if_neg (folded.not_isConstant rfl),
      foldItems_of_areFolded items fun part among => folded.child among]
    rfl
  | .binary _ left right | .isIn left right _ | .contains left right | .quantifier _ left right =>
    rw [fold, if_neg (folded.not_isConstant rfl),
      fold_of_isFolded left (folded.child (by simp [children])),
      fold_of_isFolded right (folded.child (by simp [children]))]
    rfl
  | .unary _ operand | .presence operand _ | .isType operand _ | .size operand
  | .pattern operand _ =>
    rw [fold, if_neg (folded.not_isConstant rfl),
      fold_of_isFolded operand (folded.child (by simp [children]))]
    rfl
termination_by structural expression

theorem foldItems_of_areFolded (items : List Expression) (folded : ∀ part ∈ items, part.IsFolded) :
    foldItems items = .ok items := by
  match items with
  | [] => rfl
  | first :: rest =>
    rw [foldItems, fold_of_isFolded first (folded first (by simp)),
      foldItems_of_areFolded rest fun part among => folded part (by simp [among])]
    rfl
termination_by structural items

end

theorem largestConstantsOf_eq_nil {items : List Expression} :
    largestConstantsOf items = [] ↔ ∀ part ∈ items, part.largestConstants = [] := by
  induction items with
  | nil => simp [largestConstantsOf]
  | cons first rest ih => simp [largestConstantsOf, ih]

theorem isLiteral_of_largestConstants {expression : Expression} (constant : expression.isConstant)
    (empty : expression.largestConstants = []) : expression.isLiteral := by
  rw [largestConstants.eq_def, if_pos constant] at empty
  split at empty
  · assumption
  · cases empty

theorem largestConstants_child {expression child : Expression}
    (empty : expression.largestConstants = []) (among : child ∈ expression.children) :
    child.largestConstants = [] := by
  by_cases constant : expression.isConstant
  · have literal := isLiteral_of_largestConstants constant empty
    cases expression with
    | literal value => cases among
    | _ => cases literal
  rw [largestConstants.eq_def, if_neg constant] at empty
  cases expression with
  | list items => exact largestConstantsOf_eq_nil.mp empty child among
  | field path kind | item | literal value => cases among
  | binary _ _ _ | isIn _ _ _ | contains _ _ | quantifier _ _ _ =>
    simp only [List.append_eq_nil_iff] at empty
    simp only [children, List.mem_cons, List.not_mem_nil, or_false] at among
    obtain rfl | rfl := among
    · exact empty.1
    · exact empty.2
  | unary _ _ | presence _ _ | isType _ _ | size _ | pattern _ _ =>
    obtain rfl := List.mem_singleton.mp among
    exact empty

/-- An expression has nothing to fold if it has no largest constants that are not yet literals. -/
theorem isFolded_of_largestConstants {expression : Expression}
    (empty : expression.largestConstants = []) : expression.IsFolded := by
  intro part inside constant
  apply isLiteral_of_largestConstants constant
  clear constant
  induction inside with
  | whole => exact empty
  | child _ among ih => exact largestConstants_child ih among

end DocQuery.Expression
