import DocQuery.Proofs.PortableFolding

/-! Folding an expression changes its value in no document and for no element. A constant has one value
wherever it stands, so its literal can take its place. Only an absent constant would be told from its
literal, which is null; the size of something that is no list is what makes constants absent. -/

namespace DocQuery.Expression

/-- Whether two scopes are the same to an expression: it is constant, or it has no fields and both
scopes have the same element. -/
def SeesSame (expression : Expression) (first second : Scope) : Prop :=
  expression.isConstant ∨ expression.hasField = false ∧ first.item = second.item

section Scopes

variable {first second : Scope} {left right : Expression} {rest : List Expression}

theorem SeesSame.parts
    (same : (left.isConstant && right.isConstant) = true ∨
      (left.hasField || right.hasField) = false ∧ first.item = second.item) :
    SeesSame left first second ∧ SeesSame right first second := by
  obtain constant | ⟨plain, element⟩ := same
  · obtain ⟨ofLeft, ofRight⟩ := Bool.and_eq_true_iff.mp constant
    exact ⟨Or.inl ofLeft, Or.inl ofRight⟩
  · obtain ⟨ofLeft, ofRight⟩ := Bool.or_eq_false_iff.mp plain
    exact ⟨Or.inr ⟨ofLeft, element⟩, Or.inr ⟨ofRight, element⟩⟩

theorem SeesSame.cons (same : SeesSame (.list (left :: rest)) first second) :
    SeesSame left first second ∧ SeesSame (.list rest) first second := by
  obtain constant | ⟨plain, element⟩ := same
  · obtain ⟨own, others⟩ := Bool.and_eq_true_iff.mp constant
    exact ⟨Or.inl own, Or.inl others⟩
  · obtain ⟨own, others⟩ := Bool.or_eq_false_iff.mp plain
    exact ⟨Or.inr ⟨own, element⟩, Or.inr ⟨others, element⟩⟩

/-- The predicate of a quantifier has no fields, and the quantifier itself supplies the element. -/
theorem SeesSame.quantified {kind : QuantifierKind}
    (same : SeesSame (.quantifier kind left right) first second) :
    SeesSame left first second ∧
      ∀ element, SeesSame right (first.ofElement element) (second.ofElement element) := by
  obtain constant | ⟨plain, element⟩ := same
  · obtain ⟨own, inner⟩ := Bool.and_eq_true_iff.mp constant
    exact ⟨Or.inl own, fun _ => Or.inr ⟨Bool.not_eq_true' _ ▸ inner, rfl⟩⟩
  · obtain ⟨own, inner⟩ := Bool.or_eq_false_iff.mp plain
    exact ⟨Or.inr ⟨own, element⟩, fun _ => Or.inr ⟨inner, rfl⟩⟩

end Scopes

mutual

/-- An expression has one value in all scopes that are the same to it. -/
theorem value?_of_seesSame (expression : Expression) {first second : Scope}
    (same : SeesSame expression first second) : expression.value? first = expression.value? second := by
  match expression with
  | .field _ _ => rcases same with constant | ⟨plain, _⟩ <;> contradiction
  | .item =>
    obtain constant | ⟨_, element⟩ := same
    · cases constant
    · simp only [value?, element]
  | .literal _ => rfl
  | .list items => simp only [value?, values_of_seesSame items same]
  | .binary op left right =>
    obtain ⟨ofLeft, ofRight⟩ := SeesSame.parts same
    have left := value?_of_seesSame left ofLeft
    have right := value?_of_seesSame right ofRight
    cases op <;> simp only [value?, left, right]
  | .unary op operand =>
    have inner := value?_of_seesSame operand same
    cases op <;> simp only [value?, inner]
  | .isIn operand set _ | .contains operand set =>
    obtain ⟨ofOperand, ofSet⟩ := SeesSame.parts same
    simp only [value?, value?_of_seesSame operand ofOperand, value?_of_seesSame set ofSet]
  | .quantifier _ collection predicate =>
    obtain ⟨ofCollection, inside⟩ := SeesSame.quantified same
    have inner := fun element => value?_of_seesSame predicate (inside element)
    simp only [value?, value?_of_seesSame collection ofCollection, inner]
  | .presence operand _ | .isType operand _ | .size operand | .pattern operand _ =>
    simp only [value?, value?_of_seesSame operand same]
termination_by structural expression

theorem values_of_seesSame (items : List Expression) {first second : Scope}
    (same : SeesSame (.list items) first second) :
    values items first = values items second := by
  match items with
  | [] => rfl
  | part :: rest =>
    obtain ⟨ofPart, ofRest⟩ := SeesSame.cons same
    simp only [values, value?_of_seesSame part ofPart, values_of_seesSame rest ofRest]
termination_by structural items

end

theorem value?_of_isConstant {expression : Expression} (constant : expression.isConstant)
    (first second : Scope) : expression.value? first = expression.value? second :=
  value?_of_seesSame expression (Or.inl constant)

/-- Whether the sizes in an expression that are asked of constants are sizes of lists. Nothing is required
of a constant that has no value: its size has none either. -/
def SizesLists (expression : Expression) : Prop :=
  ∀ collection, PartOf expression (.size collection) → collection.isConstant →
    ∀ value, collection.evaluate .constant = .ok value → ∃ items, value = .list items

theorem SizesLists.child {expression child : Expression} (sizes : expression.SizesLists)
    (among : child ∈ expression.children) : child.SizesLists :=
  fun collection inside => sizes collection ((PartOf.whole.child among).trans inside)

theorem value?_size_present {collection : Expression} {scope : Scope}
    (lists : ∀ value, collection.evaluate scope = .ok value → ∃ items, value = .list items) :
    (Expression.size collection).value? scope ≠ .ok none := by
  intro absent
  obtain ⟨read, found, made⟩ := bind_eq_ok.mp absent
  have evaluates : collection.evaluate scope = .ok (read.getD .null) := by rw [evaluate, found]; rfl
  obtain ⟨items, list⟩ := lists _ evaluates
  cases read with
  | none => cases list
  | some value =>
    obtain rfl : value = .list items := list
    cases made

theorem value?_arithmetic_present {op : ArithmeticOp} {left right : Expression} {scope : Scope}
    (ofLeft : left.value? scope ≠ .ok none) (ofRight : right.value? scope ≠ .ok none) :
    (Expression.binary (.arithmetic op) left right).value? scope ≠ .ok none := by
  intro absent
  obtain ⟨first, foundFirst, further⟩ := bind_eq_ok.mp absent
  obtain ⟨second, foundSecond, made⟩ := bind_eq_ok.mp further
  cases first with
  | none => exact ofLeft foundFirst
  | some a =>
    cases second with
    | none => exact ofRight foundSecond
    | some b =>
      obtain ⟨_, _, whole⟩ := bind_eq_ok.mp made
      cases whole

/-- Whether an expression can be absent: a field can, a size, and arithmetic. -/
def canBeAbsent : Expression → Bool
  | .field .. | .size _ | .binary (.arithmetic _) _ _ => true
  | _ => false

theorem value?_ne_none {expression : Expression} (sure : expression.canBeAbsent = false) (scope : Scope) :
    expression.value? scope ≠ .ok none := by
  intro absent
  by_cases test : expression.isTest
  · obtain ⟨held, made⟩ := value?_of_isTest test absent
    cases made
  match expression with
  | .literal value => cases absent
  | .item =>
    rw [value?] at absent
    split at absent <;> cases absent
  | .list items =>
    obtain ⟨_, _, made⟩ := bind_eq_ok.mp absent
    cases made
  | .unary .neg operand =>
    obtain ⟨_, _, further⟩ := bind_eq_ok.mp absent
    obtain ⟨_, _, made⟩ := bind_eq_ok.mp further
    cases made
  | .field _ _ | .size _ | .binary (.arithmetic _) _ _ => cases sure
  | .binary (.connective _) _ _ | .binary (.comparison _) _ _ | .unary .not _ | .isIn _ _ _
  | .contains _ _ | .quantifier _ _ _ | .presence _ _ | .isType _ _ | .pattern _ _ =>
    exact absurd rfl test

/-- A constant is present if its sizes are sizes of lists. -/
theorem value?_present (expression : Expression) (sizes : expression.SizesLists)
    (constant : expression.isConstant) : expression.value? .constant ≠ .ok none := by
  by_cases sure : expression.canBeAbsent = false
  · exact value?_ne_none sure .constant
  match expression with
  | .field _ _ => cases constant
  | .size collection => exact value?_size_present (sizes collection .whole constant)
  | .binary (.arithmetic op) left right =>
    obtain ⟨ofLeft, ofRight⟩ := Bool.and_eq_true_iff.mp constant
    exact value?_arithmetic_present
      (value?_present left (sizes.child (by simp [children])) ofLeft)
      (value?_present right (sizes.child (by simp [children])) ofRight)
  | .item | .literal _ | .list _ | .binary (.connective _) _ _ | .binary (.comparison _) _ _
  | .unary _ _ | .isIn _ _ _ | .contains _ _ | .quantifier _ _ _ | .presence _ _ | .isType _ _
  | .pattern _ _ => exact absurd rfl sure
termination_by structural expression

/-- The literal of a constant has the value of the constant. -/
theorem value?_fold_of_isConstant {expression folded : Expression} (sizes : expression.SizesLists)
    (constant : expression.isConstant) (folds : expression.fold = .ok folded) (scope : Scope) :
    folded.value? scope = expression.value? scope := by
  obtain ⟨value, evaluates, rfl⟩ := fold_of_isConstant constant folds
  obtain ⟨read, found, made⟩ := bind_eq_ok.mp evaluates
  cases read with
  | none => exact absurd found (value?_present expression sizes constant)
  | some own =>
    cases made
    rw [value?_of_isConstant constant scope .constant, found]
    rfl

theorem isField_fold {expression folded : Expression} (folds : expression.fold = .ok folded) :
    folded.isField = expression.isField := by
  by_cases constant : expression.isConstant
  · obtain ⟨value, _, rfl⟩ := fold_of_isConstant constant folds
    cases expression with
    | field => cases constant
    | _ => rfl
  · cases foldedParts_of_fold constant folds <;> rfl

mutual

/-- Folding leaves the value of an expression as it is, in every scope, and an absent expression
absent. -/
theorem value?_fold (expression : Expression) {folded : Expression} (sizes : expression.SizesLists)
    (folds : expression.fold = .ok folded) (scope : Scope) :
    folded.value? scope = expression.value? scope := by
  by_cases constant : expression.isConstant
  · exact value?_fold_of_isConstant sizes constant folds scope
  match expression, foldedParts_of_fold constant folds with
  | .field _ _, .field _ _ | .item, .item => rfl
  | .list items, .list parts =>
    have inner := values_foldItems items (fun part among => sizes.child among) parts scope
    simp only [value?, inner]
  | .binary op left right, .binary _ ofLeft ofRight =>
    have first := value?_fold left (sizes.child (by simp [children])) ofLeft scope
    have second := value?_fold right (sizes.child (by simp [children])) ofRight scope
    cases op <;> simp only [value?, first, second]
  | .unary op operand, .unary _ part =>
    have inner := value?_fold operand (sizes.child (by simp [children])) part scope
    cases op <;> simp only [value?, inner]
  | .isIn operand set _, .isIn _ ofOperand ofSet | .contains operand set, .contains ofOperand ofSet =>
    have first := value?_fold operand (sizes.child (by simp [children])) ofOperand scope
    have second := value?_fold set (sizes.child (by simp [children])) ofSet scope
    simp only [value?, first, second]
  | .quantifier _ collection predicate, .quantifier _ ofCollection ofPredicate =>
    have first := value?_fold collection (sizes.child (by simp [children])) ofCollection scope
    have inside := fun element =>
      value?_fold predicate (sizes.child (by simp [children])) ofPredicate (scope.ofElement element)
    simp only [value?, first, inside]
  | .presence operand _, .presence _ part | .isType operand _, .isType _ part =>
    have inner := value?_fold operand (sizes.child (by simp [children])) part scope
    simp only [value?, inner, isField_fold part]
  | .size operand, .size part | .pattern operand _, .pattern _ part =>
    have inner := value?_fold operand (sizes.child (by simp [children])) part scope
    simp only [value?, inner]
termination_by structural expression

theorem values_foldItems (items : List Expression) {folded : List Expression}
    (sizes : ∀ part ∈ items, part.SizesLists) (folds : foldItems items = .ok folded) (scope : Scope) :
    values folded scope = values items scope := by
  match items with
  | [] =>
    cases folds
    rfl
  | first :: rest =>
    obtain ⟨part, ofFirst, further⟩ := bind_eq_ok.mp folds
    obtain ⟨others, ofRest, made⟩ := bind_eq_ok.mp further
    cases made
    obtain ⟨own, remaining⟩ := List.forall_mem_cons.mp sizes
    simp only [values, value?_fold first own ofFirst scope,
      values_foldItems rest remaining ofRest scope]
termination_by structural items

end

/-- Folding preserves meaning: if the sizes that an expression asks of constants are sizes of lists, its
folded form has in every document the value that it has itself, or fails as it does. In every other
scope, that of an element of a quantifier among them, it has the same value too or is absent alike. -/
theorem evaluate_fold {expression folded : Expression} (sizes : expression.SizesLists)
    (folds : expression.fold = .ok folded) :
    (∀ naming document, folded.evaluate (.ofDocument naming document) =
      expression.evaluate (.ofDocument naming document)) ∧
    ∀ scope, folded.value? scope = expression.value? scope := by
  have same := value?_fold expression sizes folds
  refine ⟨fun naming document => ?_, same⟩
  rw [evaluate, same, evaluate]

/-- A constant size in the predicate of a quantifier over a field, and a quantifier over constant pairs
with another one over their items inside it. -/
theorem evaluate_fold_scores :
    let one : Expression := .literal (.int 1)
    let two : Expression := .binary (.arithmetic .add) one one
    let both : Expression := .list [one, two]
    let exceeds : Expression := .binary (.comparison .gt) .item (.size both)
    let scores : Expression := .quantifier .any (.field ⟨["scores"]⟩ .value) exceeds
    let equals : Expression := .binary (.comparison .eq) .item two
    let inner : Expression := .quantifier .any .item equals
    let pairs : Expression := .literal (.list [.list [.int 3, .int 2], .list [.int 2]])
    let outer : Expression := .quantifier .all pairs inner
    let expression : Expression := .binary (.connective .and) scores outer
    let folded : Expression := .binary (.connective .and)
      (.quantifier .any (.field ⟨["scores"]⟩ .value)
        (.binary (.comparison .gt) .item (.literal (.int 2))))
      (.literal (.bool true))
    expression.SizesLists ∧ expression.fold = .ok folded ∧
      (∀ naming document, folded.evaluate (.ofDocument naming document) =
        expression.evaluate (.ofDocument naming document)) ∧
      ∀ scope, folded.value? scope = expression.value? scope := by
  intro one two both exceeds scores equals inner pairs outer expression folded
  have sizes : expression.SizesLists := by
    intro collection inside _ value evaluates
    have among : Expression.size collection ∈ [expression, scores, .field ⟨["scores"]⟩ .value, exceeds,
        .item, .size both, both, one, two, outer, pairs, inner, equals] := by
      refine inside.mem_of_closed List.mem_cons_self ?_
      simp [children, expression, scores, exceeds, both, outer, pairs, inner, equals, two, one]
    obtain rfl : collection = both := by
      simpa [expression, scores, exceeds, both, outer, pairs, inner, equals, two, one] using among
    cases evaluates
    exact ⟨_, rfl⟩
  have folds : expression.fold = .ok folded := rfl
  exact ⟨sizes, folds, evaluate_fold sizes folds⟩

/-- The size of a text is absent, and so equals nothing; its literal is null. -/
example :
    let size : Expression := .size (.literal (.string "text"))
    let expression : Expression := .binary (.comparison .eq) (.field ⟨["mentor"]⟩ .value) size
    let scope := Scope.ofDocument (.ofCase .unchanged) (.map [("mentor", .null)])
    (expression.fold.map fun folded => folded.evaluate scope) = .ok (.ok (.bool true)) ∧
      expression.evaluate scope = .ok (.bool false) :=
  ⟨rfl, rfl⟩

end DocQuery.Expression
