import DocQuery.Proofs.FoldedExpressions
import DocQuery.Proofs.PortablePredicates

/-! Folding leaves a portable predicate portable. What could get in its way are numbers: a computed one
need not be finite, and the size of a field compares only with a count. So the numbers of the predicate
must all be written in it. -/

namespace DocQuery.Expression

mutual

/-- Whether no number of an expression is computed from constants. -/
def isWritten : Expression → Bool
  | .field .. | .item | .literal _ => true
  | .list items => areWritten items
  | .binary (.arithmetic _) _ _ | .unary .neg _ => false
  | .binary _ left right => left.isWritten && right.isWritten
  | .unary _ operand => operand.isWritten
  | .isIn operand set _ => operand.isWritten && set.isWritten
  | .contains collection values => collection.isWritten && values.isWritten
  | .quantifier _ collection predicate => collection.isWritten && predicate.isWritten
  | .presence operand _ => operand.isWritten
  | .isType operand _ => operand.isWritten
  | .size collection => !collection.isConstant && collection.isWritten
  | .pattern operand _ => operand.isWritten
termination_by structural expression => expression

def areWritten : List Expression → Bool
  | [] => true
  | first :: rest => first.isWritten && areWritten rest
termination_by structural items => items

end

/-- Whether an expression has a truth value, if it has any. -/
def isTest : Expression → Bool
  | .field .. | .item | .literal _ | .list _ | .size _ => false
  | .binary (.arithmetic _) _ _ | .unary .neg _ => false
  | _ => true

variable {expression folded : Expression} {scope : Scope} {value : Value} {naming : FieldNaming}

theorem value?_of_isTest {read : Option Value} (test : expression.isTest)
    (found : expression.value? scope = .ok read) : ∃ held, read = some (.bool held) := by
  cases expression with
  | field | item | literal | list | size => cases test
  | binary op left right =>
    cases op with
    | arithmetic => cases test
    | connective op =>
      obtain ⟨first, _, further⟩ := bind_eq_ok.mp found
      dsimp only at further
      split at further
      · exact ⟨_, (Except.ok.inj further).symm⟩
      · exact ⟨_, (Except.ok.inj further).symm⟩
      · obtain ⟨second, _, made⟩ := bind_eq_ok.mp further
        exact ⟨_, (Except.ok.inj made).symm⟩
    | comparison op =>
      obtain ⟨first, _, further⟩ := bind_eq_ok.mp found
      obtain ⟨second, _, made⟩ := bind_eq_ok.mp further
      split at made <;> exact ⟨_, (Except.ok.inj made).symm⟩
  | unary op operand =>
    cases op with
    | neg => cases test
    | not =>
      obtain ⟨_, _, made⟩ := bind_eq_ok.mp found
      exact ⟨_, (Except.ok.inj made).symm⟩
  | isIn operand set excluded =>
    obtain ⟨member, _, further⟩ := bind_eq_ok.mp found
    cases member with
    | none => exact ⟨_, (Except.ok.inj further).symm⟩
    | some member =>
      obtain ⟨_, _, made⟩ := bind_eq_ok.mp further
      exact ⟨_, (Except.ok.inj made).symm⟩
  | contains collection required =>
    obtain ⟨_, _, further⟩ := bind_eq_ok.mp found
    obtain ⟨_, _, made⟩ := bind_eq_ok.mp further
    split at made <;> exact ⟨_, (Except.ok.inj made).symm⟩
  | quantifier kind collection predicate =>
    obtain ⟨_, _, further⟩ := bind_eq_ok.mp found
    split at further
    · obtain ⟨_, _, made⟩ := bind_eq_ok.mp further
      exact ⟨_, (Except.ok.inj made).symm⟩
    · exact ⟨_, (Except.ok.inj further).symm⟩
  | presence operand expected =>
    obtain ⟨_, _, made⟩ := bind_eq_ok.mp found
    exact ⟨_, (Except.ok.inj made).symm⟩
  | isType operand type =>
    obtain ⟨read, _, made⟩ := bind_eq_ok.mp found
    cases read <;> exact ⟨_, (Except.ok.inj made).symm⟩
  | pattern operand source =>
    rw [value?] at found
    split at found
    · cases found
    · obtain ⟨_, _, made⟩ := bind_eq_ok.mp found
      split at made <;> exact ⟨_, (Except.ok.inj made).symm⟩

theorem evaluate_of_isTest (test : expression.isTest)
    (evaluates : expression.evaluate scope = .ok value) : ∃ held, value = .bool held := by
  obtain ⟨read, found, made⟩ := bind_eq_ok.mp evaluates
  obtain ⟨held, rfl⟩ := value?_of_isTest test found
  exact ⟨held, (Except.ok.inj made).symm⟩

/-- A constant that is computed from no numbers is a test, unless it is a literal or a list. -/
theorem isTest_of_isConstant (written : expression.isWritten) (constant : expression.isConstant) :
    expression.isTest ∨ expression.isLiteral ∨ ∃ items, expression = .list items := by
  cases expression with
  | field | item => cases constant
  | literal => exact Or.inr (Or.inl rfl)
  | list items => exact Or.inr (Or.inr ⟨items, rfl⟩)
  | size collection =>
    have fixed : collection.isConstant = true := constant
    simp [isWritten, fixed] at written
  | binary op =>
    cases op with
    | arithmetic => cases written
    | _ => exact Or.inl rfl
  | unary op =>
    cases op with
    | neg => cases written
    | not => exact Or.inl rfl
  | _ => exact Or.inl rfl

mutual

/-- The value of a portable constant can be written in a request. -/
theorem isFinite_of_evaluate (expression : Expression) {value : Value}
    (portable : expression.isPortable naming) (written : expression.isWritten)
    (constant : expression.isConstant) (evaluates : expression.evaluate .constant = .ok value) :
    value.isFinite := by
  match expression with
  | .literal own =>
    cases evaluates
    exact portable
  | .list items =>
    obtain ⟨read, found, made⟩ := bind_eq_ok.mp evaluates
    obtain ⟨values, each, whole⟩ := bind_eq_ok.mp found
    cases whole
    cases made
    exact areFinite_of_values items portable written constant each
  | .field _ _ | .item | .binary _ _ _ | .unary _ _ | .isIn _ _ _ | .contains _ _
  | .quantifier _ _ _ | .presence _ _ | .isType _ _ | .size _ | .pattern _ _ =>
    obtain test | literal | ⟨items, list⟩ := isTest_of_isConstant written constant
    · obtain ⟨held, rfl⟩ := evaluate_of_isTest test evaluates
      rfl
    · cases literal
    · cases list
termination_by structural expression

theorem areFinite_of_values (items : List Expression) {found : List Value}
    (portable : arePortable naming items) (written : areWritten items)
    (constant : areConstant items) (evaluates : values items .constant = .ok found) :
    Value.areFinite found := by
  match items with
  | [] =>
    cases evaluates
    rfl
  | first :: rest =>
    simp only [arePortable, areWritten, areConstant, Bool.and_eq_true] at portable written constant
    obtain ⟨read, ofFirst, further⟩ := bind_eq_ok.mp evaluates
    obtain ⟨others, ofRest, made⟩ := bind_eq_ok.mp further
    cases made
    have own : first.evaluate .constant = .ok (read.getD .null) := by
      rw [evaluate, ofFirst]
      rfl
    rw [Value.areFinite, isFinite_of_evaluate first portable.1 written.1 constant.1 own,
      areFinite_of_values rest portable.2 written.2 constant.2 ofRest]
    rfl
termination_by structural items

end

/-- Only an integer is folded to an integer. -/
theorem eq_of_fold_int {count : Int64} (written : expression.isWritten)
    (folds : expression.fold = .ok (.literal (.int count))) :
    expression = .literal (.int count) := by
  by_cases constant : expression.isConstant
  · obtain ⟨value, evaluates, same⟩ := fold_of_isConstant constant folds
    cases same
    obtain test | literal | ⟨items, rfl⟩ := isTest_of_isConstant written constant
    · obtain ⟨_, made⟩ := evaluate_of_isTest test evaluates
      cases made
    · cases expression with
      | literal own =>
        cases evaluates
        rfl
      | _ => cases literal
    · obtain ⟨_, found, made⟩ := bind_eq_ok.mp evaluates
      obtain ⟨_, _, whole⟩ := bind_eq_ok.mp found
      cases whole
      cases made
  · cases foldedParts_of_fold constant folds

theorem exists_size_of_fold {collection : Expression} (folds : expression.fold = .ok (.size collection)) :
    ∃ other, expression = .size other := by
  by_cases constant : expression.isConstant
  · obtain ⟨_, _, same⟩ := fold_of_isConstant constant folds
    cases same
  · cases foldedParts_of_fold constant folds with
    | size => exact ⟨_, rfl⟩

theorem eq_item_of_fold (folds : expression.fold = .ok .item) : expression = .item := by
  by_cases constant : expression.isConstant
  · obtain ⟨_, _, same⟩ := fold_of_isConstant constant folds
    cases same
  · cases foldedParts_of_fold constant folds
    rfl

theorem sidesPortable_fold {op : BinaryOp} {left right first second : Expression}
    (sides : sidesPortable op left right) (ofLeft : left.fold = .ok first)
    (ofRight : right.fold = .ok second) (leftWritten : left.isWritten) (rightWritten : right.isWritten) :
    sidesPortable op first second := by
  unfold sidesPortable
  split
  · exact sides
  · obtain ⟨_, rfl⟩ := exists_size_of_fold ofLeft
    cases eq_of_fold_int rightWritten ofRight
    exact sides
  · obtain ⟨_, rfl⟩ := exists_size_of_fold ofRight
    cases eq_of_fold_int leftWritten ofLeft
    exact sides
  · rfl

theorem isPortable_presence {expected : Bool} :
    (Expression.presence expression expected).isPortable naming ↔
      expression ≠ .item ∧ expression.isPortable naming := by
  cases expression <;> simp [isPortable]

mutual

/-- A portable predicate without computed numbers stays portable when its constants are folded. -/
theorem isPortable_fold (expression : Expression) {folded : Expression}
    (portable : expression.isPortable naming) (written : expression.isWritten)
    (folds : expression.fold = .ok folded) : folded.isPortable naming := by
  by_cases constant : expression.isConstant
  · obtain ⟨value, evaluates, rfl⟩ := fold_of_isConstant constant folds
    exact isFinite_of_evaluate expression portable written constant evaluates
  match expression, foldedParts_of_fold constant folds with
  | .field _ _, .field _ _ | .item, .item => exact portable
  | .list items, .list parts => exact arePortable_foldItems items portable written parts
  | .binary op left right, .binary _ ofLeft ofRight =>
    have both : left.isWritten ∧ right.isWritten := by
      cases op <;> simp_all [isWritten]
    simp only [isPortable, Bool.and_eq_true] at portable ⊢
    exact ⟨⟨sidesPortable_fold portable.1.1 ofLeft ofRight both.1 both.2,
      isPortable_fold left portable.1.2 both.1 ofLeft⟩,
      isPortable_fold right portable.2 both.2 ofRight⟩
  | .isIn left right _, .isIn _ ofLeft ofRight | .contains left right, .contains ofLeft ofRight
  | .quantifier _ left right, .quantifier _ ofLeft ofRight =>
    simp only [isPortable, isWritten, Bool.and_eq_true] at portable written ⊢
    exact ⟨isPortable_fold left portable.1 written.1 ofLeft,
      isPortable_fold right portable.2 written.2 ofRight⟩
  | .unary op operand, .unary _ part =>
    have own : operand.isWritten := by cases op <;> simp_all [isWritten]
    have inner := isPortable_fold operand portable own part
    exact inner
  | .presence operand _, .presence _ part =>
    obtain ⟨apart, own⟩ := isPortable_presence.mp portable
    exact isPortable_presence.mpr
      ⟨fun same => apart (eq_item_of_fold (same ▸ part)), isPortable_fold operand own written part⟩
  | .isType operand _, .isType _ part =>
    have inner := isPortable_fold operand portable written part
    exact inner
  | .size operand, .size part =>
    simp only [isWritten, Bool.and_eq_true] at written
    have inner := isPortable_fold operand portable written.2 part
    exact inner
  | .pattern operand _, .pattern _ part =>
    simp only [isPortable, Bool.and_eq_true] at portable ⊢
    exact ⟨portable.1, isPortable_fold operand portable.2 written part⟩
termination_by structural expression

theorem arePortable_foldItems (items : List Expression) {folded : List Expression}
    (portable : arePortable naming items) (written : areWritten items)
    (folds : foldItems items = .ok folded) : arePortable naming folded := by
  match items with
  | [] =>
    cases folds
    rfl
  | first :: rest =>
    simp only [arePortable, areWritten, Bool.and_eq_true] at portable written
    obtain ⟨part, ofFirst, further⟩ := bind_eq_ok.mp folds
    obtain ⟨others, ofRest, made⟩ := bind_eq_ok.mp further
    cases made
    rw [arePortable, isPortable_fold first portable.1 written.1 ofFirst,
      arePortable_foldItems rest portable.2 written.2 ofRest]
    rfl
termination_by structural items

end

end DocQuery.Expression
