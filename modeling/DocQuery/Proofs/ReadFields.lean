import DocQuery.Expression.Normal
import DocQuery.Proofs.DocumentValues
import DocQuery.Proofs.FoldedExpressions

/-! The fields of a document that an expression reads. Its value depends on nothing else in the
document; folding its constants and bringing it to normal form make it read no other fields. -/

namespace DocQuery.Expression

mutual

/-- The fields that are read from the document itself. Those in the predicate of a quantifier are read
from the element. -/
def documentPaths : Expression → List FieldPath
  | .field path _ => [path]
  | .item | .literal _ => []
  | .list items => documentPathsOf items
  | .binary _ left right => left.documentPaths ++ right.documentPaths
  | .unary _ operand => operand.documentPaths
  | .isIn operand set _ => operand.documentPaths ++ set.documentPaths
  | .contains collection values => collection.documentPaths ++ values.documentPaths
  | .quantifier _ collection _ => collection.documentPaths
  | .presence operand _ => operand.documentPaths
  | .isType operand _ => operand.documentPaths
  | .size collection => collection.documentPaths
  | .pattern operand _ => operand.documentPaths
termination_by structural expression => expression

def documentPathsOf : List Expression → List FieldPath
  | [] => []
  | first :: rest => first.documentPaths ++ documentPathsOf rest
termination_by structural items => items

end

section Evaluation

variable {first second : Scope}

mutual

/-- Scopes that have the same in the fields that an expression reads give it the same value. -/
theorem value?_congr (expression : Expression) (names : first.naming = second.naming)
    (element : first.item = second.item)
    (same : ∀ path ∈ expression.documentPaths, first.lookup? path = second.lookup? path) :
    expression.value? first = expression.value? second := by
  match expression with
  | .field path _ => exact same path List.mem_cons_self
  | .item => simp only [value?, element]
  | .literal _ => rfl
  | .list items => simp only [value?, values_congr items names element same]
  | .binary op left right =>
    obtain ⟨ofLeft, ofRight⟩ := List.forall_mem_append.mp same
    have left := value?_congr left names element ofLeft
    have right := value?_congr right names element ofRight
    cases op <;> simp only [value?, left, right]
  | .unary op operand =>
    have inner := value?_congr operand names element same
    cases op <;> simp only [value?, inner]
  | .isIn operand set _ | .contains operand set =>
    obtain ⟨ofOperand, ofSet⟩ := List.forall_mem_append.mp same
    simp only [value?, value?_congr operand names element ofOperand,
      value?_congr set names element ofSet]
  | .quantifier _ collection _ =>
    have inside : ∀ part : Value, first.ofElement part = second.ofElement part := fun part => by
      simp only [Scope.ofElement, names]
    simp only [value?, value?_congr collection names element same, inside]
  | .presence operand _ | .isType operand _ | .size operand | .pattern operand _ =>
    simp only [value?, value?_congr operand names element same]
termination_by structural expression

theorem values_congr (items : List Expression) (names : first.naming = second.naming)
    (element : first.item = second.item)
    (same : ∀ path ∈ documentPathsOf items, first.lookup? path = second.lookup? path) :
    values items first = values items second := by
  match items with
  | [] => rfl
  | part :: rest =>
    obtain ⟨ofPart, ofRest⟩ := List.forall_mem_append.mp same
    simp only [values, value?_congr part names element ofPart, values_congr rest names element ofRest]
termination_by structural items

end

/-- Documents that have the same in the fields that a predicate reads are the same to it. -/
theorem holds_congr {predicate : Expression} {naming : FieldNaming} {document other : Value}
    (same : ∀ path ∈ predicate.documentPaths,
      document.lookup? (path.segments.map naming.resolveMember) =
        other.lookup? (path.segments.map naming.resolveMember)) :
    predicate.holds naming document = predicate.holds naming other := by
  have value : predicate.value? (.ofDocument naming document) =
      predicate.value? (.ofDocument naming other) :=
    value?_congr predicate rfl rfl fun path member => congrArg Except.ok (same path member)
  simp only [holds, evaluate, value]

end Evaluation

/-- A normal form reads the same fields. -/
theorem documentPaths_normalize (predicate : Expression) :
    predicate.normalize.documentPaths = predicate.documentPaths := by
  fun_induction normalize predicate <;> simp_all [documentPaths, equalsFlag]

/-- Documents that have the same in the fields of a filter are kept or left out together. -/
theorem holds_normalize_congr {predicate : Expression} {naming : FieldNaming} {document other : Json}
    (same : ∀ path ∈ predicate.documentPaths,
      document.lookup? (path.segments.map naming.resolveMember) =
        other.lookup? (path.segments.map naming.resolveMember)) :
    predicate.normalize.holds naming (.ofJson document) =
      predicate.normalize.holds naming (.ofJson other) := by
  apply holds_congr
  intro path reads
  rw [documentPaths_normalize] at reads
  rw [Value.lookup?_ofJson, Value.lookup?_ofJson]
  exact congrArg (Option.map Value.ofJson) (same path reads)

theorem append_subset_append {α : Type} {first second other another : List α}
    (left : first ⊆ other) (right : second ⊆ another) : first ++ second ⊆ other ++ another :=
  List.append_subset.mpr ⟨List.subset_append_of_subset_left another left,
    List.subset_append_of_subset_right other right⟩

mutual

/-- A folded expression reads no field that the expression does not read. -/
theorem documentPaths_fold (expression : Expression) {folded : Expression}
    (folds : expression.fold = .ok folded) : folded.documentPaths ⊆ expression.documentPaths := by
  by_cases constant : expression.isConstant
  · obtain ⟨value, _, rfl⟩ := fold_of_isConstant constant folds
    exact List.nil_subset _
  match expression, foldedParts_of_fold constant folds with
  | .field _ _, .field _ _ | .item, .item => exact List.Subset.refl _
  | .list items, .list parts => exact documentPathsOf_foldItems items parts
  | .binary _ left right, .binary _ ofLeft ofRight =>
    exact append_subset_append (documentPaths_fold left ofLeft) (documentPaths_fold right ofRight)
  | .isIn operand set _, .isIn _ ofOperand ofSet =>
    exact append_subset_append (documentPaths_fold operand ofOperand) (documentPaths_fold set ofSet)
  | .contains operand set, .contains ofOperand ofSet =>
    exact append_subset_append (documentPaths_fold operand ofOperand) (documentPaths_fold set ofSet)
  | .quantifier _ operand _, .quantifier _ part _ | .unary _ operand, .unary _ part
  | .presence operand _, .presence _ part | .isType operand _, .isType _ part
  | .pattern operand _, .pattern _ part | .size operand, .size part =>
    have inner := documentPaths_fold operand part
    exact inner
termination_by structural expression

theorem documentPathsOf_foldItems (items : List Expression) {folded : List Expression}
    (folds : foldItems items = .ok folded) : documentPathsOf folded ⊆ documentPathsOf items := by
  match items with
  | [] =>
    cases folds
    exact List.Subset.refl _
  | first :: rest =>
    obtain ⟨part, ofFirst, further⟩ := bind_eq_ok.mp folds
    obtain ⟨others, ofRest, made⟩ := bind_eq_ok.mp further
    cases made
    exact append_subset_append (documentPaths_fold first ofFirst)
      (documentPathsOf_foldItems rest ofRest)
termination_by structural items

end

end DocQuery.Expression
