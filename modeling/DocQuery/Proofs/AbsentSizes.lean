import DocQuery.Proofs.FoldedValues
import DocQuery.Proofs.PredicateTests
import Mathlib.Data.List.Basic

/-! Sizes of what is no list. Such a size is absent, and so is arithmetic on it: no comparison with it holds.
Folding evaluates it to null, which is a value and comes before all others, so that a comparison of a field
with it can come to hold. It keeps its answer in a document exactly if the field does not compare with null
in this way. -/

namespace DocQuery.Expression

/-- The collections whose sizes arithmetic is made of, or an expression that is itself a size. -/
def sizedCollections : Expression → List Expression
  | .size collection => [collection]
  | .binary (.arithmetic _) left right => left.sizedCollections ++ right.sizedCollections
  | _ => []

/-- A comparison, written from either side. -/
def comparisons (op : Comparison) (left right : Expression) : List Expression :=
  [.binary (.comparison op) left right, .binary (.comparison op.flipped) right left]

section Presence

variable {scope : Scope} {collection left right : Expression}

theorem isSome_size {read : Option Value} (found : (Expression.size collection).value? scope = .ok read) :
    read.isSome ↔ ∃ items, collection.evaluate scope = .ok (.list items) := by
  cases held : collection.value? scope with
  | error failure => simp [value?, held] at found
  | ok own =>
    rw [value?_size held] at found
    cases found
    rw [evaluate, held]
    rcases own with _ | value
    · simp
    · cases value <;> simp [Value.asList?]

theorem isSome_arithmetic {op : ArithmeticOp} {read : Option Value}
    (found : (Expression.binary (.arithmetic op) left right).value? scope = .ok read) :
    ∃ first second, left.value? scope = .ok first ∧ right.value? scope = .ok second ∧
      (read.isSome ↔ first.isSome ∧ second.isSome) := by
  obtain ⟨first, ofLeft, further⟩ := bind_eq_ok.mp found
  obtain ⟨second, ofRight, made⟩ := bind_eq_ok.mp further
  refine ⟨first, second, ofLeft, ofRight, ?_⟩
  rcases first with _ | a
  · cases made
    simp
  · rcases second with _ | b
    · cases made
      simp
    · obtain ⟨result, _, whole⟩ := bind_eq_ok.mp made
      cases whole
      simp

end Presence

/-- A constant that has a value is absent only where arithmetic meets the size of what is no list. -/
theorem isSome_value?_iff (expression : Expression) (constant : expression.isConstant) {read : Option Value}
    (found : expression.value? .constant = .ok read) :
    read.isSome ↔ ∀ collection ∈ expression.sizedCollections,
      ∃ items, collection.evaluate .constant = .ok (.list items) := by
  match expression with
  | .size collection =>
    rw [isSome_size found, sizedCollections, List.forall_mem_singleton]
  | .binary (.arithmetic op) left right =>
    obtain ⟨ofLeft, ofRight⟩ := Bool.and_eq_true_iff.mp constant
    obtain ⟨first, second, leftFound, rightFound, both⟩ := isSome_arithmetic found
    rw [both, isSome_value?_iff left ofLeft leftFound, isSome_value?_iff right ofRight rightFound]
    rw [sizedCollections, List.forall_mem_append]
  | .field _ _ => cases constant
  | .item | .literal _ | .list _ | .binary (.connective _) _ _ | .binary (.comparison _) _ _
  | .unary _ _ | .isIn _ _ _ | .contains _ _ | .quantifier _ _ _ | .presence _ _ | .isType _ _
  | .pattern _ _ =>
    have present : read.isSome := by
      rcases read with _ | value
      · exact absurd found (value?_ne_none rfl .constant)
      · rfl
    exact iff_of_true present (List.forall_mem_nil _)
termination_by structural expression

theorem test_comparisons (op : Comparison) {left right : Expression} {scope : Scope}
    {first second : Option Value} (found : left.value? scope = .ok first)
    (against : right.value? scope = .ok second) :
    ∀ comparison ∈ comparisons op left right, comparison.test scope =
      .ok (first.any fun a => second.any fun b => op.holds (a.collate b)) := by
  intro comparison among
  obtain rfl | rfl := List.mem_pair.mp among
  · exact test_comparison op found against
  · rw [test_comparison op.flipped against found]
    rcases first with _ | a <;> rcases second with _ | b <;>
      simp [Comparison.holds_flipped, Value.collate_swap]

theorem test_comparisons_fails (op : Comparison) {left right : Expression} {scope : Scope}
    {first : Option Value} {failure : Error} (found : left.value? scope = .ok first)
    (fails : right.value? scope = .error failure) :
    ∀ comparison ∈ comparisons op left right, comparison.test scope = .error failure := by
  intro comparison among
  obtain rfl | rfl := List.mem_pair.mp among <;> simp [test, evaluate, value?, found, fails]

theorem evaluate_eq (expression : Expression) (scope : Scope) :
    expression.evaluate scope = (expression.value? scope).map (·.getD .null) := by
  rw [evaluate]
  cases expression.value? scope <;> rfl

/-- Folding a comparison of a field folds what the field is compared with. -/
theorem fold_comparisons (op : Comparison) (path : FieldPath) (kind : FieldKind) (operand : Expression) :
    ∀ comparison ∈ comparisons op (.field path kind) operand, ∃ rebuild : Expression → Expression,
      comparison.fold = operand.fold.map rebuild ∧
        ∀ folded, rebuild folded ∈ comparisons op (.field path kind) folded := by
  intro comparison among
  have kept : (Expression.field path kind).fold = .ok (.field path kind) := rfl
  obtain rfl | rfl := List.mem_pair.mp among
  · refine ⟨fun folded => .binary (.comparison op) (.field path kind) folded, ?_,
      fun _ => by simp [comparisons]⟩
    rw [fold, if_neg (by simp [isConstant]), kept]
    cases operand.fold <;> rfl
  · refine ⟨fun folded => .binary (.comparison op.flipped) folded (.field path kind), ?_,
      fun _ => by simp [comparisons]⟩
    rw [fold, if_neg (by simp [isConstant]), kept]
    cases operand.fold <;> rfl

theorem value?_field (naming : FieldNaming) (document : Value) (path : FieldPath) (kind : FieldKind) :
    (Expression.field path kind).value? (.ofDocument naming document) =
      .ok (document.lookup? (naming.wireSegments path)) := rfl

/-- A comparison with a constant that has a value keeps its answer in a document exactly if the sizes in the
constant are sizes of lists or the field does not compare with null in this way. -/
theorem holds_fold_of_isConstant (op : Comparison) (path : FieldPath) (kind : FieldKind)
    {sized : Expression} (constant : sized.isConstant) :
    ∀ comparison ∈ comparisons op (.field path kind) sized,
      (∀ failure, sized.evaluate .constant = .error failure → comparison.fold = .error failure ∧
        ∀ naming document, comparison.holds naming document = .error failure) ∧
      ∀ value, sized.evaluate .constant = .ok value → ∃ folded, comparison.fold = .ok folded ∧
        ∀ naming document, ∃ before after : Bool,
          comparison.holds naming document = .ok before ∧ folded.holds naming document = .ok after ∧
          (after = before ↔
            (∀ collection ∈ sized.sizedCollections,
              ∃ items, collection.evaluate .constant = .ok (.list items)) ∨
            ∀ found, document.lookup? (naming.wireSegments path) = some found →
              op.holds (found.collate .null) = false) := by
  intro comparison among
  obtain ⟨rebuild, folds, rebuilt⟩ := fold_comparisons op path kind sized comparison among
  have ofSized : ∀ naming document, sized.value? (.ofDocument naming document) = sized.value? .constant :=
    fun _ _ => value?_of_isConstant constant _ _
  have ofFold : sized.fold = (sized.evaluate .constant).map .literal := by
    rw [fold.eq_def, if_pos constant, constantLiteral]
    cases sized.evaluate .constant <;> rfl
  rw [ofFold, evaluate_eq] at folds
  rw [evaluate_eq]
  cases own : sized.value? .constant with
  | error failure =>
    rw [own] at folds
    constructor
    · intro other same
      cases same
      refine ⟨folds, fun naming document => ?_⟩
      exact test_comparisons_fails op (value?_field naming document path kind)
        ((ofSized naming document).trans own) comparison among
    · intro value other
      cases other
  | ok read =>
    rw [own] at folds
    constructor
    · intro failure other
      cases other
    · intro value same
      refine ⟨_, folds, fun naming document => ?_⟩
      have before := test_comparisons op (value?_field naming document path kind)
        ((ofSized naming document).trans own) comparison among
      have ofLiteral : (Expression.literal (read.getD .null)).value? (.ofDocument naming document) =
          .ok (some (read.getD .null)) := rfl
      have after := test_comparisons op (value?_field naming document path kind) ofLiteral _ (rebuilt _)
      refine ⟨_, _, before, after, ?_⟩
      rw [← isSome_value?_iff sized constant own]
      cases read with
      | some own => simp
      | none => cases document.lookup? (naming.wireSegments path) <;> simp

/-- A comparison with arithmetic of any kind keeps its answer in every document, or fails as before, if the
sizes that it asks of constants are sizes of lists. -/
theorem holds_fold_of_sizesLists (op : Comparison) (path : FieldPath) (kind : FieldKind)
    {operand : Expression} (sizes : operand.SizesLists) :
    ∀ comparison ∈ comparisons op (.field path kind) operand, ∀ folded, comparison.fold = .ok folded →
      ∀ naming document, folded.holds naming document = comparison.holds naming document := by
  intro comparison among folded folds naming document
  obtain ⟨rebuild, parts, rebuilt⟩ := fold_comparisons op path kind operand comparison among
  rw [parts] at folds
  obtain ⟨part, ofOperand, rfl⟩ := map_eq_ok.mp folds
  have ofField := value?_field naming document path kind
  have same := value?_fold operand sizes ofOperand (.ofDocument naming document)
  cases own : operand.value? (.ofDocument naming document) with
  | error failure =>
    have before := test_comparisons_fails op ofField own comparison among
    have after := test_comparisons_fails op ofField (same.trans own) _ (rebuilt part)
    exact after.trans before.symm
  | ok read =>
    have before := test_comparisons op ofField own comparison among
    have after := test_comparisons op ofField (same.trans own) _ (rebuilt part)
    exact after.trans before.symm

/-- A comparison of a field with a constant, itself the size of something or arithmetic on such sizes, fails
before folding and in folding alike if the constant has no value. If it has one, folding keeps the answer in
a document exactly if all the sizes are sizes of lists or the field does not compare with null in this way.
Where fields take part in the arithmetic, sizes of lists are still enough. -/
theorem holds_fold_sized (op : Comparison) (path : FieldPath) (kind : FieldKind) (sized : Expression) :
    ∀ comparison ∈ comparisons op (.field path kind) sized,
      (sized.isConstant →
        (∀ failure, sized.evaluate .constant = .error failure → comparison.fold = .error failure ∧
          ∀ naming document, comparison.holds naming document = .error failure) ∧
        ∀ value, sized.evaluate .constant = .ok value → ∃ folded, comparison.fold = .ok folded ∧
          ∀ naming document, ∃ before after : Bool,
            comparison.holds naming document = .ok before ∧ folded.holds naming document = .ok after ∧
            (after = before ↔
              (∀ collection ∈ sized.sizedCollections,
                ∃ items, collection.evaluate .constant = .ok (.list items)) ∨
              ∀ found, document.lookup? (naming.wireSegments path) = some found →
                op.holds (found.collate .null) = false)) ∧
      (sized.SizesLists → ∀ folded, comparison.fold = .ok folded →
        ∀ naming document, folded.holds naming document = comparison.holds naming document) := by
  intro comparison among
  constructor
  · intro constant
    exact holds_fold_of_isConstant op path kind constant comparison among
  · intro sizes
    exact holds_fold_of_sizesLists op path kind sizes comparison among

/-- The size of a list and one more, a constant and then again with the rank in place of the number. -/
theorem holds_fold_sized_listed :
    let naming := FieldNaming.ofCase .unchanged
    let age : Expression := .field ⟨["age"]⟩ .value
    let size : Expression := .size (.list [.literal (.string "a"), .literal (.string "b")])
    let sized (more : Expression) : Expression := .binary (.arithmetic .add) size more
    let exceeds (bound : Expression) : Expression := .binary (.comparison .gt) age bound
    let one : Expression := .literal (.int 1)
    let rank : Expression := .field ⟨["rank"]⟩ .value
    (sized one).isConstant ∧ (sized rank).SizesLists ∧
      (exceeds (sized one)).fold = .ok (exceeds (.literal (.int 3))) ∧
      (exceeds (sized rank)).fold =
        .ok (exceeds (.binary (.arithmetic .add) (.literal (.int 2)) rank)) ∧
      (∀ document, ∃ answer : Bool, (exceeds (sized one)).holds naming document = .ok answer ∧
        (exceeds (.literal (.int 3))).holds naming document = .ok answer) ∧
      ∀ document,
        (exceeds (.binary (.arithmetic .add) (.literal (.int 2)) rank)).holds naming document =
          (exceeds (sized rank)).holds naming document := by
  intro naming age size sized exceeds one rank
  have among : ∀ bound, exceeds bound ∈ comparisons .gt age bound := fun _ => List.mem_cons_self
  have sizes : (sized rank).SizesLists := by
    intro collection inside _ value evaluates
    have part : Expression.size collection ∈ [sized rank, size, rank,
        .list [.literal (.string "a"), .literal (.string "b")], .literal (.string "a"),
        .literal (.string "b")] := by
      refine inside.mem_of_closed List.mem_cons_self ?_
      simp [children, sized, size, rank]
    obtain rfl : collection = .list [.literal (.string "a"), .literal (.string "b")] := by
      simpa [sized, size, rank] using part
    cases evaluates
    exact ⟨_, rfl⟩
  refine ⟨rfl, sizes, rfl, rfl, fun document => ?_, fun document => ?_⟩
  · obtain ⟨ofConstant, _⟩ := holds_fold_sized .gt ⟨["age"]⟩ .value (sized one) _ (among _)
    obtain ⟨_, folds, same⟩ := (ofConstant rfl).2 (.int 3) rfl
    cases folds.symm.trans (rfl : (exceeds (sized one)).fold = .ok (exceeds (.literal (.int 3))))
    obtain ⟨before, after, ofExceeds, ofFolded, agree⟩ := same naming document
    have lists : ∀ collection ∈ (sized one).sizedCollections,
        ∃ items, collection.evaluate .constant = .ok (.list items) := by
      intro collection inside
      obtain rfl := List.mem_singleton.mp inside
      exact ⟨_, rfl⟩
    obtain rfl := agree.mpr (Or.inl lists)
    exact ⟨after, ofExceeds, ofFolded⟩
  · obtain ⟨_, ofSizes⟩ := holds_fold_sized .gt ⟨["age"]⟩ .value (sized rank) _ (among _)
    exact ofSizes sizes _ rfl naming document

/-- The size of a text: no age exceeds it, but every age exceeds null. -/
theorem holds_fold_sized_text :
    let naming := FieldNaming.ofCase .unchanged
    let age : Expression := .field ⟨["age"]⟩ .value
    let exceeds : Expression := .binary (.comparison .gt) age (.size (.literal (.string "text")))
    let folded : Expression := .binary (.comparison .gt) age (.literal .null)
    let document : Value := .map [("age", .int 5)]
    exceeds.fold = .ok folded ∧ exceeds.holds naming document = .ok false ∧
      folded.holds naming document = .ok true :=
  ⟨rfl, rfl, rfl⟩

end DocQuery.Expression
