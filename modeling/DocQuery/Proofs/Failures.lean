import DocQuery.Expression.Folding
import DocQuery.Plan.Basic
import DocQuery.Proofs.Outcomes

/-! The ways in which a computation can fail. A sequence fails in the ways of its parts, so every function
has one lemma that names its own failures, and those that call it cite that lemma. Here are the rules, and
the failures of evaluating and folding expressions. -/

namespace DocQuery

section Rules

variable {ε α β : Type} {allowed : ε → Prop} {outcome : Except ε α}

/-- Whether a computation fails in the allowed ways only. -/
def FailsOnly (allowed : ε → Prop) (outcome : Except ε α) : Prop :=
  ∀ failure, outcome = .error failure → allowed failure

@[simp] theorem failsOnly_ok (value : α) : FailsOnly allowed (.ok value : Except ε α) := nofun

@[simp] theorem failsOnly_error (failure : ε) :
    FailsOnly allowed (.error failure : Except ε α) ↔ allowed failure := by
  simp [FailsOnly]

@[simp] theorem failsOnly_bind (outcome : Except ε α) (next : α → Except ε β) :
    FailsOnly allowed (outcome >>= next) ↔
      FailsOnly allowed outcome ∧ ∀ value, outcome = .ok value → FailsOnly allowed (next value) := by
  cases outcome <;> simp

@[simp] theorem failsOnly_map (change : α → β) (outcome : Except ε α) :
    FailsOnly allowed (outcome.map change) ↔ FailsOnly allowed outcome := by
  cases outcome <;> simp

namespace FailsOnly

theorem mono {other : ε → Prop} (fails : FailsOnly allowed outcome)
    (weaker : ∀ failure, allowed failure → other failure) : FailsOnly other outcome :=
  fun failure failed => weaker failure (fails failure failed)

theorem bind {next : α → Except ε β} (first : FailsOnly allowed outcome)
    (further : ∀ value, outcome = .ok value → FailsOnly allowed (next value)) :
    FailsOnly allowed (outcome >>= next) :=
  (failsOnly_bind outcome next).mpr ⟨first, further⟩

theorem mapM {change : α → Except ε β} {items : List α}
    (each : ∀ item ∈ items, FailsOnly allowed (change item)) : FailsOnly allowed (items.mapM change) := by
  induction items with
  | nil => exact failsOnly_ok []
  | cons item rest ih =>
    obtain ⟨own, others⟩ := List.forall_mem_cons.mp each
    simp [own, ih others]

theorem forM {test : α → Except ε Unit} {items : List α}
    (each : ∀ item ∈ items, FailsOnly allowed (test item)) : FailsOnly allowed (items.forM test) := by
  induction items with
  | nil => exact failsOnly_ok ()
  | cons item rest ih =>
    obtain ⟨own, others⟩ := List.forall_mem_cons.mp each
    exact own.bind fun _ _ => ih others

theorem foldlM {advance : β → α → Except ε β} {items : List α}
    (each : ∀ state, ∀ item ∈ items, FailsOnly allowed (advance state item)) (state : β) :
    FailsOnly allowed (items.foldlM advance state) := by
  induction items generalizing state with
  | nil => exact failsOnly_ok state
  | cons item rest ih =>
    refine (each state item List.mem_cons_self).bind fun next _ => ih (fun state other among => ?_) next
    exact each state other (List.mem_cons_of_mem item among)

end FailsOnly
end Rules

section Search

variable {α : Type} {allowed : Error → Prop} {test : α → Except Error Bool} {items : List α}

theorem FailsOnly.anyItem (each : ∀ item ∈ items, FailsOnly allowed (test item)) :
    FailsOnly allowed (anyItem test items) := by
  induction items with
  | nil => exact failsOnly_ok false
  | cons item rest ih =>
    obtain ⟨own, others⟩ := List.forall_mem_cons.mp each
    refine own.bind fun held _ => ?_
    cases held with
    | true => exact failsOnly_ok true
    | false => exact ih others

theorem FailsOnly.everyItem (each : ∀ item ∈ items, FailsOnly allowed (test item)) :
    FailsOnly allowed (everyItem test items) := by
  induction items with
  | nil => exact failsOnly_ok true
  | cons item rest ih =>
    obtain ⟨own, others⟩ := List.forall_mem_cons.mp each
    refine own.bind fun held _ => ?_
    cases held with
    | true => exact ih others
    | false => exact failsOnly_ok false

theorem FailsOnly.decide (kind : QuantifierKind)
    (each : ∀ item ∈ items, FailsOnly allowed (test item)) : FailsOnly allowed (kind.decide test items) := by
  cases kind with
  | any => exact .anyItem each
  | all =>
    cases items with
    | nil => exact failsOnly_ok false
    | cons item rest => exact .everyItem each

theorem FailsOnly.keepItems (each : ∀ item ∈ items, FailsOnly allowed (test item)) :
    FailsOnly allowed (keepItems test items) := by
  induction items with
  | nil => exact failsOnly_ok []
  | cons item rest ih =>
    obtain ⟨own, others⟩ := List.forall_mem_cons.mp each
    refine own.bind fun held _ => ?_
    cases held with
    | true => simpa using ih others
    | false => exact ih others

end Search

/-- The failures of evaluating an expression. -/
inductive Error.OfEvaluation : Error → Prop where
  | arithmetic (fault : ArithmeticError) : OfEvaluation (.query (.arithmetic fault))
  | fieldInConstant (path : FieldPath) : OfEvaluation (.query (.fieldInConstant path))
  | elementOutsideQuantifier : OfEvaluation (.query .elementOutsideQuantifier)
  | invalidPattern : OfEvaluation (.query .invalidPattern)

attribute [simp] Error.OfEvaluation.arithmetic Error.OfEvaluation.fieldInConstant
  Error.OfEvaluation.elementOutsideQuantifier Error.OfEvaluation.invalidPattern

theorem Value.ofArithmetic_fails (result : Except ArithmeticError Value) :
    FailsOnly Error.OfEvaluation (ofArithmetic result) := by
  cases result with
  | ok value => exact failsOnly_ok value
  | error fault => exact (failsOnly_error _).mpr (.arithmetic fault)

theorem Scope.lookup?_fails (scope : Scope) (path : FieldPath) :
    FailsOnly Error.OfEvaluation (scope.lookup? path) := by
  rw [lookup?]
  split <;> simp

namespace Expression

mutual

theorem value?_fails (expression : Expression) (scope : Scope) :
    FailsOnly Error.OfEvaluation (expression.value? scope) := by
  match expression with
  | .field path _ => exact scope.lookup?_fails path
  | .item =>
    simp only [value?]
    split <;> simp
  | .literal value => exact failsOnly_ok (some value)
  | .list items => simp [value?, values_fail items scope]
  | .binary op left right =>
    have left := value?_fails left scope
    have right := value?_fails right scope
    cases op with
    | connective op =>
      refine left.bind fun first _ => ?_
      dsimp only
      split <;> simp [right]
    | comparison op =>
      refine left.bind fun first _ => right.bind fun second _ => ?_
      split <;> simp
    | arithmetic op =>
      -- Comparisons and connectives are dealt with above, so values are operated on by arithmetic only.
      refine left.bind fun first _ => right.bind fun second _ => ?_
      split <;> simp [Value.ofArithmetic_fails]
  | .unary op operand =>
    have inner := value?_fails operand scope
    cases op <;> simp [value?, inner, Value.ofArithmetic_fails]
  | .isIn operand set _ =>
    refine (value?_fails operand scope).bind fun member _ => ?_
    cases member <;> simp [value?_fails set scope]
  | .contains collection required =>
    refine (value?_fails collection scope).bind fun held _ => ?_
    refine (value?_fails required scope).bind fun needles _ => ?_
    dsimp only
    split <;> simp
  | .quantifier kind collection predicate =>
    refine (value?_fails collection scope).bind fun held _ => ?_
    split
    · -- The predicate is evaluated with the element in place of the document.
      refine FailsOnly.bind (.decide kind fun element _ => ?_) fun held _ => failsOnly_ok _
      simp [value?_fails predicate (scope.ofElement element)]
    · simp
  | .presence operand _ => simp [value?, value?_fails operand scope]
  | .isType operand _ | .size operand =>
    refine (value?_fails operand scope).bind fun found _ => ?_
    split <;> simp
  | .pattern operand source =>
    simp only [value?]
    split
    · simp
    · refine (value?_fails operand scope).bind fun found _ => ?_
      split <;> simp
termination_by structural expression

theorem values_fail (items : List Expression) (scope : Scope) :
    FailsOnly Error.OfEvaluation (values items scope) := by
  match items with
  | [] => exact failsOnly_ok []
  | first :: rest => simp [values, value?_fails first scope, values_fail rest scope]
termination_by structural items

end

theorem evaluate_fails (expression : Expression) (scope : Scope) :
    FailsOnly Error.OfEvaluation (expression.evaluate scope) := by
  simp [evaluate, value?_fails expression scope]

theorem holds_fails (predicate : Expression) (naming : FieldNaming) (document : Value) :
    FailsOnly Error.OfEvaluation (predicate.holds naming document) := by
  simp [holds, evaluate_fails]

mutual

theorem fold_fails (expression : Expression) : FailsOnly Error.OfEvaluation expression.fold := by
  rw [fold.eq_def]
  split
  · simp [constantLiteral, evaluate_fails]
  match expression with
  | .field .. | .item | .literal _ => simp
  | .list items => simp [foldItems_fails items]
  | .binary _ left right | .isIn left right _ | .contains left right | .quantifier _ left right =>
    simp [fold_fails left, fold_fails right]
  | .unary _ operand | .presence operand _ | .isType operand _ | .size operand | .pattern operand _ =>
    simp [fold_fails operand]
termination_by structural expression

theorem foldItems_fails (items : List Expression) : FailsOnly Error.OfEvaluation (foldItems items) := by
  match items with
  | [] => exact failsOnly_ok []
  | first :: rest => simp [foldItems, fold_fails first, foldItems_fails rest]
termination_by structural items

end

end Expression
end DocQuery
