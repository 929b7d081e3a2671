import DocQuery.Expression.Evaluation
import DocQuery.Proofs.CollationOrder
import DocQuery.Proofs.PortablePredicates

/-! Whether a predicate holds, from the values of its operands. An operand that is absent makes every
test fail but those for presence, and no test fails to have an answer by itself. -/

namespace DocQuery

theorem Comparison.holds_flipped (op : Comparison) (ordering : Ordering) :
    op.flipped.holds ordering = op.holds ordering.swap := by
  cases op <;> cases ordering <;> rfl

/-- What a connective makes of two answers. -/
def Connective.join : Connective → Bool → Bool → Bool
  | .and, held, other => held && other
  | .or, held, other => held || other

theorem Value.collatesEqual_true (value : Value) :
    value.collatesEqual (.bool true) = value.isTrue := by
  cases value with
  | bool b => cases b <;> rfl
  | _ => rfl

namespace Expression

/-- Whether a predicate holds in a scope. -/
def test (predicate : Expression) (scope : Scope) : Except Error Bool := do
  return (← predicate.evaluate scope).isTrue

theorem isTrue_map_bool (answer : Except Error Bool) :
    (do return (← answer.map Value.bool).isTrue) = answer := by
  cases answer with
  | error failure => rfl
  | ok held => cases held <;> rfl

theorem test_of_value? {predicate : Expression} {scope : Scope} {held : Bool}
    (answers : predicate.value? scope = .ok (some (.bool held))) :
    predicate.test scope = .ok held := by
  simp [test, evaluate, answers, Value.isTrue]

theorem evaluate_not (predicate : Expression) (scope : Scope) :
    (Expression.unary .not predicate).evaluate scope =
      ((predicate.test scope).map (!·)).map Value.bool := by
  simp only [test, evaluate, value?]
  cases predicate.value? scope <;> rfl

theorem test_not (predicate : Expression) (scope : Scope) :
    (Expression.unary .not predicate).test scope = (predicate.test scope).map (!·) := by
  rw [test, evaluate_not]
  exact isTrue_map_bool _

theorem evaluate_connective (op : Connective) (left right : Expression) (scope : Scope) :
    (Expression.binary (.connective op) left right).evaluate scope =
      (left.test scope >>= fun held =>
        match op, held with
        | .and, false => .ok false
        | .or, true => .ok true
        | _, _ => right.test scope).map Value.bool := by
  simp only [test, evaluate, value?]
  cases left.value? scope with
  | error failure => rfl
  | ok first =>
    cases holds : (first.getD .null).isTrue <;> cases op <;>
      simp only [ok_bind, pure_eq_ok, holds] <;>
      first | rfl | (cases right.value? scope <;> rfl)

theorem test_connective (op : Connective) (left right : Expression) (scope : Scope) :
    (Expression.binary (.connective op) left right).test scope =
      left.test scope >>= fun held =>
        match op, held with
        | .and, false => .ok false
        | .or, true => .ok true
        | _, _ => right.test scope := by
  rw [test, evaluate_connective]
  exact isTrue_map_bool _

theorem test_connective_of_answers {op : Connective} {left right : Expression} {scope : Scope}
    {held other : Bool} (first : left.test scope = .ok held) (second : right.test scope = .ok other) :
    (Expression.binary (.connective op) left right).test scope = .ok (op.join held other) := by
  rw [test_connective, first, second]
  cases op <;> cases held <;> rfl

theorem test_comparison (op : Comparison) {left right : Expression} {scope : Scope}
    {first second : Option Value} (found : left.value? scope = .ok first)
    (against : right.value? scope = .ok second) :
    (Expression.binary (.comparison op) left right).test scope =
      .ok (first.any fun a => second.any fun b => op.holds (a.collate b)) := by
  apply test_of_value?
  simp only [value?, found, against, ok_bind]
  cases first <;> cases second <;> rfl

theorem test_flipped (op : Comparison) (left : Expression) (value : Value) (scope : Scope) :
    (Expression.binary (.comparison op) (.literal value) left).test scope =
      (Expression.binary (.comparison op.flipped) left (.literal value)).test scope := by
  cases found : left.value? scope with
  | error failure => simp [test, evaluate, value?, found]
  | ok held =>
    rw [test_comparison op rfl found, test_comparison op.flipped found rfl]
    cases held with
    | none => rfl
    | some other => simp [Comparison.holds_flipped, Value.collate_swap]

theorem value?_size {collection : Expression} {scope : Scope} {held : Option Value}
    (found : collection.value? scope = .ok held) :
    (Expression.size collection).value? scope =
      .ok ((held.bind Value.asList?).map fun items => .int (Int64.ofNat items.length)) := by
  simp only [value?, found, ok_bind]
  rcases held with _ | value
  · rfl
  · cases value <;> rfl

/-- The members of a set of literals do not depend on the scope. -/
theorem IsLiteralSet.candidates_eq {set : Expression} {values : List Value}
    (literals : IsLiteralSet set values) (scope : Scope) :
    ∃ value, set.value? scope = .ok (some value) ∧ value.candidates = values := by
  cases literals with
  | list _ => exact ⟨_, rfl, rfl⟩
  | @single value _ lone =>
    refine ⟨value, rfl, ?_⟩
    cases value with
    | list items => exact absurd rfl (lone items)
    | _ => rfl
  | items _ => exact ⟨.list values, by simp [value?, values_literals], rfl⟩

theorem test_contains {collection required : Expression} {scope : Scope} {held : Option Value}
    {values : List Value} (found : collection.value? scope = .ok held)
    (literals : IsLiteralSet required values) :
    (Expression.contains collection required).test scope =
      .ok ((held.bind Value.asList?).any fun items => Value.holdsAll items values) := by
  obtain ⟨set, read, members⟩ := literals.candidates_eq scope
  apply test_of_value?
  simp only [value?, found, read, ok_bind, Option.getD_some, members]
  rcases held with _ | value
  · rfl
  · cases value <;> rfl

theorem test_isIn {operand set : Expression} {scope : Scope} {held : Option Value}
    {values : List Value} (excluded : Bool) (found : operand.value? scope = .ok held)
    (literals : IsLiteralSet set values) :
    (Expression.isIn operand set excluded).test scope =
      .ok (held.any fun member => member.memberOf values != excluded) := by
  obtain ⟨listed, read, members⟩ := literals.candidates_eq scope
  apply test_of_value?
  simp only [value?, found, read, ok_bind]
  cases held with
  | none => rfl
  | some member => simp [members]

theorem test_pattern {operand : Expression} {source : String} {compiled : Pattern} {scope : Scope}
    {held : Option Value} (found : operand.value? scope = .ok held)
    (parsed : Pattern.parse? source = some compiled) :
    (Expression.pattern operand source).test scope =
      .ok ((held.bind Value.asString?).any compiled.occursIn) := by
  apply test_of_value?
  simp only [value?, parsed, found, ok_bind]
  rcases held with _ | value
  · rfl
  · cases value <;> rfl

theorem test_quantifier (kind : QuantifierKind) {collection : Expression} (predicate : Expression)
    {scope : Scope} {held : Option Value} (found : collection.value? scope = .ok held) :
    (Expression.quantifier kind collection predicate).test scope =
      match held.bind Value.asList? with
      | some items => kind.decide (fun element => predicate.test (scope.ofElement element)) items
      | none => .ok false := by
  simp only [test, evaluate, value?, found, ok_bind]
  rcases held with _ | value
  · rfl
  · cases value with
    | list items =>
      simp only [Option.getD_some, Option.bind_some, Value.asList?, bind_assoc, pure_eq_ok, ok_bind]
      exact bind_pure _
    | _ => rfl

end Expression
end DocQuery
