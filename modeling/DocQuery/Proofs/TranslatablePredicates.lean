import DocQuery.Proofs.Outcomes
import DocQuery.Request.Selector

/-! The predicates that have a selector, by their forms. Negations, connectives and quantifiers have one if
their operands do, so whether a predicate has a selector is decided by the tests that it is built from. The
names that fields have on the wire do not matter. -/

namespace DocQuery

section Outcomes

variable {ε α β : Type}

def Succeeds (outcome : Except ε α) : Prop := ∃ value, outcome = .ok value

@[simp] theorem succeeds_ok (value : α) : Succeeds (.ok value : Except ε α) := ⟨value, rfl⟩

@[simp] theorem not_succeeds_error (failure : ε) : ¬Succeeds (.error failure : Except ε α) := nofun

/-- Whether the second part of a sequence succeeds does not depend on the result of the first. -/
theorem succeeds_bind {first : Except ε α} {next : α → Except ε β} {further : Prop}
    (same : ∀ value, first = .ok value → (Succeeds (next value) ↔ further)) :
    Succeeds (first >>= next) ↔ Succeeds first ∧ further := by
  cases first with
  | error failure => simp
  | ok value => simp [same value rfl]

theorem succeeds_bind_of {first : Except ε α} {next : α → Except ε β}
    (total : ∀ value, Succeeds (next value)) : Succeeds (first >>= next) ↔ Succeeds first :=
  (succeeds_bind fun value _ => iff_true_intro (total value)).trans (and_iff_left True.intro)

theorem succeeds_bind_ok {first : Except ε α} {next : α → β} :
    Succeeds (first >>= fun value => .ok (next value)) ↔ Succeeds first :=
  succeeds_bind_of fun value => succeeds_ok (next value)

end Outcomes

namespace Expression

/-- Whether a clause can be about an expression: a field, or the element inside a quantifier. -/
def isSubject (position : PredicateScope) : Expression → Bool
  | .field .. => true
  | .item => position == .element
  | _ => false

/-- Whether a clause can list the values of an expression. -/
def isLiteralList : Expression → Bool
  | .literal _ => true
  | .list items => items.all isLiteral
  | _ => false

/-- Whether an expression can be compared with a literal on its right. A remainder and a size can only be
compared with integers, and for equality. -/
def comparesWith (position : PredicateScope) (op : Comparison) (value : Value) : Expression → Bool
  | .binary (.arithmetic .mod) dividend divisor =>
    match divisor, value with
    | .literal (.int d), .int _ => op == .eq && d != 0 && dividend.isSubject position
    | _, _ => false
  | .size collection =>
    match value with
    | .int _ => op == .eq && collection.isSubject position
    | _ => false
  | left => left.isSubject position

/-- Whether a predicate has a selector. -/
def isTranslatable (position : PredicateScope) : Expression → Bool
  | .unary .not operand => operand.isTranslatable position
  | .binary (.connective _) left right =>
    left.isTranslatable position && right.isTranslatable position
  | .quantifier _ collection predicate =>
    collection.isSubject position && predicate.isTranslatable .element
  | .binary (.comparison op) left right =>
    match left, right with
    | left, .literal value => left.comparesWith position op value
    | .literal value, right => right.comparesWith position op.flipped value
    | _, _ => false
  | .isIn operand listed _ | .contains operand listed =>
    operand.isSubject position && listed.isLiteralList
  | .presence operand _ | .isType operand _ | .pattern operand _ => operand.isSubject position
  | .field _ kind => kind == .boolean
  | .item => position == .element
  | .literal (.bool _) => true
  | .literal _ | .list _ | .size _ | .binary (.arithmetic _) _ _ | .unary .neg _ => false

variable (naming : FieldNaming) (position : PredicateScope)

theorem succeeds_target (expression : Expression) :
    Succeeds (expression.target naming position) ↔ expression.isSubject position := by
  cases expression with
  | item => cases position <;> simp [target, isSubject]
  | _ => simp [target, isSubject]

theorem succeeds_literalList (set : Expression) :
    Succeeds set.literalList ↔ set.isLiteralList := by
  cases set with
  | list items =>
    change Succeeds (items.mapM literalItem) ↔ items.all isLiteral
    induction items with
    | nil => simp
    | cons first rest ih =>
      rw [List.mapM_cons, List.all_cons, Bool.and_eq_true, ← ih]
      cases first <;> simp [literalItem, isLiteral, succeeds_bind_ok]
  | literal value => cases value <;> simp [literalList, isLiteralList]
  | _ => simp [literalList, isLiteralList]

theorem comparesWith_of_other {op : Comparison} {left : Expression} {value : Value}
    (noRemainder : ∀ dividend divisor, left = .binary (.arithmetic .mod) dividend divisor → False)
    (noSize : ∀ collection, left = .size collection → False) :
    left.comparesWith position op value = left.isSubject position := by
  unfold comparesWith
  split
  · exact absurd rfl (noRemainder _ _)
  · exact absurd rfl (noSize _)
  · rfl

theorem succeeds_comparisonClause (op : Comparison) (left : Expression) (value : Value) :
    Succeeds (comparisonClause naming position (.comparison op) left value) ↔ left.comparesWith position op value := by
  unfold comparisonClause
  split
  next dividend divisor =>
    cases divisor with
    | literal bound =>
      cases bound with
      | int d =>
        cases value with
        | int r =>
          by_cases equal : op = .eq <;> by_cases zero : d = 0 <;>
            simp [comparesWith, equal, zero, succeeds_bind_ok, succeeds_target]
        | _ => by_cases equal : op = .eq <;> by_cases zero : d = 0 <;> simp [comparesWith, equal, zero]
      | _ => by_cases equal : op = .eq <;> simp [comparesWith, equal]
    | _ => by_cases equal : op = .eq <;> simp [comparesWith, equal]
  next collection =>
    cases value with
    | int count =>
      by_cases equal : op = .eq <;> simp [comparesWith, equal, succeeds_bind_ok, succeeds_target]
    | _ => by_cases equal : op = .eq <;> simp [comparesWith, equal]
  next other noRemainder noSize =>
    rw [comparesWith_of_other position noRemainder noSize, ← succeeds_target naming]
    exact succeeds_bind_of fun target => by cases op <;> simp

theorem succeeds_compareClause (op : Comparison) (left right : Expression) :
    Succeeds (compareClause naming position (.comparison op) left right) ↔
      (Expression.binary (.comparison op) left right).isTranslatable position := by
  cases right with
  | literal value => exact succeeds_comparisonClause naming position op left value
  | _ =>
    cases left with
    | literal value =>
      simp only [compareClause, isTranslatable, BinaryOp.flipped]
      exact succeeds_comparisonClause naming position op.flipped _ value
    | _ => exact iff_of_false (not_succeeds_error _) Bool.false_ne_true

/-- A predicate has clauses if its form is translatable, whether or not it is negated, and whether or not
it stands among the operands of a connective. -/
theorem succeeds_clauses (naming : FieldNaming) (predicate : Expression) (position : PredicateScope)
    (joining : Option Connective) (negated : Bool) :
    Succeeds (predicate.clauses naming position joining negated) ↔
      predicate.isTranslatable position := by
  match predicate with
  | .unary .not operand => exact succeeds_clauses naming operand position none !negated
  | .binary (.connective op) left right =>
    rw [isTranslatable, Bool.and_eq_true, ← succeeds_clauses naming left position (some op) false,
      ← succeeds_clauses naming right position (some op) false]
    refine succeeds_bind fun first _ => succeeds_bind_of fun second => ?_
    split <;> exact succeeds_ok _
  | .quantifier kind collection predicate =>
    rw [isTranslatable, Bool.and_eq_true, ← succeeds_target naming,
      ← succeeds_clauses naming predicate .element none false]
    exact succeeds_bind fun target _ => succeeds_bind_ok
  | .binary (.comparison op) left right =>
    exact succeeds_bind_ok.trans (succeeds_compareClause naming position op left right)
  | .isIn operand listed _ | .contains operand listed =>
    rw [isTranslatable, Bool.and_eq_true, ← succeeds_target naming, ← succeeds_literalList]
    exact succeeds_bind fun target _ => succeeds_bind_ok
  | .presence operand _ | .isType operand _ | .pattern operand _ =>
    exact succeeds_bind_ok.trans (succeeds_target naming position operand)
  | .field _ .boolean => exact iff_of_true (succeeds_ok _) rfl
  | .item => cases position <;> simp [clauses, isTranslatable]
  | .literal value => cases value <;> simp [clauses, isTranslatable]
  | .field _ .value | .list _ | .size _ | .binary (.arithmetic _) _ _ | .unary .neg _ =>
    exact iff_of_false (not_succeeds_error _) Bool.false_ne_true
termination_by structural predicate

end Expression
end DocQuery
