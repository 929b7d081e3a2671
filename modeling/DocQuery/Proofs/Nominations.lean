import DocQuery.Expression.Folding
import DocQuery.Proofs.Failures

/-! Folding in two passes. The first nominates: it says of every part of an expression whether it is
constant. The second replaces what is nominated, and takes one nomination for every part that it comes to.
Both together fold an expression, and the second pass always finds the nomination that it looks for. -/

namespace DocQuery

/-- Whether an expression is constant, and the nominations of its parts. -/
structure Nomination where
  constant : Bool
  parts : List Nomination

namespace Nomination

/-- The nomination of an expression that is constant if its parts are. -/
def ofParts (parts : List Nomination) : Nomination := ⟨parts.all constant, parts⟩

/-- The next of the nominations and those after it. -/
def next : List Nomination → Except Error (Nomination × List Nomination)
  | [] => .error (.internal .nominationShape)
  | first :: rest => .ok (first, rest)

end Nomination

namespace Expression

mutual

/-- Nominates the constants in an expression. The element that the predicate of a quantifier speaks of
comes from the quantifier itself. -/
def nominate : Expression → Nomination
  | .field .. | .item => ⟨false, []⟩
  | .literal _ => .ofParts []
  | .list items => .ofParts (nominateItems items)
  | .binary _ left right => .ofParts [left.nominate, right.nominate]
  | .unary _ operand => .ofParts [operand.nominate]
  | .isIn operand set _ => .ofParts [operand.nominate, set.nominate]
  | .contains collection values => .ofParts [collection.nominate, values.nominate]
  | .quantifier _ collection predicate =>
    ⟨collection.nominate.constant && !predicate.hasField, [collection.nominate, predicate.nominate]⟩
  | .presence operand _ => .ofParts [operand.nominate]
  | .isType operand _ => .ofParts [operand.nominate]
  | .size collection => .ofParts [collection.nominate]
  | .pattern operand _ => .ofParts [operand.nominate]
termination_by structural expression => expression

def nominateItems : List Expression → List Nomination
  | [] => []
  | first :: rest => first.nominate :: nominateItems rest
termination_by structural items => items

end

mutual

/-- Replaces what is nominated by its value. -/
def replace (expression : Expression) (nomination : Nomination) : Except Error Expression :=
  if nomination.constant then
    if expression.isLiteral then .ok expression else expression.constantLiteral
  else
    match expression with
    | .field path kind => .ok (.field path kind)
    | .item => .ok .item
    | .literal value => .ok (.literal value)
    | .list items => do return .list (← replaceItems items nomination.parts)
    -- A nomination is taken just before its part is replaced, so a part that fails does so first.
    | .binary op left right => do
      let (first, others) ← Nomination.next nomination.parts
      let left ← left.replace first
      let (second, _) ← Nomination.next others
      return .binary op left (← right.replace second)
    | .unary op operand => do
      let (first, _) ← Nomination.next nomination.parts
      return .unary op (← operand.replace first)
    | .isIn operand set negated => do
      let (first, others) ← Nomination.next nomination.parts
      let operand ← operand.replace first
      let (second, _) ← Nomination.next others
      return .isIn operand (← set.replace second) negated
    | .contains collection values => do
      let (first, others) ← Nomination.next nomination.parts
      let collection ← collection.replace first
      let (second, _) ← Nomination.next others
      return .contains collection (← values.replace second)
    | .quantifier kind collection predicate => do
      let (first, others) ← Nomination.next nomination.parts
      let collection ← collection.replace first
      let (second, _) ← Nomination.next others
      return .quantifier kind collection (← predicate.replace second)
    | .presence operand expected => do
      let (first, _) ← Nomination.next nomination.parts
      return .presence (← operand.replace first) expected
    | .isType operand type => do
      let (first, _) ← Nomination.next nomination.parts
      return .isType (← operand.replace first) type
    | .size collection => do
      let (first, _) ← Nomination.next nomination.parts
      return .size (← collection.replace first)
    | .pattern operand text => do
      let (first, _) ← Nomination.next nomination.parts
      return .pattern (← operand.replace first) text
termination_by structural expression

def replaceItems (items : List Expression) (nominations : List Nomination) :
    Except Error (List Expression) :=
  match items with
  | [] => .ok []
  | part :: rest => do
    let (first, others) ← Nomination.next nominations
    return (← part.replace first) :: (← replaceItems rest others)
termination_by structural items

end

mutual

theorem constant_nominate (expression : Expression) :
    expression.nominate.constant = expression.isConstant := by
  match expression with
  | .field .. | .item | .literal _ => rfl
  | .list items => exact all_nominateItems items
  | .binary _ left right | .isIn left right _ | .contains left right =>
    simp [nominate, isConstant, Nomination.ofParts, constant_nominate left, constant_nominate right]
  | .quantifier _ collection _ =>
    simp [nominate, isConstant, constant_nominate collection]
  | .unary _ operand | .presence operand _ | .isType operand _ | .size operand | .pattern operand _ =>
    simp [nominate, isConstant, Nomination.ofParts, constant_nominate operand]
termination_by structural expression

theorem all_nominateItems (items : List Expression) :
    (nominateItems items).all Nomination.constant = areConstant items := by
  match items with
  | [] => rfl
  | first :: rest =>
    simp [nominateItems, areConstant, constant_nominate first, all_nominateItems rest]
termination_by structural items

end

mutual

/-- Nominating and replacing is folding. -/
theorem replace_nominate (expression : Expression) :
    expression.replace expression.nominate = expression.fold := by
  rw [replace.eq_def, fold.eq_def, constant_nominate]
  split
  · -- A literal is left as it is, which is what replacing it by its value comes to.
    split
    next literal => cases expression <;> cases literal; rfl
    next => rfl
  match expression with
  | .field .. | .item | .literal _ => rfl
  | .list items => simp only [nominate, Nomination.ofParts, replaceItems_nominateItems items]
  | .binary _ left right | .isIn left right _ | .contains left right =>
    simp [nominate, Nomination.ofParts, Nomination.next, replace_nominate left, replace_nominate right]
  | .quantifier _ collection predicate =>
    simp [nominate, Nomination.next, replace_nominate collection, replace_nominate predicate]
  | .unary _ operand | .presence operand _ | .isType operand _ | .size operand | .pattern operand _ =>
    simp [nominate, Nomination.ofParts, Nomination.next, replace_nominate operand]
termination_by structural expression

theorem replaceItems_nominateItems (items : List Expression) :
    replaceItems items (nominateItems items) = foldItems items := by
  match items with
  | [] => rfl
  | first :: rest =>
    simp [nominateItems, replaceItems, foldItems, Nomination.next, replace_nominate first,
      replaceItems_nominateItems rest]
termination_by structural items

end

end Expression
end DocQuery
