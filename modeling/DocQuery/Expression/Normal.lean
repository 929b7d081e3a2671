import DocQuery.Expression.Basic

/-!
The normal form of predicates, and their negation.

Where a predicate stands, a boolean field is spelled as a comparison, and a negation goes into a
boolean field, a membership test or another negation. Operands of comparisons stay as they are.
-/

namespace DocQuery.Expression

/-- The comparison of a boolean field that a flag stands for. -/
def equalsFlag (operand : Expression) (flag : Bool) : Expression :=
  .binary (.comparison .eq) operand (.literal (.bool flag))

def normalize : Expression → Expression
  | .field path .boolean => equalsFlag (.field path .boolean) true
  | .unary .not (.field path .boolean) => equalsFlag (.field path .boolean) false
  | .unary .not (.isIn operand set negated) => .isIn operand set !negated
  | .unary .not (.unary .not operand) => operand.normalize
  | .unary .not operand => .unary .not operand.normalize
  | .binary (.connective op) left right =>
    .binary (.connective op) left.normalize right.normalize
  | .quantifier kind collection predicate => .quantifier kind collection predicate.normalize
  | other => other

/-- The negation of a predicate, pushed into conjunctions. -/
def negate : Expression → Expression
  | .unary .not operand => operand
  | .binary (.connective .and) left right =>
    .binary (.connective .or) left.negate right.negate
  | .isIn operand set negated => .isIn operand set !negated
  | .field path .boolean => equalsFlag (.field path .boolean) false
  | .literal (.bool b) => .literal (.bool !b)
  | other => .unary .not other

end DocQuery.Expression
