import DocQuery.Expression.Basic

/-!
Building expressions from smaller ones, as queries are written by hand.
-/

namespace DocQuery.Expression

def ofField (path : String) : Expression := .field (.parse path) .value

def ofFlag (path : String) : Expression := .field (.parse path) .boolean

def compare (op : Comparison) (left right : Expression) : Expression :=
  .binary (.comparison op) left right

def and (left right : Expression) : Expression := .binary (.connective .and) left right

def or (left right : Expression) : Expression := .binary (.connective .or) left right

def arithmetic (op : ArithmeticOp) (left right : Expression) : Expression :=
  .binary (.arithmetic op) left right

def not (operand : Expression) : Expression := .unary .not operand

def neg (operand : Expression) : Expression := .unary .neg operand

/-- A member of a field or of the element. Other expressions have no members and stay. -/
def member (parent : Expression) (path : FieldPath) : Expression :=
  match parent with
  | .item => .field path .value
  | .field outer _ => .field (outer.append path) .value
  | other => other

end DocQuery.Expression
