import DocQuery.Expression.Evaluation

/-!
Constant folding: the largest parts of an expression that do not depend on a document are replaced
by their values.
-/

namespace DocQuery.Expression

mutual

/-- Whether an expression depends neither on a document nor on an element from outside it. The
predicate of a quantifier over a constant list may speak of the element, but not of its fields. -/
def isConstant : Expression → Bool
  | .field .. | .item => false
  | .literal _ => true
  | .list items => areConstant items
  | .binary _ left right => left.isConstant && right.isConstant
  | .unary _ operand => operand.isConstant
  | .isIn operand set _ => operand.isConstant && set.isConstant
  | .contains collection values => collection.isConstant && values.isConstant
  | .quantifier _ collection predicate => collection.isConstant && !predicate.hasField
  | .presence operand _ => operand.isConstant
  | .isType operand _ => operand.isConstant
  | .size collection => collection.isConstant
  | .pattern operand _ => operand.isConstant
termination_by structural expression => expression

def areConstant : List Expression → Bool
  | [] => true
  | first :: rest => first.isConstant && areConstant rest
termination_by structural items => items

end

/-- The literal of a constant. -/
def constantLiteral (expression : Expression) : Except Error Expression := do
  return .literal (← expression.evaluate .constant)

mutual

def fold (expression : Expression) : Except Error Expression :=
  if expression.isConstant then expression.constantLiteral
  else
    match expression with
    | .field path kind => .ok (.field path kind)
    | .item => .ok .item
    | .literal value => .ok (.literal value)
    | .list items => do return .list (← foldItems items)
    | .binary op left right => do return .binary op (← left.fold) (← right.fold)
    | .unary op operand => do return .unary op (← operand.fold)
    | .isIn operand set negated => do return .isIn (← operand.fold) (← set.fold) negated
    | .contains collection values => do return .contains (← collection.fold) (← values.fold)
    | .quantifier kind collection predicate => do
      return .quantifier kind (← collection.fold) (← predicate.fold)
    | .presence operand expected => do return .presence (← operand.fold) expected
    | .isType operand type => do return .isType (← operand.fold) type
    | .size collection => do return .size (← collection.fold)
    | .pattern operand text => do return .pattern (← operand.fold) text
termination_by structural expression

def foldItems (items : List Expression) : Except Error (List Expression) :=
  match items with
  | [] => .ok []
  | first :: rest => do return (← first.fold) :: (← foldItems rest)
termination_by structural items

end

mutual

/-- The largest constants that are not yet literals, from left to right. -/
def largestConstants (expression : Expression) : List Expression :=
  if expression.isConstant then (if expression.isLiteral then [] else [expression])
  else
    match expression with
    | .field .. | .item | .literal _ => []
    | .list items => largestConstantsOf items
    | .binary _ left right => left.largestConstants ++ right.largestConstants
    | .unary _ operand => operand.largestConstants
    | .isIn operand set _ => operand.largestConstants ++ set.largestConstants
    | .contains collection values => collection.largestConstants ++ values.largestConstants
    | .quantifier _ collection predicate =>
      collection.largestConstants ++ predicate.largestConstants
    | .presence operand _ => operand.largestConstants
    | .isType operand _ => operand.largestConstants
    | .size collection => collection.largestConstants
    | .pattern operand _ => operand.largestConstants
termination_by structural expression

def largestConstantsOf (items : List Expression) : List Expression :=
  match items with
  | [] => []
  | first :: rest => first.largestConstants ++ largestConstantsOf rest
termination_by structural items

end

/-- The values that folding puts in, in order, up to the first constant that has none. -/
def foldedValues (expression : Expression) : List Value :=
  takeValues expression.largestConstants
where
  takeValues : List Expression → List Value
    | [] => []
    | constant :: rest =>
      match constant.evaluate .constant with
      | .ok value => value :: takeValues rest
      | .error _ => []

end DocQuery.Expression
