import DocQuery.FieldPath
import DocQuery.Value.Arithmetic

/-!
Predicates and the expressions they are built from.

A field is read from the document at hand. Inside the predicate of a quantifier that is the element,
which can also be named as a whole.
-/

namespace DocQuery

inductive Comparison where
  | eq | ne | lt | le | gt | ge
deriving DecidableEq, Repr

inductive Connective where
  | and | or
deriving DecidableEq, Repr

inductive BinaryOp where
  | comparison (op : Comparison)
  | connective (op : Connective)
  | arithmetic (op : ArithmeticOp)
deriving DecidableEq, Repr

inductive UnaryOp where
  | not | neg
deriving DecidableEq, Repr

inductive QuantifierKind where
  | any | all
deriving DecidableEq, Repr

/-- Whether a field may stand for a predicate by itself. -/
inductive FieldKind where
  | value | boolean
deriving DecidableEq, Inhabited, Repr

inductive Expression where
  | field (path : FieldPath) (kind : FieldKind)
  /-- The element of the innermost quantifier. -/
  | item
  | literal (value : Value)
  | list (items : List Expression)
  | binary (op : BinaryOp) (left right : Expression)
  | unary (op : UnaryOp) (operand : Expression)
  | isIn (operand set : Expression) (negated : Bool)
  | contains (collection values : Expression)
  | quantifier (kind : QuantifierKind) (collection predicate : Expression)
  | presence (operand : Expression) (present : Bool)
  | isType (operand : Expression) (type : JsonType)
  | size (collection : Expression)
  | pattern (operand : Expression) (pattern : String)
deriving Inhabited, BEq, Repr

/-- The comparison that holds when the sides are exchanged. -/
def Comparison.flipped : Comparison → Comparison
  | .lt => .gt
  | .le => .ge
  | .gt => .lt
  | .ge => .le
  | same => same

/-- Whether a comparison holds of sides in this order. -/
def Comparison.holds : Comparison → Ordering → Bool
  | .eq, ordering => ordering == .eq
  | .ne, ordering => ordering != .eq
  | .lt, ordering => ordering == .lt
  | .le, ordering => ordering != .gt
  | .gt, ordering => ordering == .gt
  | .ge, ordering => ordering != .lt

namespace BinaryOp

def isComparison : BinaryOp → Bool
  | .comparison _ => true
  | _ => false

def flipped : BinaryOp → BinaryOp
  | .comparison op => .comparison op.flipped
  | same => same

def title : BinaryOp → String
  | .comparison .eq => "Eq"
  | .comparison .ne => "Ne"
  | .comparison .lt => "Lt"
  | .comparison .le => "Le"
  | .comparison .gt => "Gt"
  | .comparison .ge => "Ge"
  | .connective .and => "And"
  | .connective .or => "Or"
  | .arithmetic .add => "Add"
  | .arithmetic .sub => "Sub"
  | .arithmetic .mul => "Mul"
  | .arithmetic .div => "Div"
  | .arithmetic .mod => "Mod"

end BinaryOp

def UnaryOp.title : UnaryOp → String
  | .not => "Not"
  | .neg => "Neg"

namespace Expression

def children : Expression → List Expression
  | .field .. | .item | .literal _ => []
  | .list items => items
  | .binary _ left right => [left, right]
  | .unary _ operand => [operand]
  | .isIn operand set _ => [operand, set]
  | .contains collection values => [collection, values]
  | .quantifier _ collection predicate => [collection, predicate]
  | .presence operand _ => [operand]
  | .isType operand _ => [operand]
  | .size collection => [collection]
  | .pattern operand _ => [operand]

def isLiteral : Expression → Bool
  | .literal _ => true
  | _ => false

def isField : Expression → Bool
  | .field .. => true
  | _ => false

mutual

/-- Whether a field occurs anywhere, in predicates of quantifiers too. -/
def hasField : Expression → Bool
  | .field .. => true
  | .item | .literal _ => false
  | .list items => anyHasField items
  | .binary _ left right => left.hasField || right.hasField
  | .unary _ operand => operand.hasField
  | .isIn operand set _ => operand.hasField || set.hasField
  | .contains collection values => collection.hasField || values.hasField
  | .quantifier _ collection predicate => collection.hasField || predicate.hasField
  | .presence operand _ => operand.hasField
  | .isType operand _ => operand.hasField
  | .size collection => collection.hasField
  | .pattern operand _ => operand.hasField
termination_by structural expression => expression

def anyHasField : List Expression → Bool
  | [] => false
  | first :: rest => first.hasField || anyHasField rest
termination_by structural items => items

end

mutual

/-- Whether a field of the document occurs. Fields in the predicate of a quantifier belong to the
element. -/
def referencesDocument : Expression → Bool
  | .field .. => true
  | .item | .literal _ => false
  | .list items => anyReferencesDocument items
  | .binary _ left right => left.referencesDocument || right.referencesDocument
  | .unary _ operand => operand.referencesDocument
  | .isIn operand set _ => operand.referencesDocument || set.referencesDocument
  | .contains collection values => collection.referencesDocument || values.referencesDocument
  | .quantifier _ collection _ => collection.referencesDocument
  | .presence operand _ => operand.referencesDocument
  | .isType operand _ => operand.referencesDocument
  | .size collection => collection.referencesDocument
  | .pattern operand _ => operand.referencesDocument
termination_by structural expression => expression

def anyReferencesDocument : List Expression → Bool
  | [] => false
  | first :: rest => first.referencesDocument || anyReferencesDocument rest
termination_by structural items => items

end

/-- What an expression is called in messages. -/
def describe : Expression → String
  | .field path _ => s!"field `{path.render}`"
  | .item => "the quantified element"
  | .literal value => s!"literal {value.render}"
  | .list _ => "a list"
  | .binary op _ _ => s!"a `{op.title}` expression"
  | .unary op _ => s!"a `{op.title}` expression"
  | .isIn .. => "a membership test"
  | .contains .. => "a containment test"
  | .quantifier .. => "a quantifier"
  | .presence .. => "an existence test"
  | .isType .. => "a type test"
  | .size _ => "a size expression"
  | .pattern .. => "a regex match"

end Expression
end DocQuery
