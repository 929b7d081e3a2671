import DocQuery.Error
import DocQuery.Naming

/-!
The selector of a predicate.

Conjunctions and disjunctions become flat arrays, and negations go into the operators that have a
negative form. Inside a quantifier a clause speaks of the element and has no field name.
-/

namespace DocQuery

/-- Whether a predicate speaks of the document or of the element of a quantifier. -/
inductive PredicateScope where
  | document | element
deriving DecidableEq, Repr

/-- What a clause is about. -/
inductive Target where
  | field (name : String)
  | element
deriving DecidableEq, Repr

/-- An object with one key. -/
def single (key : String) (value : Json) : Json := .object [(key, value)]

/-- An operator applied to a target. -/
def Target.condition (target : Target) (op : String) (argument : Json) : Json :=
  match target with
  | .field name => single name (single op argument)
  | .element => single op argument

/-- Equality with a value. Only an object needs the operator on a field, where it would be read as
nested operators. -/
def Target.equality (target : Target) (value : Json) : Json :=
  match target, value with
  | .field name, .object entries => single name (single "$eq" (.object entries))
  | .field name, value => single name value
  | .element, value => single "$eq" value

/-- Clauses with each one that is nothing but an array under the key replaced by its members. -/
def spliced (key : String) (clauses : List Json) : List Json :=
  clauses.flatMap fun clause =>
    match clause with
    | .object [(name, .array members)] => if name = key then members else [clause]
    | _ => [clause]

def isMatchAll : Json → Bool
  | .object [] => true
  | _ => false

/-- The clause that holds where all clauses hold. What matches all adds nothing to others. -/
def conjunction (clauses : List Json) : Json :=
  let terms := spliced "$and" clauses
  let kept := if 1 < terms.length then terms.filter (!isMatchAll ·) else terms
  match kept with
  | [] => .object []
  | [term] => term
  | terms => single "$and" (.array terms)

def Comparison.operator : Comparison → String
  | .eq => "$eq"
  | .ne => "$ne"
  | .lt => "$lt"
  | .le => "$lte"
  | .gt => "$gt"
  | .ge => "$gte"

/-- The clause that holds always or never. Every document has an identity. -/
def truthClause (scope : PredicateScope) : Bool → Json
  | true => .object []
  | false =>
    match scope with
    | .document => single "_id" (single "$exists" (.bool false))
    | .element => single "$not" (.object [])

namespace Expression

def target (naming : FieldNaming) (scope : PredicateScope) : Expression → Except Error Target
  | .field path _ => .ok (.field (naming.resolve path))
  | .item =>
    match scope with
    | .element => .ok .element
    | .document => .error (.query .elementOutsideQuantifier)
  | .literal _ => .error (.query .comparesLiterals)
  | other => .error (.query (.notField other))

def literalItem : Expression → Except Error Json
  | .literal value => .ok value.toJson
  | other => .error (.query (.notLiteralItem other))

/-- The values of a list of literals. A single literal is a list of one. -/
def literalList : Expression → Except Error (List Json)
  | .literal (.list items) => .ok (items.map Value.toJson)
  | .literal value => .ok [value.toJson]
  | .list items => items.mapM literalItem
  | other => .error (.query (.notLiteralList other))

/-- The clause of a comparison with a literal on its right. -/
def comparisonClause (naming : FieldNaming) (scope : PredicateScope) (op : BinaryOp)
    (left : Expression) (value : Value) : Except Error Json :=
  match left with
  | .binary (.arithmetic .mod) dividend divisor =>
    if op ≠ .comparison .eq then .error (.query .remainderComparison)
    else
      match divisor with
      | .literal (.int d) =>
        if d = 0 then .error (.query .moduloDivisor)
        else
          match value with
          | .int r => do
            return (← dividend.target naming scope).condition "$mod"
              (.array [.integer d.toInt, .integer r.toInt])
          | _ => .error (.query .moduloRemainder)
      | _ => .error (.query .moduloDivisor)
  | .size collection =>
    if op ≠ .comparison .eq then .error (.query .sizeComparison)
    else
      match value with
      | .int count => do
        return (← collection.target naming scope).condition "$size" (.integer count.toInt)
      | _ => .error (.query .sizeNotInteger)
  | other => do
    let target ← other.target naming scope
    match op with
    | .comparison .eq => return target.equality value.toJson
    | .comparison op => return target.condition op.operator value.toJson
    | other => .error (.internal (.notComparison other))

/-- The clause of a comparison. A literal on the left goes to the right. -/
def compareClause (naming : FieldNaming) (scope : PredicateScope) (op : BinaryOp)
    (left right : Expression) : Except Error Json :=
  match left, right with
  | left, .literal value => comparisonClause naming scope op left value
  | .literal value, right => comparisonClause naming scope op.flipped right value
  | left, right => .error (.query (.incomparable left right))

def QuantifierKind.operator : QuantifierKind → String
  | .any => "$elemMatch"
  | .all => "$allMatch"

/-- A clause, or the negation of it. -/
def negatedIf (negated : Bool) (clause : Json) : Json :=
  if negated then single "$not" clause else clause

/-- The clause of the operands of a connective. -/
def connect (op : Connective) (negated : Bool) (clauses : List Json) : Json :=
  match op, negated with
  | .and, negated => negatedIf negated (single "$and" (.array (spliced "$and" clauses)))
  | .or, false => single "$or" (.array (spliced "$or" clauses))
  | .or, true => single "$nor" (.array (spliced "$or" clauses))

/-- The clauses of a predicate, or of its negation. An operand of `joining` gives one clause for
each of its own operands under the same connective; every other predicate gives one clause. -/
def clauses (naming : FieldNaming) (scope : PredicateScope) (joining : Option Connective)
    (negated : Bool) : Expression → Except Error (List Json)
  | .binary (.connective op) left right => do
    let first ← left.clauses naming scope (some op) false
    let second ← right.clauses naming scope (some op) false
    if !negated && joining == some op then return first ++ second
    else return [connect op negated (first ++ second)]
  | .binary op left right => do
    if op.isComparison then return [negatedIf negated (← compareClause naming scope op left right)]
    else .error (.query (.arithmeticPredicate op))
  | .unary .not operand => operand.clauses naming scope none !negated
  | .unary .neg operand => .error (.query (.notPredicate (.unary .neg operand)))
  | .isIn operand set excluded => do
    let target ← operand.target naming scope
    let op := if excluded != negated then "$nin" else "$in"
    return [target.condition op (.array (← set.literalList))]
  | .contains collection required => do
    let target ← collection.target naming scope
    return [negatedIf negated (target.condition "$all" (.array (← required.literalList)))]
  | .quantifier kind collection predicate => do
    let target ← collection.target naming scope
    let inner ← predicate.clauses naming .element none false
    return inner.map fun clause =>
      negatedIf negated (target.condition (QuantifierKind.operator kind) clause)
  | .presence operand expected => do
    let target ← operand.target naming scope
    return [negatedIf negated (target.condition "$exists" (.bool expected))]
  | .isType operand type => do
    let target ← operand.target naming scope
    return [negatedIf negated (target.condition "$type" (.string type.name))]
  | .pattern operand source => do
    let target ← operand.target naming scope
    return [negatedIf negated (target.condition "$regex" (.string source))]
  | .field path .boolean => .ok [Target.equality (.field (naming.resolve path)) (.bool !negated)]
  | .field path .value => .error (.query (.valueFieldPredicate path))
  | .item =>
    match scope with
    | .element => .ok [negatedIf negated (Target.equality .element (.bool true))]
    | .document => .error (.query (.notPredicate .item))
  | .literal (.bool b) => .ok [truthClause scope (b != negated)]
  | .literal value => .error (.query (.notPredicate (.literal value)))
  | .list items => .error (.query (.notPredicate (.list items)))
  | .size collection => .error (.query (.notPredicate (.size collection)))

section Binary

variable (naming : FieldNaming) (scope : PredicateScope) (joining : Option Connective) (negated : Bool)

@[simp] theorem clauses_comparison (op : Comparison) (left right : Expression) :
    (Expression.binary (.comparison op) left right).clauses naming scope joining negated =
      compareClause naming scope (.comparison op) left right >>= fun clause =>
        .ok [negatedIf negated clause] := rfl

@[simp] theorem clauses_arithmetic (op : ArithmeticOp) (left right : Expression) :
    (Expression.binary (.arithmetic op) left right).clauses naming scope joining negated =
      .error (.query (.arithmeticPredicate (.arithmetic op))) := rfl

end Binary

/-- The selector of a predicate on documents. -/
def selector (naming : FieldNaming) (predicate : Expression) : Except Error Json := do
  match ← predicate.clauses naming .document none false with
  | clause :: _ => return clause
  | [] => return .object []

end Expression
end DocQuery
