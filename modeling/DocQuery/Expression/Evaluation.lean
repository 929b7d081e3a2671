import DocQuery.Error
import DocQuery.Naming
import DocQuery.Pattern.Text
import DocQuery.Search
import DocQuery.Value.Collation

/-!
The value of an expression over a document.

An expression may be absent: a field that the document lacks, the size of something that is no
list, arithmetic with an absent operand. Absence satisfies no comparison and no membership test;
where a value is asked for it is null. A predicate holds where its value is true.
-/

namespace DocQuery

/-- What fields and the element refer to. Without names for fields nothing but constants has a
value. -/
structure Scope where
  naming : Option FieldNaming
  document : Option Value
  item : Option Value

namespace Scope

/-- The scope of constants. -/
def constant : Scope := ⟨none, none, none⟩

def ofDocument (naming : FieldNaming) (document : Value) : Scope :=
  ⟨some naming, some document, none⟩

/-- The scope of a quantifier's predicate: fields belong to the element. -/
def ofElement (scope : Scope) (element : Value) : Scope :=
  { scope with document := some element, item := some element }

/-- The value of a field, if the document has it. -/
def lookup? (scope : Scope) (path : FieldPath) : Except Error (Option Value) :=
  match scope.naming with
  | none => .error (.query (.fieldInConstant path))
  | some naming =>
    .ok (scope.document.bind (·.lookup? (path.segments.map naming.resolveMember)))

end Scope

namespace Value

def ofArithmetic (result : Except ArithmeticError Value) : Except Error Value :=
  result.mapError fun fault => .query (.arithmetic fault)

/-- The result of an operator that neither compares nor connects. -/
def operate (a : Value) (op : BinaryOp) (b : Value) : Except Error Value :=
  match op with
  | .arithmetic op => ofArithmetic (a.arithmetic op b)
  | other => .error (.internal (.notArithmetic other))

@[simp] theorem operate_arithmetic (a : Value) (op : ArithmeticOp) (b : Value) :
    a.operate (.arithmetic op) b = ofArithmetic (a.arithmetic op b) := rfl

end Value

namespace Expression

mutual

/-- The value of an expression, or nothing where it is absent. -/
def value? (expression : Expression) (scope : Scope) : Except Error (Option Value) :=
  match expression with
  | .field path _ => scope.lookup? path
  | .item =>
    match scope.item with
    | some element => .ok (some element)
    | none => .error (.query .elementOutsideQuantifier)
  | .literal value => .ok (some value)
  | .list items => do return some (.list (← values items scope))
  | .binary (.connective op) left right => do
    let first := ((← left.value? scope).getD .null).isTrue
    match op, first with
    | .and, false => return some (.bool false)
    | .or, true => return some (.bool true)
    | _, _ => return some (.bool ((← right.value? scope).getD .null).isTrue)
  | .binary (.comparison op) left right => do
    match ← left.value? scope, ← right.value? scope with
    | some a, some b => return some (.bool (op.holds (a.collate b)))
    | _, _ => return some (.bool false)
  | .binary op left right => do
    match ← left.value? scope, ← right.value? scope with
    | some a, some b => return some (← a.operate op b)
    | _, _ => return none
  | .unary .not operand => do
    return some (.bool !((← operand.value? scope).getD .null).isTrue)
  | .unary .neg operand => do
    return some (← Value.ofArithmetic ((← operand.value? scope).getD .null).neg)
  | .isIn operand set negated => do
    match ← operand.value? scope with
    | none => return some (.bool false)
    | some member =>
      let candidates := ((← set.value? scope).getD .null).candidates
      return some (.bool (member.memberOf candidates != negated))
  | .contains collection required => do
    let held := (← collection.value? scope).getD .null
    let needles := ((← required.value? scope).getD .null).candidates
    match held with
    | .list items => return some (.bool (Value.holdsAll items needles))
    | _ => return some (.bool false)
  | .quantifier kind collection predicate => do
    match (← collection.value? scope).getD .null with
    | .list items =>
      let test (element : Value) : Except Error Bool := do
        return ((← predicate.value? (scope.ofElement element)).getD .null).isTrue
      return some (.bool (← kind.decide test items))
    | _ => return some (.bool false)
  | .presence operand expected => do
    let found ← operand.value? scope
    let present := if operand.isField then found.isSome else !(found.getD .null).isNull
    return some (.bool (present == expected))
  | .isType operand type => do
    match ← operand.value? scope with
    | some value => return some (.bool (value.jsonType == type))
    | none => return some (.bool (!operand.isField && type == .null))
  | .size collection => do
    match ← collection.value? scope with
    | some (.list items) => return some (.int (Int64.ofNat items.length))
    | _ => return none
  | .pattern operand source =>
    match Pattern.parse? source with
    | none => .error (.query .invalidPattern)
    | some compiled => do
      match ← operand.value? scope with
      | some (.string text) => return some (.bool (compiled.occursIn text))
      | _ => return some (.bool false)
termination_by structural expression

/-- The values of the items of a list, an absent one as null. -/
def values (items : List Expression) (scope : Scope) : Except Error (List Value) :=
  match items with
  | [] => .ok []
  | first :: rest => do return (← first.value? scope).getD .null :: (← values rest scope)
termination_by structural items

end

theorem value?_arithmetic (op : ArithmeticOp) (left right : Expression) (scope : Scope) :
    (Expression.binary (.arithmetic op) left right).value? scope = (do
      match ← left.value? scope, ← right.value? scope with
      | some a, some b => return some (← Value.ofArithmetic (a.arithmetic op b))
      | _, _ => return none) := rfl

theorem values_literals (values : List Value) (scope : Scope) :
    Expression.values (values.map .literal) scope = .ok values := by
  induction values with
  | nil => rfl
  | cons value rest ih =>
    rw [List.map_cons, Expression.values, ih]
    simp only [value?]
    rfl

/-- The value of an expression; null where it is absent. -/
def evaluate (expression : Expression) (scope : Scope) : Except Error Value := do
  return (← expression.value? scope).getD .null

/-- Whether a predicate holds of a document. -/
def holds (predicate : Expression) (naming : FieldNaming) (document : Value) : Except Error Bool := do
  return (← predicate.evaluate (.ofDocument naming document)).isTrue

end Expression
end DocQuery
