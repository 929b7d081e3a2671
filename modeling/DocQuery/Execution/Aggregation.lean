import DocQuery.Event
import DocQuery.Execution.Output
import DocQuery.Expression.Evaluation
import DocQuery.Json.Path

/-!
Aggregates of the values of a field. Documents that lack the field or hold null there do not count.
Sums of integers are exact; the average is a float.
-/

namespace DocQuery

/-- The values of a field, in the order of the documents. -/
def fieldValues (field : String) (documents : List Json) : List Value :=
  ((documents.filterMap (·.lookup? (wireKeys field))).filter (!·.isNull)).map Value.ofJson

namespace Value

/-- The first of the values that none of the others goes before, in one of the two directions. -/
def extreme? (better : Ordering) : List Value → Option Value
  | [] => none
  | first :: rest =>
    some (rest.foldl (fun best next => if next.collate best == better then next else best) first)

/-- A total and one value more, which has to be a number. -/
def addToTotal (total value : Value) : Except Error Value :=
  match value with
  | .int _ | .float _ => ofArithmetic (total.add value)
  | other => .error (.cannotSum other.typeName)

def sum (values : List Value) : Except Error Value := values.foldlM addToTotal (.int 0)

def average (values : List Value) : Except Error Value := do
  if values.isEmpty then .error .noElements
  else
    match (← sum values).asFloat? with
    | some total => return .float (total.div (.ofInt values.length))
    | none => .error (.internal .sumNotNumeric)

/-- A value that has to be there. -/
def required (value : Option Value) : Except Error Value :=
  match value with
  | some value => .ok value
  | none => .error .noElements

end Value

def AggregateFunction.apply : AggregateFunction → List Value → Except Error Value
  | .min, values => Value.required (Value.extreme? .lt values)
  | .max, values => Value.required (Value.extreme? .gt values)
  | .sum, values => Value.sum values
  | .average, values => Value.average values

/-- The aggregate of a field, named as on the wire. -/
def AggregateFunction.aggregate (function : AggregateFunction) (field : String)
    (documents : List Json) : Except Error Output := do
  return .scalar (← function.apply (fieldValues field documents)).toJson

/-- The event of documents without a value, if there are any. -/
def aggregationEvents (field : String) (documents : List Json) : List Event :=
  let count := (fieldValues field documents).length
  if count < documents.length then
    [.withoutValue (documents.length - count) documents.length field]
  else []

end DocQuery
