import DocQuery.Expression.Codec
import DocQuery.Plan.Basic

/-!
Plans as documents: an object with the list of steps in the order in which they are carried out.
A step is an object with its name and its arguments, or its bare name if it has none. Orders and
predicates that are optional may be left out, and are always written.
-/

namespace DocQuery

open Json (Tree FieldRule Fields choice? plainChoice? fields?)

def SortOrder.all : List SortOrder := [.ascending, .descending]

def SortOrder.name : SortOrder → String
  | .ascending => "ascending"
  | .descending => "descending"

def ElementKind.all : List ElementKind :=
  [.first, .firstOrDefault, .single, .singleOrDefault, .last, .lastOrDefault]

def ElementKind.name : ElementKind → String
  | .first => "first"
  | .firstOrDefault => "first_or_default"
  | .single => "single"
  | .singleOrDefault => "single_or_default"
  | .last => "last"
  | .lastOrDefault => "last_or_default"

def AggregateFunction.all : List AggregateFunction := [.min, .max, .sum, .average]

def AggregateFunction.name : AggregateFunction → String
  | .min => "min"
  | .max => "max"
  | .sum => "sum"
  | .average => "average"

open Expression (form)

def Reducer.encode : Reducer → Json
  | .aggregate function field => form "aggregate"
      (.object [("function", .string function.name), ("field", field.encode)])
  | .any => .string "any"
  | .notAny => .string "not_any"
  | .element kind => form "element" (.string kind.name)

def encodeOptional (predicate : Option Expression) : Json :=
  match predicate with
  | some predicate => predicate.encode
  | none => .null

namespace Step

def encode : Step → Json
  | .filter predicate => form "filter" (.object [("predicate", predicate.encode)])
  | .orderBy field order => form "order_by"
      (.object [("field", field.encode), ("order", .string order.name)])
  | .thenBy field order => form "then_by"
      (.object [("field", field.encode), ("order", .string order.name)])
  | .skip count => form "skip" (.object [("count", .ofNat count)])
  | .take count => form "take" (.object [("count", .ofNat count)])
  | .project fields => form "project" (.object [("fields", .array (fields.map FieldPath.encode))])
  | .useBookmark bookmark => form "use_bookmark" (.object [("bookmark", .string bookmark)])
  | .readQuorum quorum => form "read_quorum" (.object [("quorum", .ofNat quorum)])
  | .skipIndexUpdate => .string "skip_index_update"
  | .fromStable => .string "from_stable"
  | .useIndex index => form "use_index" (.object [("index", .array (index.map Json.string))])
  | .includeExecutionStats => .string "include_execution_stats"
  | .includeConflicts => .string "include_conflicts"
  | .any predicate => form "any" (.object [("predicate", encodeOptional predicate)])
  | .all predicate => form "all" (.object [("predicate", predicate.encode)])
  | .element kind predicate => form "element"
      (.object [("kind", .string kind.name), ("predicate", encodeOptional predicate)])
  | .aggregate function field => form "aggregate"
      (.object [("function", .string function.name), ("field", field.encode)])
  | .reduce reducer => form "reduce" (.object [("reducer", reducer.encode)])

end Step

namespace Plan

def encodeSteps (steps : List Step) : Json := .array (steps.map Step.encode)

def encode (plan : Plan) : Json := .object [("steps", encodeSteps plan.steps)]

end Plan

/-- The order of a step, ascending where it is left out. -/
def decodeOrder? : Option Tree → Option SortOrder
  | none => some .ascending
  | some tree => chosen? SortOrder.all SortOrder.name tree

/-- An optional predicate. Null stands for none. -/
def decodePredicate? : Option Tree → Option (Option Expression)
  | none => some none
  | some tree => tree.optional? Expression.decode?

def Reducer.decode? (tree : Tree) : Option Reducer :=
  match choice? tree with
  | some ("aggregate", some body) => do
    let fields ← fields? [("function", .required), ("field", .required)] body
    let function ← chosen? AggregateFunction.all AggregateFunction.name (← fields.get? "function")
    return .aggregate function (← FieldPath.decode? (← fields.get? "field"))
  | some ("element", some body) =>
    (chosen? ElementKind.all ElementKind.name body).map .element
  | _ =>
    match plainChoice? tree with
    | some "any" => some .any
    | some "not_any" => some .notAny
    | _ => none

namespace Step

/-- A natural number of 64 bits. -/
def count? (tree : Tree) : Option Nat := tree.asNatBelow? natBound64

/-- The step of a form with arguments, from its name and its body. -/
def ofForm? (name : String) (body : Tree) : Option Step :=
  let one (field : String) : Option Tree := do
    (← fields? [(field, .required)] body).get? field
  match name with
  | "filter" => do return .filter (← Expression.decode? (← one "predicate"))
  | "order_by" => do
    let fields ← fields? [("field", .required), ("order", .optional)] body
    return .orderBy (← FieldPath.decode? (← fields.get? "field"))
      (← decodeOrder? (fields.get? "order"))
  | "then_by" => do
    let fields ← fields? [("field", .required), ("order", .optional)] body
    return .thenBy (← FieldPath.decode? (← fields.get? "field"))
      (← decodeOrder? (fields.get? "order"))
  | "skip" => do return .skip (← count? (← one "count"))
  | "take" => do return .take (← count? (← one "count"))
  | "project" => do return .project (← (← one "fields").listOf? FieldPath.decode?)
  | "use_bookmark" => do return .useBookmark (← (← one "bookmark").asString?)
  | "read_quorum" => do return .readQuorum (← (← one "quorum").asNatBelow? natBound32)
  | "use_index" => do return .useIndex (← (← one "index").listOf? Tree.asString?)
  | "any" => do
    let fields ← fields? [("predicate", .optional)] body
    return .any (← decodePredicate? (fields.get? "predicate"))
  | "all" => do return .all (← Expression.decode? (← one "predicate"))
  | "element" => do
    let fields ← fields? [("kind", .required), ("predicate", .optional)] body
    return .element (← chosen? ElementKind.all ElementKind.name (← fields.get? "kind"))
      (← decodePredicate? (fields.get? "predicate"))
  | "aggregate" => do
    let fields ← fields? [("function", .required), ("field", .required)] body
    let function ← chosen? AggregateFunction.all AggregateFunction.name (← fields.get? "function")
    return .aggregate function (← FieldPath.decode? (← fields.get? "field"))
  | "reduce" => do return .reduce (← Reducer.decode? (← one "reducer"))
  | _ => none

/-- The step that a bare name stands for. -/
def ofName? : String → Option Step
  | "skip_index_update" => some .skipIndexUpdate
  | "from_stable" => some .fromStable
  | "include_execution_stats" => some .includeExecutionStats
  | "include_conflicts" => some .includeConflicts
  | _ => none

def decode? (tree : Tree) : Option Step :=
  ((plainChoice? tree).bind ofName?) <|>
    match choice? tree with
    | some (name, some body) => ofForm? name body
    | _ => none

end Step

namespace Plan

def decodeSteps? (tree : Tree) : Option (List Step) := tree.listOf? Step.decode?

def decode? (tree : Tree) : Option Plan := do
  let fields ← fields? [("steps", .required)] tree
  return .ofSteps (← decodeSteps? (← fields.get? "steps"))

end Plan
end DocQuery
