import DocQuery.Expression.Basic
import DocQuery.Plan.Kind

/-!
Steps: the operations that plans are made of, without what they are applied to.
-/

namespace DocQuery

inductive SortOrder where
  | ascending | descending
deriving DecidableEq, Inhabited, Repr

/-- Which document of a list is asked for, and whether there may be none. -/
inductive ElementKind where
  | first | firstOrDefault | single | singleOrDefault | last | lastOrDefault
deriving DecidableEq, Repr

def ElementKind.orDefault : ElementKind → Bool
  | .firstOrDefault | .singleOrDefault | .lastOrDefault => true
  | .first | .single | .last => false

inductive AggregateFunction where
  | min | max | sum | average
deriving DecidableEq, Repr

/-- What is made of the fetched documents at the end of a composite operation. -/
inductive Reducer where
  | aggregate (function : AggregateFunction) (field : FieldPath)
  | any
  | notAny
  | element (kind : ElementKind)
deriving DecidableEq, Repr

inductive Step where
  | filter (predicate : Expression)
  | orderBy (field : FieldPath) (order : SortOrder)
  | thenBy (field : FieldPath) (order : SortOrder)
  | skip (count : Nat)
  | take (count : Nat)
  | project (fields : List FieldPath)
  | useBookmark (bookmark : String)
  | readQuorum (quorum : Nat)
  | skipIndexUpdate
  | fromStable
  | useIndex (index : List String)
  | includeExecutionStats
  | includeConflicts
  | any (predicate : Option Expression)
  | all (predicate : Expression)
  | element (kind : ElementKind) (predicate : Option Expression)
  | aggregate (function : AggregateFunction) (field : FieldPath)
  | reduce (reducer : Reducer)
deriving Inhabited, BEq, Repr

def ElementKind.operation : ElementKind → OperationKind
  | .first => .first
  | .firstOrDefault => .firstOrDefault
  | .single => .single
  | .singleOrDefault => .singleOrDefault
  | .last => .last
  | .lastOrDefault => .lastOrDefault

def AggregateFunction.operation : AggregateFunction → OperationKind
  | .min => .min
  | .max => .max
  | .sum => .sum
  | .average => .average

/-- What a reducer is called. -/
def Reducer.title : Reducer → String
  | .aggregate function _ => s!"{function.operation.name}NoSelector"
  | .any => "AnyNoSelector"
  | .notAny => "NotAnyNoSelector"
  | .element kind => s!"{kind.operation.name}NoSelector"

namespace Step

def kind : Step → OperationKind
  | .filter _ => .filter
  | .orderBy _ .ascending => .orderBy
  | .orderBy _ .descending => .orderByDescending
  | .thenBy _ .ascending => .thenBy
  | .thenBy _ .descending => .thenByDescending
  | .skip _ => .skip
  | .take _ => .take
  | .project _ => .project
  | .useBookmark _ => .useBookmark
  | .readQuorum _ => .readQuorum
  | .skipIndexUpdate => .skipIndexUpdate
  | .fromStable => .fromStable
  | .useIndex _ => .useIndex
  | .includeExecutionStats => .includeExecutionStats
  | .includeConflicts => .includeConflicts
  | .any _ => .any
  | .all _ => .all
  | .element kind _ => kind.operation
  | .aggregate function _ => function.operation
  | .reduce _ => .reduce

def predicate? : Step → Option Expression
  | .filter predicate => some predicate
  | .all predicate => some predicate
  | .any predicate => predicate
  | .element _ predicate => predicate
  | _ => none

end Step

end DocQuery
