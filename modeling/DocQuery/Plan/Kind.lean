/-!
The kinds of operations a plan is made of.
-/

namespace DocQuery

inductive OperationKind where
  | filter | orderBy | orderByDescending | thenBy | thenByDescending
  | skip | take | project | useBookmark | readQuorum | skipIndexUpdate | fromStable | useIndex
  | includeExecutionStats | includeConflicts
  | min | max | sum | average | any | all
  | first | firstOrDefault | single | singleOrDefault | last | lastOrDefault
  | reduce
deriving DecidableEq, Inhabited, Repr

namespace OperationKind

def name : OperationKind → String
  | .filter => "Filter"
  | .orderBy => "OrderBy"
  | .orderByDescending => "OrderByDescending"
  | .thenBy => "ThenBy"
  | .thenByDescending => "ThenByDescending"
  | .skip => "Skip"
  | .take => "Take"
  | .project => "Project"
  | .useBookmark => "UseBookmark"
  | .readQuorum => "ReadQuorum"
  | .skipIndexUpdate => "SkipIndexUpdate"
  | .fromStable => "FromStable"
  | .useIndex => "UseIndex"
  | .includeExecutionStats => "IncludeExecutionStats"
  | .includeConflicts => "IncludeConflicts"
  | .min => "Min"
  | .max => "Max"
  | .sum => "Sum"
  | .average => "Average"
  | .any => "Any"
  | .all => "All"
  | .first => "First"
  | .firstOrDefault => "FirstOrDefault"
  | .single => "Single"
  | .singleOrDefault => "SingleOrDefault"
  | .last => "Last"
  | .lastOrDefault => "LastOrDefault"
  | .reduce => "Reduce"

/-- Every kind, in the order in which they are listed. -/
def every : List OperationKind :=
  [.filter, .orderBy, .orderByDescending, .thenBy, .thenByDescending, .skip, .take, .project,
    .useBookmark, .readQuorum, .skipIndexUpdate, .fromStable, .useIndex, .includeExecutionStats,
    .includeConflicts, .min, .max, .sum, .average, .any, .all, .first, .firstOrDefault, .single,
    .singleOrDefault, .last, .lastOrDefault, .reduce]

def ofName? (name : String) : Option OperationKind := every.find? (·.name == name)

end OperationKind
end DocQuery
