import DocQuery.DocumentOrder
import DocQuery.Execution.Aggregation
import DocQuery.Expression.Normal
import DocQuery.Search

/-!
Carrying out steps on fetched documents, in order. A step that gives something else than documents
ends the chain: no step can follow it.
-/

namespace DocQuery

namespace Step

/-- Whether a step can be carried out on fetched documents. The others only concern the server. -/
def runsInMemory : Step → Bool
  | .useBookmark _ | .readQuorum _ | .skipIndexUpdate | .fromStable | .useIndex _
  | .includeExecutionStats | .includeConflicts => false
  | _ => true

end Step

/-- Checks before anything is fetched that every step runs in memory and that documents are sorted
by further fields only where they have been sorted by a first one. -/
def checkSteps (ordered : Bool) : List Step → Except Error Unit
  | [] => .ok ()
  | step :: rest =>
    if !step.runsInMemory then .error (.query (.noInMemoryForm step.kind))
    else
      match step with
      | .orderBy .. => checkSteps true rest
      | .thenBy .. =>
        if ordered then checkSteps ordered rest
        else .error (.query (.thenByApartFromOrderBy step.kind))
      | _ => checkSteps ordered rest

/-- The documents of which a predicate holds. It is normalized as for a request, so that documents
without a field match alike on both sides. -/
def keepMatching (naming : FieldNaming) (predicate : Expression) (documents : List Json) :
    Except Error (List Json) :=
  keepItems (fun document => predicate.normalize.holds naming (.ofJson document)) documents

/-- The documents of an optional predicate; all of them if there is none. -/
def keepOptional (naming : FieldNaming) (predicate : Option Expression) (documents : List Json) :
    Except Error (List Json) :=
  match predicate with
  | some predicate => keepMatching naming predicate documents
  | none => .ok documents

def Reducer.apply (reducer : Reducer) (naming : FieldNaming) (documents : List Json) :
    Except Error Output :=
  match reducer with
  | .aggregate function field => function.aggregate (naming.resolve field) documents
  | .any => .ok (.boolean !documents.isEmpty)
  | .notAny => .ok (.boolean documents.isEmpty)
  | .element kind => kind.select documents

namespace Step

/-- The fields by which documents are sorted after a step. -/
def sortKeys (step : Step) (naming : FieldNaming) (keys : List SortKey) : List SortKey :=
  match step with
  | .orderBy field order => [⟨wireKeys (naming.resolve field), order⟩]
  | .thenBy field order => keys ++ [⟨wireKeys (naming.resolve field), order⟩]
  | _ => keys

/-- What a step makes of documents, given the fields by which it leaves them sorted. -/
def apply (step : Step) (naming : FieldNaming) (keys : List SortKey) (documents : List Json) :
    Except Error Output :=
  match step with
  | .filter predicate => do return .documents (← keepMatching naming predicate documents)
  | .orderBy .. | .thenBy .. => .ok (.documents (sortDocuments keys documents))
  | .skip count => .ok (.documents (documents.drop count))
  | .take count => .ok (.documents (documents.take count))
  | .project fields =>
    let paths := fields.map fun field => wireKeys (naming.resolve field)
    .ok (.documents (documents.map (·.project paths)))
  | .any predicate => do
    return .boolean !(← keepOptional naming predicate documents).isEmpty
  | .all predicate => do
    return .boolean (← keepMatching naming predicate.negate documents).isEmpty
  | .element kind predicate => do kind.select (← keepOptional naming predicate documents)
  | .aggregate function field => function.aggregate (naming.resolve field) documents
  | .reduce reducer => reducer.apply naming documents
  | _ => .error (.query (.noInMemoryForm step.kind))

end Step

/-- What has come of the steps so far, and the fields by which documents are sorted. -/
structure Execution where
  output : Output
  sortKeys : List SortKey

namespace Execution

def ofDocuments (documents : List Json) : Execution := ⟨.documents documents, []⟩

def advance (naming : FieldNaming) (state : Execution) (step : Step) : Except Error Execution :=
  match state.output with
  | .documents documents => do
    let keys := step.sortKeys naming state.sortKeys
    return ⟨← step.apply naming keys documents, keys⟩
  | output => .error (.query (.afterResult step.kind output.shape))

end Execution

/-- The output of steps on documents. -/
def runSteps (naming : FieldNaming) (steps : List Step) (documents : List Json) :
    Except Error Output := do
  checkSteps false steps
  return (← steps.foldlM (Execution.advance naming) (.ofDocuments documents)).output

/-- The events of a step on documents. -/
def Step.events (naming : FieldNaming) (documents : List Json) : Step → List Event
  | .aggregate _ field | .reduce (.aggregate _ field) =>
    aggregationEvents (naming.resolve field) documents
  | _ => []

namespace Execution

/-- The events of the steps that follow, up to the first that fails. -/
def events (naming : FieldNaming) (state : Execution) : List Step → List Event
  | [] => []
  | step :: rest =>
    let here := match state.output with
      | .documents documents => step.events naming documents
      | _ => []
    match state.advance naming step with
    | .ok next => here ++ next.events naming rest
    | .error _ => here

end Execution

/-- The events of running steps on documents. -/
def runEvents (naming : FieldNaming) (steps : List Step) (documents : List Json) : List Event :=
  match checkSteps false steps with
  | .ok () => (Execution.ofDocuments documents).events naming steps
  | .error _ => []

end DocQuery
