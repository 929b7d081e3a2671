import DocQuery.QueryResult
import DocQuery.TextTable

/-!
What the commands print, as lines: requests, explanations of plans, and results as tables.
-/

namespace DocQuery.CommandLine

/-- The lines of a table of properties. -/
def propertyLines (properties : List (String × String)) : List String :=
  TextTable.lines ⟨["Property", "Value"], properties.map fun (name, value) => [name, value]⟩

/-- The text of a value in a cell. Strings stand there without quotes. -/
def cellText : Option Json → String
  | none => ""
  | some (.string text) => text
  | some value => value.render

/-- The keys of documents, each at its first place. -/
def columnNames (documents : List Json) : List String :=
  documents.foldl (fun known document =>
    match document with
    | .object entries => entries.foldl (fun known entry =>
        if known.contains entry.1 then known else known ++ [entry.1]) known
    | _ => known) []

/-- The lines of a table of documents with a column for every key. Documents of which none has a
key stand in a single column. -/
def documentLines (documents : List Json) : List String :=
  match columnNames documents with
  | [] => TextTable.lines ⟨["Document"], documents.map fun document => [cellText (some document)]⟩
  | columns =>
    TextTable.lines ⟨columns, documents.map fun document =>
      columns.map fun column => cellText (document.get? column)⟩

def outputLines : Output → List String
  | .documents items => documentLines items ++ [s!"{items.length} documents"]
  | .document (some found) => documentLines [found]
  | .document none => ["(no document)"]
  | .scalar value => propertyLines [("Result", cellText (some value))]
  | .boolean answer => propertyLines [("Result", if answer then "true" else "false")]

/-- A time in milliseconds, to three places. -/
def milliseconds (time : Binary64) : String :=
  let thousandths := Binary64.divideToEven (time.magnitudeUnits * 1000) Binary64.one
  let places := (toString (thousandths % 1000 + 1000)).toList.drop 1
  s!"{thousandths / 1000}.{String.ofList places} ms"

/-- What the server reports about a result. -/
def reportedProperties (result : QueryResult) : List (String × String) :=
  (result.bookmark.map (("Bookmark", ·))).toList
    ++ (result.warning.map (("Warning", ·))).toList
    ++ match result.executionStats with
      | some stats =>
        [("Docs examined", toString stats.totalDocsExamined),
          ("Results returned", toString stats.resultsReturned),
          ("Execution time", milliseconds stats.executionTimeMs)]
      | none => []

def resultLines (result : QueryResult) : List String :=
  outputLines result.output ++
    match reportedProperties result with
    | [] => []
    | properties => propertyLines properties

/-- A step of a plan and who carries it out. -/
structure StepAccount where
  operation : String
  classification : String
  step : Json

def StepAccount.ofStep (table : ClassificationTable) (step : Step) : StepAccount where
  operation := step.kind.name
  classification := match table.classOf step.kind with
    | some classification => classification.title
    | none => "unsupported"
  step := step.encode

def StepAccount.encode (account : StepAccount) : Json :=
  .object [("operation", .string account.operation),
    ("classification", .string account.classification), ("step", account.step)]

/-- How a plan is carried out, or why it is not. -/
structure Explanation where
  steps : List StepAccount
  optimized : List StepAccount
  request : Option Json
  clientSteps : List String
  failure : Option String

namespace Explanation

def ofPlan (compiler : Compiler) (plan : Plan) : Explanation :=
  let accounts (plan : Plan) : List StepAccount :=
    plan.steps.map (StepAccount.ofStep compiler.table)
  let optimized := match plan.fold >>= Plan.optimize compiler.table default with
    | .ok optimized => accounts optimized
    | .error _ => []
  match compiler.compile plan with
  | .ok compiled =>
    ⟨accounts plan, optimized, some compiled.request.toJson,
      compiled.clientSteps.map (·.kind.name), none⟩
  | .error error => ⟨accounts plan, optimized, none, [], some error.message⟩

def encode (explanation : Explanation) : Json :=
  .object ([("steps", .array (explanation.steps.map StepAccount.encode)),
      ("optimized", .array (explanation.optimized.map StepAccount.encode))]
    ++ optionalEntry "request" explanation.request
    ++ [("client_steps", .array (explanation.clientSteps.map Json.string))]
    ++ optionalEntry "error" (explanation.failure.map .string))

def accountLines (title : String) (accounts : List StepAccount) : List String :=
  let rows := accounts.zipIdx.map fun (account, index) =>
    [toString (index + 1), account.operation, account.classification]
  title :: TextTable.lines ⟨["#", "Operation", "Classification"], rows⟩

def lines (explanation : Explanation) : List String :=
  let optimized := match explanation.optimized with
    | [] => []
    | accounts => accountLines "Optimized" accounts
  let clientSteps := match explanation.clientSteps with
    | [] => []
    | names => ["Client steps: " ++ " → ".intercalate names]
  accountLines "Plan" explanation.steps ++ optimized
    ++ (explanation.request.map fun request => s!"Request: {request.render}").toList
    ++ clientSteps
    ++ (explanation.failure.map fun failure => s!"Error: {failure}").toList

end Explanation
end DocQuery.CommandLine
