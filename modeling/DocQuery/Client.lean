import DocQuery.QueryResult

/-!
Queries on a database, built step by step, and the operations that end them. Each of these runs
the query on a store and gives its result and the store after it.
-/

namespace DocQuery

structure Config where
  propertyCase : PropertyCase
  documentCase : DocumentCase
  /-- Members with their wire names. Of a member named twice the last one counts. -/
  overrides : List (String × String)
  /-- The operations of the server, if it lacks some. -/
  table : Option ClassificationTable

namespace Config

/-- Camel case for members, snake case for databases, and a server that has all operations. -/
instance : Inhabited Config := ⟨⟨.camel, .snake, [], none⟩⟩

def naming (config : Config) : FieldNaming :=
  config.overrides.foldl (fun naming entry => naming.withOverride entry.1 entry.2)
    (.ofCase config.propertyCase)

def classificationTable (config : Config) : ClassificationTable :=
  config.table.getD .standard

def compiler (config : Config) (discriminator : Option String) : Compiler :=
  ⟨config.naming, config.classificationTable, discriminator⟩

/-- The name of a type without its parameters and the modules that it is in. -/
def shortTypeName (name : String) : String :=
  (((name.splitOn "<").headD "").splitOn "::").getLastD ""

/-- The database of the documents of a type. -/
def databaseName (config : Config) (typeName : String) : String :=
  config.documentCase.databaseName (shortTypeName typeName)

end Config

structure Query where
  database : String
  compiler : Compiler
  steps : List Step

/-- What a query on documents gives, with what the server reports about it. -/
structure FindResult where
  docs : List Json
  bookmark : Option String
  executionStats : Option ExecutionStats
  warning : Option String

namespace Query

def push (query : Query) (step : Step) : Query := { query with steps := query.steps ++ [step] }

def filter (query : Query) (predicate : Expression) : Query := query.push (.filter predicate)

def orderBy (query : Query) (field : FieldPath) : Query := query.push (.orderBy field .ascending)

def orderByDescending (query : Query) (field : FieldPath) : Query :=
  query.push (.orderBy field .descending)

def thenBy (query : Query) (field : FieldPath) : Query := query.push (.thenBy field .ascending)

def thenByDescending (query : Query) (field : FieldPath) : Query :=
  query.push (.thenBy field .descending)

def skip (query : Query) (count : Nat) : Query := query.push (.skip count)

def take (query : Query) (count : Nat) : Query := query.push (.take count)

def select (query : Query) (fields : List FieldPath) : Query := query.push (.project fields)

def useBookmark (query : Query) (bookmark : String) : Query := query.push (.useBookmark bookmark)

def withReadQuorum (query : Query) (quorum : Nat) : Query := query.push (.readQuorum quorum)

def withoutIndexUpdate (query : Query) : Query := query.push .skipIndexUpdate

def fromStable (query : Query) : Query := query.push .fromStable

def useIndex (query : Query) (index : List String) : Query := query.push (.useIndex index)

def includeExecutionStats (query : Query) : Query := query.push .includeExecutionStats

def includeConflicts (query : Query) : Query := query.push .includeConflicts

def plan (query : Query) : Plan := .ofSteps query.steps

def compile (query : Query) : Except Error CompiledQuery := query.compiler.compile query.plan

/-- The text of the request. -/
def toQueryString (query : Query) : Except Error String := do
  return (← query.compile).request.render

/-- The plan with the operation that ends it. -/
def planWith (query : Query) (terminal : Option Step) : Plan :=
  .ofSteps (query.steps ++ terminal.toList)

def run (query : Query) (store : Store) (terminal : Option Step) :
    Except Error QueryResult × Store :=
  query.compiler.execute store query.database (query.planWith terminal)

/-- The events of a run. -/
def runEvents (query : Query) (store : Store) (terminal : Option Step) : List Event :=
  query.compiler.executionEvents store query.database (query.planWith terminal)

/-- The failure of a result that has another shape than the operation gives. -/
def unexpectedShape {α : Type} (expected : String) (output : Output) : Except Error α :=
  .error (.internal (.unexpectedShape expected output.shape))

def findResultOf (result : QueryResult) : Except Error FindResult :=
  match result.output with
  | .documents docs => .ok ⟨docs, result.bookmark, result.executionStats, result.warning⟩
  | output => unexpectedShape "documents" output

def toFindResult (query : Query) (store : Store) : Except Error FindResult × Store :=
  let (result, store) := query.run store none
  (result >>= findResultOf, store)

def toList (query : Query) (store : Store) : Except Error (List Json) × Store :=
  let (result, store) := query.toFindResult store
  (result.map FindResult.docs, store)

def answerOf (result : QueryResult) : Except Error Bool :=
  match result.output with
  | .boolean answer => .ok answer
  | output => unexpectedShape "boolean" output

def any (query : Query) (store : Store) (predicate : Option Expression) :
    Except Error Bool × Store :=
  let (result, store) := query.run store (some (.any predicate))
  (result >>= answerOf, store)

def all (query : Query) (store : Store) (predicate : Expression) : Except Error Bool × Store :=
  let (result, store) := query.run store (some (.all predicate))
  (result >>= answerOf, store)

def documentOf (result : QueryResult) : Except Error (Option Json) :=
  match result.output with
  | .document found => .ok found
  | output => unexpectedShape "document" output

/-- The document of a kind among those of which an optional predicate holds. -/
def element (query : Query) (store : Store) (kind : ElementKind) (predicate : Option Expression) :
    Except Error (Option Json) × Store :=
  let (result, store) := query.run store (some (.element kind predicate))
  (result >>= documentOf, store)

/-- The document of a kind, which has to be there. -/
def required (query : Query) (store : Store) (kind : ElementKind) (predicate : Option Expression) :
    Except Error Json × Store :=
  let (found, store) := query.element store kind predicate
  let present (found : Option Json) : Except Error Json :=
    match found with
    | some document => .ok document
    | none => .error (.internal (.noDocument kind.operation))
  (found >>= present, store)

/-- The value of an aggregate, read as the type that is asked for. -/
def scalarOf {α : Type} (read : Json → Option α) (result : QueryResult) : Except Error α :=
  match result.output with
  | .scalar value =>
    match read value with
    | some value => .ok value
    | none => .error .undecodable
  | output => unexpectedShape "scalar" output

def aggregate {α : Type} (query : Query) (store : Store) (function : AggregateFunction)
    (field : FieldPath) (read : Json → Option α) : Except Error α × Store :=
  let (result, store) := query.run store (some (.aggregate function field))
  (result >>= scalarOf read, store)

def average (query : Query) (store : Store) (field : FieldPath) : Except Error Binary64 × Store :=
  query.aggregate store .average field Json.asFloat?

end Query
end DocQuery
