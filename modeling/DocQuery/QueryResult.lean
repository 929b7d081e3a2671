import DocQuery.Compilation
import DocQuery.Store.Basic

/-!
Running compiled queries: the request is answered by a store, or by a response that is given, and
the client's steps are carried out on the documents of the answer.
-/

namespace DocQuery

structure QueryResult where
  output : Output
  bookmark : Option String
  executionStats : Option ExecutionStats
  warning : Option String

def QueryResult.encode (result : QueryResult) : Json :=
  .object ([("output", result.output.toJson)]
    ++ optionalEntry "bookmark" (result.bookmark.map .string)
    ++ optionalEntry "execution_stats" (result.executionStats.map ExecutionStats.encode)
    ++ optionalEntry "warning" (result.warning.map .string))

namespace CompiledQuery

/-- The result that the client's steps make of a response. -/
def resultOf (compiled : CompiledQuery) (naming : FieldNaming) (response : FindResponse) :
    Except Error QueryResult := do
  return {
    output := ← runSteps naming compiled.clientSteps response.docs
    bookmark := response.bookmark
    executionStats := response.executionStats
    warning := response.warning }

/-- The events before a request is sent. The last document of a list can only be found by
fetching all of them. -/
def sendingEvents (compiled : CompiledQuery) (database : String) : List Event :=
  match (compiled.clientSteps.map Step.kind).find? fun kind =>
      kind == .last || kind == .lastOrDefault with
  | some kind => [.fetchesAll kind database]
  | none => []

/-- The events from a response on. -/
def resultEvents (compiled : CompiledQuery) (naming : FieldNaming) (database : String)
    (response : FindResponse) : List Event :=
  let warned : List Event := match response.warning with
    | some warning => [.warned database warning]
    | none => []
  warned ++ .fetched response.docs.length database ::
    runEvents naming compiled.clientSteps response.docs

end CompiledQuery

namespace Compiler

/-- Runs a plan with a response that is given. -/
def resultOf (compiler : Compiler) (response : FindResponse) (plan : Plan) :
    Except Error QueryResult := do
  (← compiler.compile plan).resultOf compiler.naming response

/-- Runs a plan on a database of a store. A plan that does not compile asks nothing. -/
def execute (compiler : Compiler) (store : Store) (database : String) (plan : Plan) :
    Except Error QueryResult × Store :=
  match compiler.compile plan with
  | .error error => (.error error, store)
  | .ok compiled =>
    let (response, store) := store.answer database compiled.request
    (response >>= compiled.resultOf compiler.naming, store)

theorem fst_execute (compiler : Compiler) (store : Store) (database : String) (plan : Plan) :
    (compiler.execute store database plan).1 = compiler.compile plan >>= fun compiled =>
      store.respond database compiled.request >>= compiled.resultOf compiler.naming := by
  unfold execute
  cases compiler.compile plan <;> rfl

/-- The events of running a plan with a response that is given. -/
def resultEvents (compiler : Compiler) (response : FindResponse) (database : String)
    (plan : Plan) : List Event :=
  compiler.events plan ++
    match compiler.compile plan with
    | .error _ => []
    | .ok compiled =>
      compiled.sendingEvents database ++
        compiled.resultEvents compiler.naming database response

/-- The events of running a plan on a database of a store. -/
def executionEvents (compiler : Compiler) (store : Store) (database : String) (plan : Plan) :
    List Event :=
  compiler.events plan ++
    match compiler.compile plan with
    | .error _ => []
    | .ok compiled =>
      compiled.sendingEvents database ++ store.events database compiled.request ++
        match store.respond database compiled.request with
        | .error _ => []
        | .ok response => compiled.resultEvents compiler.naming database response

end Compiler
end DocQuery
