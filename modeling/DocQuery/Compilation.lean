import DocQuery.Execution.Steps
import DocQuery.Plan.Codec
import DocQuery.Plan.Optimization
import DocQuery.Request.Draft

/-!
Compiling a plan. Its constants are folded and its composite operations expanded; the operations at
its end that are left to the client are taken off; the rest becomes a find request.
-/

namespace DocQuery

/-- A find request and the steps to carry out on the documents that it finds. -/
structure CompiledQuery where
  request : FindRequest
  clientSteps : List Step
deriving BEq, Repr

def CompiledQuery.encode (compiled : CompiledQuery) : Json :=
  .object [("request", compiled.request.toJson),
    ("client_steps", Plan.encodeSteps compiled.clientSteps)]

namespace ClassificationTable

/-- Takes the steps left to the client off an operator, from the outside. They come out in the order in
which they are carried out. -/
@[semireducible] def splitOperator (table : ClassificationTable) (operator : Operator) :
    Except Error (Operator × List Step) :=
  match operator.kind? with
  | none => .ok (operator, [])
  | some kind => do
    match ← table.classify kind with
    | .native => return (operator, [])
    | .composite => .error (.internal (.compositeLeft kind))
    | .clientOnly =>
      match _ : operator.unwrapStep? with
      | none => .error (.internal (.noInput kind))
      | some (step, input) =>
        let (native, client) ← table.splitOperator input
        return (native, client ++ [step])
termination_by operator.depth
decreasing_by exact Operator.depth_of_unwrapStep? ‹_›

def requireNativeKind (table : ClassificationTable) (kind : OperationKind) : Except Error Unit := do
  if (← table.classify kind) ≠ .native then .error (.query (.notLast kind)) else return ()

/-- Checks that the server carries out an operator and all inputs inside it. -/
@[semireducible] def requireNative (table : ClassificationTable) (operator : Operator) :
    Except Error Unit := do
  operator.kind?.forM table.requireNativeKind
  match _ : operator.input? with
  | none => return ()
  | some input => table.requireNative input
termination_by operator.depth
decreasing_by exact Operator.depth_of_input? ‹_›

/-- The operator for the server and the steps for the client. -/
def split (table : ClassificationTable) (root : Operator) :
    Except Error (Operator × List Step) := do
  let (native, client) ← table.splitOperator root
  table.requireNative native
  checkSteps false client
  return (native, client)

end ClassificationTable

/-- What compiling depends on besides the plan. A discriminator restricts every query to the
documents that carry it. -/
structure Compiler where
  naming : FieldNaming
  table : ClassificationTable
  discriminator : Option String
deriving Inhabited

namespace Compiler

def compile (compiler : Compiler) (plan : Plan) : Except Error CompiledQuery := do
  let optimized ← (← plan.fold).optimize compiler.table default
  let (native, client) ← compiler.table.split optimized.root
  return ⟨← FindRequest.ofChain compiler.naming compiler.discriminator native.chain, client⟩

end Compiler

/-- The events of folding a step. -/
def Step.foldEvents (step : Step) : List Event :=
  match step.predicate? with
  | some predicate => predicate.foldedValues.map .folded
  | none => []

namespace Plan

/-- The events of folding a chain, up to the first step that fails. -/
def foldEventsOf : List Step → List Event
  | [] => []
  | step :: input =>
    match step.fold with
    | .ok _ => step.foldEvents ++ foldEventsOf input
    | .error _ => step.foldEvents

def foldEvents (plan : Plan) : List Event := foldEventsOf plan.chain

/-- The events of the steps that fetch for an expanded one, up to the first that fails. -/
def fetchingEvents (table : ClassificationTable) : List Step → List Event
  | [] => []
  | step :: rest =>
    match table.classOf step.kind with
    | some .composite => [.expanding step.kind]
    | some _ => fetchingEvents table rest
    | none => []

def expansionEvents (table : ClassificationTable) : List Step → List Event
  | [] => []
  | step :: input =>
    match table.classOf step.kind with
    | some .composite =>
      match step.expand with
      | .ok expansion =>
        .expanding step.kind ::
          match expansion.fetching.forM (Step.requirePlain table) with
          | .ok () => expansionEvents table input
          | .error _ => fetchingEvents table expansion.fetching
      | .error _ => [.expanding step.kind]
    | some _ => expansionEvents table input
    | none => []

/-- The events of merging filters: one for every filter next to another. -/
def mergingEvents (chain : List Step) : List Event :=
  List.replicate (chain.length - (mergeFilters chain).length) .mergingFilters

def optimizationEvents (table : ClassificationTable) (options : OptimizerOptions) (plan : Plan) :
    List Event :=
  expansionEvents table plan.chain ++
    match expandComposites table plan.chain with
    | .ok expanded => if options.mergesFilters then mergingEvents expanded else []
    | .error _ => []

end Plan

namespace ClassificationTable

/-- The events of taking steps off the end of a chain. -/
def splitEvents (table : ClassificationTable) : List Step → List Event
  | [] => []
  | step :: input =>
    match table.classOf step.kind with
    | some .clientOnly => .leftToClient step.kind :: table.splitEvents input
    | _ => []

end ClassificationTable

namespace Compiler

/-- The events of compiling a plan, up to where it fails. -/
def events (compiler : Compiler) (plan : Plan) : List Event :=
  plan.foldEvents ++
    match plan.fold with
    | .error _ => []
    | .ok folded =>
      folded.optimizationEvents compiler.table default ++
        match folded.optimize compiler.table default with
        | .error _ => []
        | .ok optimized =>
          compiler.table.splitEvents optimized.chain ++
            match compiler.compile plan with
            | .ok compiled => [.compiled compiled.request]
            | .error _ => []

end Compiler
end DocQuery
