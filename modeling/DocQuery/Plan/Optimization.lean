import DocQuery.Expression.Folding
import DocQuery.Expression.Normal
import DocQuery.Plan.Basic
import DocQuery.Plan.Classification

/-!
Turning a plan into one that a request can express.

Constants are folded. A composite operation is replaced by operations of the server and a final
reduction of what they fetch. Neighbouring filters become one conjunction, and predicates take
their normal form.
-/

namespace DocQuery

namespace Step

/-- Folds the predicate of a step. -/
def fold : Step → Except Error Step
  | .filter predicate => do return .filter (← predicate.fold)
  | .all predicate => do return .all (← predicate.fold)
  | .any (some predicate) => do return .any (some (← predicate.fold))
  | .element kind (some predicate) => do return .element kind (some (← predicate.fold))
  | other => .ok other

/-- An operation as the reduction at its end and the steps that fetch for it, the last first. -/
structure Expansion where
  reducer : Reducer
  fetching : List Step

/-- The filter of an optional predicate. -/
def filtering : Option Expression → List Step
  | some predicate => [.filter predicate]
  | none => []

/-- How an operation is made of others. The extreme of a field is the first row in its order, and
a document is looked for among no more rows than decide the question. -/
def expand : Step → Except Error Expansion
  | .aggregate .min field =>
    .ok ⟨.aggregate .min field, [.project [field], .take 1, .orderBy field .ascending]⟩
  | .aggregate .max field =>
    .ok ⟨.aggregate .max field, [.project [field], .take 1, .orderBy field .descending]⟩
  | .aggregate function field => .ok ⟨.aggregate function field, [.project [field]]⟩
  | .any predicate => .ok ⟨.any, .take 1 :: filtering predicate⟩
  | .all predicate => .ok ⟨.notAny, [.take 1, .filter predicate.negate]⟩
  | .element .first predicate => .ok ⟨.element .first, .take 1 :: filtering predicate⟩
  | .element .firstOrDefault predicate =>
    .ok ⟨.element .firstOrDefault, .take 1 :: filtering predicate⟩
  | .element .single predicate => .ok ⟨.element .single, .take 2 :: filtering predicate⟩
  | .element .singleOrDefault predicate =>
    .ok ⟨.element .singleOrDefault, .take 2 :: filtering predicate⟩
  | other => .error (.query (.unsupported other.kind))

/-- Requires that a step need not be expanded. Of the steps that fetch for an expanded one none
can be. -/
def requirePlain (table : ClassificationTable) (step : Step) : Except Error Unit := do
  match ← table.classify step.kind with
  | .composite => (step.expand).map fun _ => ()
  | _ => return ()

end Step

/-- Which of the optional changes are made. -/
structure OptimizerOptions where
  mergesFilters : Bool
  normalizes : Bool
deriving DecidableEq, Repr

instance : Inhabited OptimizerOptions := ⟨⟨true, true⟩⟩

namespace Plan

/-- Folds the constants of a plan, from the last step to the first. -/
def fold (plan : Plan) : Except Error Plan := do return ofChain (← plan.chain.mapM Step.fold)

/-- Expands the composite operations of a chain. -/
def expandComposites (table : ClassificationTable) : List Step → Except Error (List Step)
  | [] => .ok []
  | step :: input => do
    match ← table.classify step.kind with
    | .composite =>
      let expansion ← step.expand
      expansion.fetching.forM (Step.requirePlain table)
      return .reduce expansion.reducer :: expansion.fetching ++ (← expandComposites table input)
    | _ => return step :: (← expandComposites table input)

/-- A step after a merged chain. A filter joins a filter before it, which is tested first. -/
def mergeStep : Step → List Step → List Step
  | .filter outer, .filter inner :: rest =>
    .filter (.binary (.connective .and) inner outer) :: rest
  | step, merged => step :: merged

def mergeFilters (chain : List Step) : List Step := chain.foldr mergeStep []

def normalizeStep : Step → Step
  | .filter predicate => .filter predicate.normalize
  | other => other

def optimize (table : ClassificationTable) (options : OptimizerOptions) (plan : Plan) :
    Except Error Plan := do
  let expanded ← expandComposites table plan.chain
  let merged := if options.mergesFilters then mergeFilters expanded else expanded
  return ofChain (if options.normalizes then merged.map normalizeStep else merged)

end Plan
end DocQuery
