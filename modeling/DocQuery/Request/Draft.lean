import DocQuery.Plan.Basic
import DocQuery.Request.Basic
import DocQuery.Request.Selector

/-!
The find request of a chain of operations.

The keys of a request stand in the order in which the operations that give them first occur in the
chain; a selector that no filter gives stands last. A request filters and sorts before it skips and
limits, so an operation of the former kind cannot follow one of the latter.
-/

namespace DocQuery

/-- The field that says to which part of a shared database a document belongs. -/
def discriminatorField : String := "split_discriminator"

/-- A request under construction. -/
structure RequestDraft where
  /-- The keys in their order. Those of the parts below have no value yet. -/
  body : Entries Json
  clauses : List Json
  sort : List (String × SortOrder)
  /-- How many documents to skip, as a machine word. -/
  skip : UInt64
  limit : Option Nat
  /-- Whether documents have been skipped or limited. -/
  paginated : Bool

namespace RequestDraft

def empty : RequestDraft := ⟨[], [], [], 0, none, false⟩

/-- Gives a key its place, if it has none yet. -/
def reserve (draft : RequestDraft) (key : String) : RequestDraft :=
  if draft.body.contains key then draft
  else { draft with body := draft.body.insert key .null }

def put (draft : RequestDraft) (key : String) (value : Json) : RequestDraft :=
  { draft with body := draft.body.insert key value }

def requireUnpaginated (draft : RequestDraft) (operation : String) : Except Error Unit :=
  if draft.paginated then .error (.query (.afterPagination operation)) else .ok ()

def addFilter (draft : RequestDraft) (naming : FieldNaming) (predicate : Expression) :
    Except Error RequestDraft := do
  draft.requireUnpaginated "Where"
  let clause ← predicate.selector naming
  let draft := draft.reserve "selector"
  return { draft with clauses := draft.clauses ++ [clause] }

/-- Sorts by a field alone. -/
def setOrder (draft : RequestDraft) (field : String) (order : SortOrder) :
    Except Error RequestDraft := do
  draft.requireUnpaginated "OrderBy"
  return { draft.reserve "sort" with sort := [(field, order)] }

/-- Sorts by one field more. -/
def addOrder (draft : RequestDraft) (field : String) (order : SortOrder) :
    Except Error RequestDraft := do
  draft.requireUnpaginated "ThenBy"
  if draft.sort.isEmpty then .error (.query .thenByWithoutOrderBy)
  else return { draft with sort := draft.sort ++ [(field, order)] }

/-- Skips further documents, which counts against the limit. The sum of what is skipped wraps around
where a word does not hold it. -/
def addSkip (draft : RequestDraft) (count : Nat) : RequestDraft :=
  { draft.reserve "skip" with
    skip := draft.skip + .ofNat count
    limit := draft.limit.map (· - count)
    paginated := true }

def addLimit (draft : RequestDraft) (count : Nat) : RequestDraft :=
  { draft.reserve "limit" with
    limit := some (match draft.limit with
      | some limit => min limit count
      | none => count)
    paginated := true }

/-- An index is named by its design document, and by its own name where the document has several. -/
def setIndex (draft : RequestDraft) : List String → Except Error RequestDraft
  | [design] => .ok (draft.put "use_index" (.string design))
  | [design, name] => .ok (draft.put "use_index" (.array [.string design, .string name]))
  | names => .error (.query (.indexArity names.length))

/-- The draft after one operation more. -/
def addStep (naming : FieldNaming) (draft : RequestDraft) (step : Step) :
    Except Error RequestDraft :=
  match step with
  | .filter predicate => draft.addFilter naming predicate
  | .orderBy field order => draft.setOrder (naming.resolve field) order
  | .thenBy field order => draft.addOrder (naming.resolve field) order
  | .skip count => .ok (draft.addSkip count)
  | .take count => .ok (draft.addLimit count)
  | .project fields =>
    .ok (draft.put "fields" (.array (fields.map fun field => .string (naming.resolve field))))
  | .useBookmark bookmark => .ok (draft.put "bookmark" (.string bookmark))
  | .readQuorum quorum => .ok (draft.put "r" (.ofNat quorum))
  | .skipIndexUpdate => .ok (draft.put "update" (.bool false))
  | .fromStable => .ok (draft.put "stable" (.bool true))
  | .useIndex index => draft.setIndex index
  | .includeExecutionStats => .ok (draft.put "execution_stats" (.bool true))
  | .includeConflicts => .ok (draft.put "conflicts" (.bool true))
  | .any _ | .all _ | .element .. | .aggregate .. | .reduce _ =>
    .error (.query (.unsupported step.kind))

/-- The draft of a chain, which lists the last operation first. -/
def ofChain (naming : FieldNaming) : List Step → Except Error RequestDraft
  | [] => .ok empty
  | step :: input => do addStep naming (← ofChain naming input) step

/-- An entry of the sort list. Ascending is what a bare name means. -/
def sortEntry : String × SortOrder → Json
  | (field, .ascending) => .string field
  | (field, .descending) => single field (.string "desc")

/-- Servers sort by several fields in one direction only. -/
def finishSort (draft : RequestDraft) : Except Error RequestDraft :=
  match draft.sort with
  | [] => .ok draft
  | (_, order) :: _ =>
    if draft.sort.all (·.2 == order) then .ok (draft.put "sort" (.array (draft.sort.map sortEntry)))
    else .error (.query .mixedDirections)

def finishSkip (draft : RequestDraft) : RequestDraft :=
  if draft.body.contains "skip" then draft.put "skip" (.ofNat draft.skip.toNat) else draft

def finishLimit (draft : RequestDraft) : RequestDraft :=
  match draft.limit with
  | some limit => draft.put "limit" (.ofNat limit)
  | none => draft

/-- The clauses of the selector. The discriminator comes before those of the filters. -/
def selectorClauses (draft : RequestDraft) (discriminator : Option String) : List Json :=
  match discriminator with
  | some name => single discriminatorField (.string name) :: draft.clauses
  | none => draft.clauses

def finish (draft : RequestDraft) (discriminator : Option String) : Except Error FindRequest := do
  let draft := (← draft.finishSort).finishSkip.finishLimit
  return ⟨(draft.put "selector" (conjunction (draft.selectorClauses discriminator))).body⟩

end RequestDraft

/-- The request of a chain. -/
def FindRequest.ofChain (naming : FieldNaming) (discriminator : Option String)
    (chain : List Step) : Except Error FindRequest := do
  (← RequestDraft.ofChain naming chain).finish discriminator

end DocQuery
