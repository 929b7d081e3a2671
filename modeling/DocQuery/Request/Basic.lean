import DocQuery.Json.Printer
import DocQuery.Json.Tree

/-!
Find requests and the responses to them. A request is an object whose keys keep their order.
-/

namespace DocQuery

open Json (Tree fields?)

structure FindRequest where
  body : Entries Json
deriving Inhabited, BEq, Repr

namespace FindRequest

def get? (request : FindRequest) (key : String) : Option Json := request.body.get? key

def selector? (request : FindRequest) : Option Json := request.get? "selector"

def toJson (request : FindRequest) : Json := .object request.body

def render (request : FindRequest) : String := request.toJson.render

/-- A request is any object. -/
def decode? (tree : Tree) : Option FindRequest :=
  match Json.ofTree? tree with
  | some (.object entries) => some ⟨entries⟩
  | _ => none

end FindRequest

/-- What a server reports about the execution of a request. -/
structure ExecutionStats where
  totalKeysExamined : Nat
  totalDocsExamined : Nat
  totalQuorumDocsExamined : Nat
  resultsReturned : Nat
  executionTimeMs : Binary64
deriving Inhabited, DecidableEq, Repr

namespace ExecutionStats

def encode (stats : ExecutionStats) : Json :=
  .object
    [("total_keys_examined", .ofNat stats.totalKeysExamined),
      ("total_docs_examined", .ofNat stats.totalDocsExamined),
      ("total_quorum_docs_examined", .ofNat stats.totalQuorumDocsExamined),
      ("results_returned", .ofNat stats.resultsReturned),
      ("execution_time_ms", .float stats.executionTimeMs)]

/-- Figures left out are zero. -/
def decode? (tree : Tree) : Option ExecutionStats := do
  let names := ["total_keys_examined", "total_docs_examined", "total_quorum_docs_examined",
    "results_returned", "execution_time_ms"]
  let fields ← fields? (names.map (·, .optional)) tree
  let count (name : String) : Option Nat :=
    match fields.get? name with
    | some value => value.asNatBelow? natBound64
    | none => some 0
  let time ← match fields.get? "execution_time_ms" with
    | some value => value.asNumber?
    | none => some .zero
  return ⟨← count "total_keys_examined", ← count "total_docs_examined",
    ← count "total_quorum_docs_examined", ← count "results_returned", time⟩

end ExecutionStats

structure FindResponse where
  docs : List Json
  bookmark : Option String
  executionStats : Option ExecutionStats
  warning : Option String
deriving Inhabited, BEq, Repr

/-- The entry of an optional field, which is left out if there is no value. -/
def optionalEntry (name : String) (value : Option Json) : Entries Json :=
  match value with
  | some value => [(name, value)]
  | none => []

namespace FindResponse

def encode (response : FindResponse) : Json :=
  .object ([("docs", .array response.docs)]
    ++ optionalEntry "bookmark" (response.bookmark.map .string)
    ++ optionalEntry "execution_stats" (response.executionStats.map ExecutionStats.encode)
    ++ optionalEntry "warning" (response.warning.map .string))

/-- The value of a field that may be left out or null. -/
def optionalField? {α : Type} (fields : Json.Fields Tree) (name : String)
    (read : Tree → Option α) : Option (Option α) :=
  match fields.get? name with
  | some tree => tree.optional? read
  | none => some none

def decode? (tree : Tree) : Option FindResponse := do
  let fields ← fields? [("docs", .required), ("bookmark", .optional),
    ("execution_stats", .optional), ("warning", .optional)] tree
  let docs ← (← fields.get? "docs").listOf? Json.ofTree?
  return ⟨docs, ← optionalField? fields "bookmark" Tree.asString?,
    ← optionalField? fields "execution_stats" ExecutionStats.decode?,
    ← optionalField? fields "warning" Tree.asString?⟩

end FindResponse
end DocQuery
