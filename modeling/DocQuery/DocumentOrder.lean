import DocQuery.Json.Path
import DocQuery.Plan.Basic
import DocQuery.Sorting
import DocQuery.Value.Collation

/-!
The order of documents by their fields. A document without the field comes before all that have
it, and documents that agree in every field keep their order.
-/

namespace DocQuery

/-- A field by which documents are sorted. -/
structure SortKey where
  path : List String
  order : SortOrder
deriving DecidableEq, Repr

namespace SortOrder

/-- Turns a comparison round if the order is descending. -/
def direct : SortOrder → Ordering → Ordering
  | .ascending, comparison => comparison
  | .descending, comparison => comparison.swap

end SortOrder

namespace SortKey

def compare (key : SortKey) (a b : Json) : Ordering :=
  let valueIn (document : Json) : Option Value := (document.lookup? key.path).map Value.ofJson
  key.order.direct (Value.collateOptional (valueIn a) (valueIn b))

/-- Compares by the first key that tells the documents apart. -/
def compareAll : List SortKey → Json → Json → Ordering
  | [], _, _ => .eq
  | key :: rest, a, b => (key.compare a b).then (compareAll rest a b)

end SortKey

def sortDocuments (keys : List SortKey) (documents : List Json) : List Json :=
  sortStably (fun a b => SortKey.compareAll keys a b == .lt) documents

end DocQuery
