import DocQuery.Json.Printer
import DocQuery.Plan.Basic
import DocQuery.Error

/-!
What a query gives: documents, one document or none, a value, or an answer.
-/

namespace DocQuery

inductive Output where
  | documents (items : List Json)
  | document (found : Option Json)
  | scalar (value : Json)
  | boolean (answer : Bool)
deriving BEq, Inhabited, Repr

namespace Output

def shape : Output → String
  | .documents _ => "documents"
  | .document _ => "document"
  | .scalar _ => "scalar"
  | .boolean _ => "boolean"

/-- The document that shows an output. Its shape is not shown. -/
def toJson : Output → Json
  | .documents items => .array items
  | .document found => found.getD .null
  | .scalar value => value
  | .boolean answer => .bool answer

end Output

/-- The document of a kind among those that are left. -/
def ElementKind.pick (kind : ElementKind) (documents : List Json) : Except Error (Option Json) :=
  match kind with
  | .first | .firstOrDefault => .ok documents.head?
  | .last | .lastOrDefault => .ok documents.getLast?
  | .single | .singleOrDefault =>
    if 1 < documents.length then .error .moreThanOneElement else .ok documents.head?

/-- The document of a kind as an output. There has to be one unless the kind allows for none. -/
def ElementKind.select (kind : ElementKind) (documents : List Json) : Except Error Output := do
  match ← kind.pick documents with
  | some found => return .document (some found)
  | none => if kind.orDefault then return .document none else .error .noElements

end DocQuery
