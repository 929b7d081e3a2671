import DocQuery.Error

/-!
Who carries out an operation: the server, as part of its request; the client, on the fetched
documents; or both, after the operation has been expanded into others. Servers that lack an
operation have tables without it.
-/

namespace DocQuery

inductive Classification where
  | native | composite | clientOnly
deriving DecidableEq, Inhabited, Repr

namespace Classification

def title : Classification → String
  | .native => "native"
  | .composite => "composite"
  | .clientOnly => "client-only"

def name : Classification → String
  | .native => "native"
  | .composite => "composite"
  | .clientOnly => "client_only"

def ofName? (name : String) : Option Classification :=
  [Classification.native, .composite, .clientOnly].find? (·.name == name)

end Classification

/-- The class of an operation on a server that has them all. -/
def OperationKind.standardClass : OperationKind → Classification
  | .min | .max | .sum | .average | .any | .all
  | .first | .firstOrDefault | .single | .singleOrDefault => .composite
  | .last | .lastOrDefault | .reduce => .clientOnly
  | _ => .native

/-- The classes of the operations that a server knows. -/
structure ClassificationTable where
  classOf : OperationKind → Option Classification

namespace ClassificationTable

def standard : ClassificationTable := ⟨fun kind => some kind.standardClass⟩

instance : Inhabited ClassificationTable := ⟨standard⟩

def empty : ClassificationTable := ⟨fun _ => none⟩

def insert (table : ClassificationTable) (kind : OperationKind) (classification : Classification) :
    ClassificationTable :=
  ⟨fun other => if other = kind then some classification else table.classOf other⟩

def erase (table : ClassificationTable) (kind : OperationKind) : ClassificationTable :=
  ⟨fun other => if other = kind then none else table.classOf other⟩

/-- The number of operations listed. -/
def size (table : ClassificationTable) : Nat :=
  (OperationKind.every.filter fun kind => (table.classOf kind).isSome).length

/-- Whether two tables class every operation alike. -/
def agrees (table other : ClassificationTable) : Bool :=
  OperationKind.every.all fun kind => table.classOf kind == other.classOf kind

def classify (table : ClassificationTable) (kind : OperationKind) : Except Error Classification :=
  match table.classOf kind with
  | some classification => .ok classification
  | none => .error (.query (.unsupported kind))

end ClassificationTable
end DocQuery
