import DocQuery.Json.Basic

/-!
Documents as written. A tree keeps every entry of an object, repeated keys included, and the parts
that follow the grammar but denote nothing: a number too large, half of a surrogate pair, an
object nested too deeply. A reader of records may skip such a part; a document may not hold it.
-/

namespace DocQuery.Json

inductive Tree where
  | null
  | bool (b : Bool)
  | integer (i : Int)
  | float (x : Binary64)
  | string (s : String)
  | array (items : List Tree)
  | object (entries : List (Option String × Tree))
  | unreadable
deriving Inhabited

mutual

/-- The document that a tree denotes. Of a repeated key the last value counts, at its first place. -/
def ofTree? : Tree → Option Json
  | .null => some .null
  | .bool b => some (.bool b)
  | .integer i => some (.integer i)
  | .float x => some (.float x)
  | .string s => some (.string s)
  | .array items => (itemsOfTrees? items).map .array
  | .object entries => (entriesOfTrees? entries).map fun read => .object (Entries.ofList read)
  | .unreadable => none
termination_by structural tree => tree

def itemsOfTrees? : List Tree → Option (List Json)
  | [] => some []
  | item :: rest => do
    let first ← ofTree? item
    return first :: (← itemsOfTrees? rest)
termination_by structural trees => trees

def entriesOfTrees? : List (Option String × Tree) → Option (List (String × Json))
  | [] => some []
  | (key, tree) :: rest => do
    let name ← key
    let value ← ofTree? tree
    return (name, value) :: (← entriesOfTrees? rest)
termination_by structural entries => entries

end

mutual

/-- A document as its own tree. -/
def toTree : Json → Tree
  | .null => .null
  | .bool b => .bool b
  | .integer i => .integer i
  | .float x => .float x
  | .string s => .string s
  | .array items => .array (treesOfItems items)
  | .object entries => .object (treesOfEntries entries)
termination_by structural document => document

def treesOfItems : List Json → List Tree
  | [] => []
  | item :: rest => toTree item :: treesOfItems rest
termination_by structural items => items

def treesOfEntries : List (String × Json) → List (Option String × Tree)
  | [] => []
  | (key, value) :: rest => (some key, toTree value) :: treesOfEntries rest
termination_by structural entries => entries

end

/-- Whether a record may leave a field out, and what the field then holds is for the record. -/
inductive FieldRule where
  | required
  | optional
deriving DecidableEq, Repr

/-- The fields of a record, in the order of its names. A field left out holds nothing. -/
abbrev Fields (α : Type) := List (String × Option α)

def Fields.get? {α : Type} (fields : Fields α) (name : String) : Option α :=
  (List.lookup name fields).join

/-- The fields of a record written as an object: names it does not know are skipped, a name it
knows may stand once. -/
def fieldsOfEntries? {α : Type} (rules : List (String × FieldRule))
    (entries : List (Option String × α)) : Option (Fields α) := do
  let named ← entries.mapM fun entry => entry.1.map fun key => (key, entry.2)
  rules.mapM fun (name, rule) =>
    match named.filter (·.1 == name), rule with
    | [], .optional => some (name, none)
    | [], .required => none
    | [entry], _ => some (name, some entry.2)
    | _, _ => none

/-- The fields of a record written as an array in the order of its names. -/
def fieldsOfItems? {α : Type} : List (String × FieldRule) → List α → Option (Fields α)
  | [], [] => some []
  | [], _ :: _ => none
  | (name, .optional) :: rules, [] => (fieldsOfItems? rules []).map ((name, none) :: ·)
  | (_, .required) :: _, [] => none
  | (name, _) :: rules, item :: items =>
    (fieldsOfItems? rules items).map ((name, some item) :: ·)

/-- The fields of a record written as an object or as an array. -/
def fields? (rules : List (String × FieldRule)) : Tree → Option (Fields Tree)
  | .object entries => fieldsOfEntries? rules entries
  | .array items => fieldsOfItems? rules items
  | _ => none

/-- A choice among named forms: a name alone, or an object with the name and the form's body. -/
def choice? : Tree → Option (String × Option Tree)
  | .string name => some (name, none)
  | .object [(some name, body)] => some (name, some body)
  | _ => none

/-- A choice among names without a body. The object form holds null. -/
def plainChoice? (tree : Tree) : Option String :=
  match choice? tree with
  | some (name, none) => some name
  | some (name, some .null) => some name
  | _ => none

namespace Tree

def asString? : Tree → Option String
  | .string s => some s
  | _ => none

def asBool? : Tree → Option Bool
  | .bool b => some b
  | _ => none

/-- The natural numbers below a bound. -/
def asNatBelow? (bound : Nat) : Tree → Option Nat
  | .integer i => if 0 ≤ i ∧ i < bound then some i.toNat else none
  | _ => none

def asNumber? : Tree → Option Binary64
  | .integer i => some (.ofInt i)
  | .float x => some x
  | _ => none

def asArray? : Tree → Option (List Tree)
  | .array items => some items
  | _ => none

/-- A list of which each item is read. -/
def listOf? {α : Type} (read : Tree → Option α) (tree : Tree) : Option (List α) :=
  tree.asArray?.bind (·.mapM read)

/-- A value that may be null. -/
def optional? {α : Type} (read : Tree → Option α) : Tree → Option (Option α)
  | .null => some none
  | tree => (read tree).map some

end Tree
end DocQuery.Json
