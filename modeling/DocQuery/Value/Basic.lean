import DocQuery.Json.Printer

/-!
Values: what the predicates of a query compute with. A value is a document whose integers have
64 bits. A document becomes a value and back; an integer too large for 64 bits becomes a float.
-/

namespace DocQuery

inductive Value where
  | null
  | bool (b : Bool)
  | int (i : Int64)
  | float (x : Binary64)
  | string (s : String)
  | list (items : List Value)
  | map (entries : List (String × Value))
deriving Inhabited, BEq, Repr

namespace Value

mutual

def ofJson : Json → Value
  | .null => .null
  | .bool b => .bool b
  | .integer i => if fitsInt64 i then .int (Int64.ofInt i) else .float (.ofInt i)
  | .float x => .float x
  | .string s => .string s
  | .array items => .list (ofItems items)
  | .object entries => .map (ofEntries entries)
termination_by structural document => document

def ofItems : List Json → List Value
  | [] => []
  | item :: rest => ofJson item :: ofItems rest
termination_by structural items => items

def ofEntries : List (String × Json) → List (String × Value)
  | [] => []
  | (key, value) :: rest => (key, ofJson value) :: ofEntries rest
termination_by structural entries => entries

end

mutual

/-- The document of a value. A number that is not finite has none and becomes null. -/
def toJson : Value → Json
  | .null => .null
  | .bool b => .bool b
  | .int i => .integer i.toInt
  | .float x => if x.isFinite then .float x else .null
  | .string s => .string s
  | .list items => .array (toItems items)
  | .map entries => .object (toEntries entries)
termination_by structural value => value

def toItems : List Value → List Json
  | [] => []
  | item :: rest => toJson item :: toItems rest
termination_by structural items => items

def toEntries : List (String × Value) → List (String × Json)
  | [] => []
  | (key, value) :: rest => (key, toJson value) :: toEntries rest
termination_by structural entries => entries

end

/-- The text of a value is that of its document. -/
def render (value : Value) : String := value.toJson.render

/-- The name of a value's type in messages. -/
def typeName : Value → String
  | .null => "null"
  | .bool _ => "bool"
  | .int _ => "int64"
  | .float _ => "float64"
  | .string _ => "string"
  | .list _ => "list"
  | .map _ => "map"

def jsonType : Value → JsonType
  | .null => .null
  | .bool _ => .boolean
  | .int _ | .float _ => .number
  | .string _ => .string
  | .list _ => .array
  | .map _ => .object

def isNull : Value → Bool
  | .null => true
  | _ => false

def asBool? : Value → Option Bool
  | .bool b => some b
  | _ => none

def asInt? : Value → Option Int64
  | .int i => some i
  | _ => none

/-- Any number as a float. -/
def asFloat? : Value → Option Binary64
  | .int i => some (.ofInt i.toInt)
  | .float x => some x
  | _ => none

def asString? : Value → Option String
  | .string s => some s
  | _ => none

def asList? : Value → Option (List Value)
  | .list items => some items
  | _ => none

def get? : Value → String → Option Value
  | .map entries, key => Entries.get? entries key
  | _, _ => none

/-- Follows a path of keys. -/
def lookup? (value : Value) : List String → Option Value
  | [] => some value
  | key :: rest => (value.get? key).bind (·.lookup? rest)

/-- Only the boolean true holds. -/
def isTrue : Value → Bool
  | .bool b => b
  | _ => false

/-- The items of a list; any other value stands for itself alone. -/
def candidates : Value → List Value
  | .list items => items
  | single => [single]

mutual

/-- Sameness of values: an integer differs from a float, and the order of keys does not count. -/
def same : Value → Value → Bool
  | .null, .null => true
  | .bool a, .bool b => a == b
  | .int a, .int b => a == b
  | .float a, .float b => a.equals b
  | .string a, .string b => a == b
  | .list a, .list b => sameItems a b
  | .map a, .map b => a.length == b.length && sameEntries a b
  | _, _ => false
termination_by structural value => value

def sameItems : List Value → List Value → Bool
  | [], [] => true
  | a :: as, b :: bs => same a b && sameItems as bs
  | _, _ => false
termination_by structural items => items

/-- Whether each entry has an entry with the same key and value in a list. -/
def sameEntries : List (String × Value) → List (String × Value) → Bool
  | [], _ => true
  | (key, value) :: rest, others =>
    (match Entries.get? others key with
      | some other => same value other
      | none => false) && sameEntries rest others
termination_by structural entries => entries

end

end Value
end DocQuery
