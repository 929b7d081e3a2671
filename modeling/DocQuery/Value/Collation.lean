import DocQuery.Value.Basic

/-!
The order of values in a document database: null, false, true, numbers, strings, lists, maps.

Two integers compare exactly, any other two numbers as floats, strings by code points, lists and
maps entry by entry and then by length. A number that is not a number equals every number.
-/

namespace DocQuery.Value

/-- The place of a value's type in the order. -/
def rank : Value → Nat
  | .null => 0
  | .bool _ => 1
  | .int _ | .float _ => 2
  | .string _ => 3
  | .list _ => 4
  | .map _ => 5

def compareFloats (a b : Binary64) : Ordering := (a.compare? b).getD .eq

mutual

def collate : Value → Value → Ordering
  | .bool a, .bool b => compare a b
  | .int a, .int b => compare a.toInt b.toInt
  | .int a, .float b => compareFloats (.ofInt a.toInt) b
  | .float a, .int b => compareFloats a (.ofInt b.toInt)
  | .float a, .float b => compareFloats a b
  | .string a, .string b => compare a b
  | .list a, .list b => collateItems a b
  | .map a, .map b => collateEntries a b
  | a, b => compare a.rank b.rank
termination_by structural value => value

def collateItems : List Value → List Value → Ordering
  | [], [] => .eq
  | [], _ :: _ => .lt
  | _ :: _, [] => .gt
  | a :: as, b :: bs => (collate a b).then (collateItems as bs)
termination_by structural items => items

/-- Entries compare by key, then by value. -/
def collateEntries : List (String × Value) → List (String × Value) → Ordering
  | [], [] => .eq
  | [], _ :: _ => .lt
  | _ :: _, [] => .gt
  | (key, a) :: as, (other, b) :: bs =>
    ((compare key other).then (collate a b)).then (collateEntries as bs)
termination_by structural entries => entries

end

/-- Equality in the order of values: an integer equals the float of the same number. -/
def collatesEqual (a b : Value) : Bool := collate a b == .eq

/-- A value that is absent comes before every other. -/
def collateOptional : Option Value → Option Value → Ordering
  | none, none => .eq
  | none, some _ => .lt
  | some _, none => .gt
  | some a, some b => collate a b

/-- Whether a value, or an element of it if it is a list, equals one of the candidates. -/
def memberOf (value : Value) (candidates : List Value) : Bool :=
  value.candidates.any fun element => candidates.any fun candidate => candidate.collatesEqual element

/-- Whether a list holds each of the needles. -/
def holdsAll (items needles : List Value) : Bool :=
  needles.all fun needle => items.any fun item => item.collatesEqual needle

end DocQuery.Value
