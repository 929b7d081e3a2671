import DocQuery.Binary64.Basic
import DocQuery.WordRange

/-!
Documents. A number is an integer or a binary64 number; an object keeps its keys in order.

Objects are lists of entries. The operations on entries never put a key twice.
-/

namespace DocQuery

/-- A document or a part of one. -/
inductive Json where
  | null
  | bool (b : Bool)
  | integer (i : Int)
  | float (x : Binary64)
  | string (s : String)
  | array (items : List Json)
  | object (entries : List (String × Json))
deriving Inhabited, BEq, Repr

/-- The names that selectors use for the types of documents. -/
inductive JsonType where
  | null | boolean | number | string | array | object
deriving DecidableEq, Inhabited, Repr

def JsonType.name : JsonType → String
  | .null => "null"
  | .boolean => "boolean"
  | .number => "number"
  | .string => "string"
  | .array => "array"
  | .object => "object"

def JsonType.all : List JsonType := [.null, .boolean, .number, .string, .array, .object]

def JsonType.ofName? (name : String) : Option JsonType :=
  JsonType.all.find? (·.name == name)

/-- The entries of an object, whatever its values are. -/
abbrev Entries (α : Type) := List (String × α)

namespace Entries

variable {α : Type}

/-- The value of the first entry with a key. -/
def get? : Entries α → String → Option α
  | [], _ => none
  | (other, value) :: rest, key => if other = key then some value else get? rest key

def contains (entries : Entries α) (key : String) : Bool := (entries.get? key).isSome

/-- Gives a key a value: in place if the key is there, else at the end. -/
def insert (key : String) (value : α) : Entries α → Entries α
  | [] => [(key, value)]
  | (other, old) :: rest =>
    if other = key then (other, value) :: rest else (other, old) :: insert key value rest

/-- The entries of a written list, in which the last value of a key counts, at its first place. -/
def ofList (entries : List (String × α)) : Entries α :=
  entries.foldl (fun known entry => Entries.insert entry.1 entry.2 known) []

@[simp] theorem get?_nil (key : String) : get? ([] : Entries α) key = none := rfl

theorem get?_insert (entries : Entries α) (key other : String) (value : α) :
    (insert key value entries).get? other = if key = other then some value else entries.get? other := by
  induction entries with
  | nil => simp [insert, get?]
  | cons entry rest ih =>
    obtain ⟨name, old⟩ := entry
    by_cases same : name = key
    · subst same
      by_cases found : name = other <;> simp [insert, get?, found]
    · by_cases found : name = other
      · subst found
        simp [insert, get?, same, Ne.symm same]
      · simp [insert, get?, same, found, ih]

end Entries

namespace Json

def ofNat (n : Nat) : Json := .integer n

def get? : Json → String → Option Json
  | .object entries, key => Entries.get? entries key
  | _, _ => none

def asString? : Json → Option String
  | .string s => some s
  | _ => none

def asBool? : Json → Option Bool
  | .bool b => some b
  | _ => none

/-- The integers that fit in 64 bits with a sign. -/
def asInt64? : Json → Option Int
  | .integer i => if fitsInt64 i then some i else none
  | _ => none

/-- The natural numbers that fit in 64 bits. -/
def asNat64? : Json → Option Nat
  | .integer i => if 0 ≤ i ∧ i.toNat < natBound64 then some i.toNat else none
  | _ => none

/-- Any number as a float. -/
def asFloat? : Json → Option Binary64
  | .integer i => some (.ofInt i)
  | .float x => some x
  | _ => none

def asArray? : Json → Option (List Json)
  | .array items => some items
  | _ => none

def asObject? : Json → Option (Entries Json)
  | .object entries => some entries
  | _ => none

def isNull : Json → Bool
  | .null => true
  | _ => false

theorem asInt64?_eq_some {document : Json} {i : Int} :
    document.asInt64? = some i ↔ document = .integer i ∧ fitsInt64 i := by
  cases document with
  | integer j =>
    simp only [asInt64?, Option.ite_none_right_eq_some, Option.some.injEq, integer.injEq]
    constructor
    · rintro ⟨fits, rfl⟩
      exact ⟨rfl, fits⟩
    · rintro ⟨rfl, fits⟩
      exact ⟨fits, rfl⟩
  | _ => simp [asInt64?]

end Json
end DocQuery
