/-!
Paths of member names inside a document, written with dots between the segments.
-/

namespace DocQuery

/-- Cuts a text at every dot; there is always one piece more than there are dots. -/
def splitDots (text : List Char) : List (List Char) :=
  match text with
  | [] => [[]]
  | c :: rest =>
    if c = '.' then [] :: splitDots rest
    else
      match splitDots rest with
      | piece :: pieces => (c :: piece) :: pieces
      | [] => [[c]]

/-- The keys that a dotted name on the wire leads through. -/
def wireKeys (name : String) : List String := (splitDots name.toList).map String.ofList

structure FieldPath where
  segments : List String
deriving DecidableEq, Inhabited, Repr

namespace FieldPath

/-- The path that a text writes. Empty segments are dropped. -/
def parse (text : String) : FieldPath := ⟨(wireKeys text).filter (· ≠ "")⟩

def child (path : FieldPath) (member : String) : FieldPath := ⟨path.segments ++ [member]⟩

/-- The path that goes on with another one. -/
def append (path rest : FieldPath) : FieldPath := ⟨path.segments ++ rest.segments⟩

def isEmpty (path : FieldPath) : Bool := path.segments.isEmpty

def render (path : FieldPath) : String := ".".intercalate path.segments

end FieldPath
end DocQuery
