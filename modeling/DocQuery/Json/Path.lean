import DocQuery.Json.Basic

/-!
Paths into documents: the value that a path of keys leads to, and the part of a document that a
list of paths keeps.
-/

namespace DocQuery.Json

/-- The value at the end of a path, if every key on the way belongs to an object that has it. -/
def lookup? (document : Json) : List String → Option Json
  | [] => some document
  | key :: rest => (document.get? key).bind (·.lookup? rest)

/-- Puts a value at the end of a path and makes the objects on the way. What is there already and
is no object is left alone. -/
def insertPath (value : Json) : List String → Entries Json → Entries Json
  | [], entries => entries
  | [key], entries => entries.insert key value
  | key :: rest, entries =>
    match entries.get? key with
    | none => entries.insert key (.object (insertPath value rest []))
    | some (.object inner) => entries.insert key (.object (insertPath value rest inner))
    | some _ => entries

/-- One path more of the kept part of a document. A path that leads nowhere adds nothing. -/
def keepPath (document : Json) (kept : Entries Json) (path : List String) : Entries Json :=
  match document.lookup? path with
  | some value => insertPath value path kept
  | none => kept

/-- The part of a document that lies on one of the paths, nested as in the document. -/
def project (document : Json) (paths : List (List String)) : Json :=
  .object (paths.foldl (keepPath document) [])

end DocQuery.Json
