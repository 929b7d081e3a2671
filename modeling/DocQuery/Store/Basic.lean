import DocQuery.Event
import DocQuery.Store.Answer

/-!
Databases held in memory. A store answers find requests, records every request it is asked, and can
be told to fail the next one.
-/

namespace DocQuery

structure Store where
  databases : Entries (List Json)
  /-- The requests asked so far with their databases, the first one first. -/
  requests : List (String × FindRequest)
  /-- The warning that goes with every answer. -/
  warning : Option String
  /-- The failure of the next request. -/
  failure : Option DatabaseError

namespace Store

def empty : Store := ⟨[], [], none, none⟩

/-- Gives a database its documents in place of those it had. -/
def withDatabase (store : Store) (name : String) (documents : List Json) : Store :=
  { store with databases := store.databases.insert name documents }

def withWarning (store : Store) (warning : String) : Store := { store with warning := some warning }

/-- The documents of a database; none if there is no such database. -/
def documents (store : Store) (name : String) : List Json := (store.databases.get? name).getD []

/-- Adds a document at the end of a database, which need not exist before. -/
def insert (store : Store) (name : String) (document : Json) : Store :=
  store.withDatabase name (store.documents name ++ [document])

def failNext (store : Store) (failure : DatabaseError) : Store :=
  { store with failure := some failure }

def clearRequests (store : Store) : Store := { store with requests := [] }

def lastRequest? (store : Store) : Option (String × FindRequest) := store.requests.getLast?

/-- The failure to find a database. -/
def noDatabase : DatabaseError := .ofResponse 404 "not_found" "Database does not exist."

/-- The response to a request: the failure that is due, or the answer of the database. -/
def respond (store : Store) (database : String) (request : FindRequest) :
    Except Error FindResponse :=
  match store.failure with
  | some failure => .error (.database failure)
  | none =>
    match store.databases.get? database with
    | none => .error (.database noDatabase)
    | some documents => request.answer store.warning documents

/-- Records a request. A failure that was due has happened then. -/
def record (store : Store) (database : String) (request : FindRequest) : Store :=
  { store with requests := store.requests ++ [(database, request)], failure := none }

/-- Answers a request. -/
def answer (store : Store) (database : String) (request : FindRequest) :
    Except Error FindResponse × Store :=
  (store.respond database request, store.record database request)

/-- The events of answering a request. -/
def events (store : Store) (database : String) (request : FindRequest) : List Event :=
  let matched : List Event :=
    match store.failure, store.databases.get? database with
    | none, some documents =>
      match request.matching documents with
      | .ok found => [.matched found.length documents.length]
      | .error _ => []
    | _, _ => []
  .asked database request :: matched

end Store
end DocQuery
