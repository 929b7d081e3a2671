import DocQuery.Store.Basic
import Mathlib.Data.List.DropRight

/-! What a store has kept of the calls made to it. The history of calls alone says which requests are on
record, which failure is due and which documents a database holds; how a request was answered makes no
difference to any of them. -/

namespace DocQuery

/-- A call to a store that has been set up. -/
inductive StoreCall where
  | insert (database : String) (document : Json)
  | failNext (failure : DatabaseError)
  | clearRequests
  | answer (database : String) (request : FindRequest)

namespace StoreCall

/-- What a call makes of a store. -/
def perform (store : Store) : StoreCall → Store
  | .insert database document => store.insert database document
  | .failNext failure => store.failNext failure
  | .clearRequests => store.clearRequests
  | .answer database request => (store.answer database request).2

/-- The request that a call asks, with its database. -/
def asked? : StoreCall → Option (String × FindRequest)
  | .answer database request => some (database, request)
  | _ => none

def clears : StoreCall → Bool
  | .clearRequests => true
  | _ => false

def injected? : StoreCall → Option DatabaseError
  | .failNext failure => some failure
  | _ => none

/-- The document that a call puts into a database. -/
def insertedInto? (name : String) : StoreCall → Option Json
  | .insert database document => if database = name then some document else none
  | _ => none

/-- The requests asked since the record was cleared last. -/
def recorded (calls : List StoreCall) : List (String × FindRequest) :=
  (calls.rtakeWhile (!·.clears)).filterMap asked?

/-- The last failure injected since a request was asked last. -/
def due? (calls : List StoreCall) : Option DatabaseError :=
  ((calls.rtakeWhile (·.asked?.isNone)).filterMap injected?).getLast?

/-- The documents put into a database, the first one first. -/
def inserted (name : String) (calls : List StoreCall) : List Json := calls.filterMap (·.insertedInto? name)

/-- The documents of a database after calls: those it held at first, and those put into it in order. A
database that did not exist comes into being with the first document put into it. -/
def held? (databases : Entries (List Json)) (name : String) (calls : List StoreCall) : Option (List Json) :=
  if inserted name calls = [] then databases.get? name
  else some ((databases.get? name).getD [] ++ inserted name calls)

section Append

variable (calls : List StoreCall) (call : StoreCall)

theorem recorded_append :
    recorded (calls ++ [call]) = if call.clears then [] else recorded calls ++ call.asked?.toList := by
  unfold recorded
  rw [List.rtakeWhile_concat]
  cases call <;> simp [clears, asked?]

theorem due?_append :
    due? (calls ++ [call]) = if call.asked?.isSome then none else call.injected?.or (due? calls) := by
  unfold due?
  rw [List.rtakeWhile_concat]
  cases call <;> simp [asked?, injected?]

theorem inserted_append (name : String) :
    inserted name (calls ++ [call]) = inserted name calls ++ (call.insertedInto? name).toList := by
  unfold inserted
  rw [List.filterMap_append]
  cases found : call.insertedInto? name <;> simp [found]

theorem held?_append (databases : Entries (List Json)) (name : String) :
    held? databases name (calls ++ [call]) =
      match call.insertedInto? name with
      | some document => some ((held? databases name calls).getD [] ++ [document])
      | none => held? databases name calls := by
  unfold held?
  rw [inserted_append]
  cases call.insertedInto? name with
  | none => simp
  | some document => by_cases fresh : inserted name calls = [] <;> simp [fresh]

end Append
end StoreCall

namespace Store

open StoreCall

/-- A store as it has been set up, before any call. -/
def holding (databases : Entries (List Json)) (warning : Option String) : Store :=
  ⟨databases, [], warning, none⟩

def after (store : Store) (calls : List StoreCall) : Store := calls.foldl perform store

section Perform

variable (store : Store) (call : StoreCall)

theorem requests_perform :
    (call.perform store).requests = if call.clears then [] else store.requests ++ call.asked?.toList := by
  cases call with
  | insert | failNext => exact (List.append_nil _).symm
  | clearRequests | answer => rfl

theorem failure_perform :
    (call.perform store).failure = if call.asked?.isSome then none else call.injected?.or store.failure := by
  cases call <;> rfl

theorem get?_perform (name : String) :
    (call.perform store).databases.get? name =
      match call.insertedInto? name with
      | some document => some ((store.databases.get? name).getD [] ++ [document])
      | none => store.databases.get? name := by
  cases call with
  | insert database document =>
    simp only [StoreCall.perform, insert, withDatabase, documents, Entries.get?_insert, insertedInto?]
    by_cases same : database = name
    · subst same
      simp
    · simp [same]
  | failNext | clearRequests | answer => rfl

theorem warning_perform : (call.perform store).warning = store.warning := by
  cases call <;> rfl

end Perform

/-- A store keeps what a history of calls has left, whatever the answers were. -/
structure Keeps (databases : Entries (List Json)) (warning : Option String) (calls : List StoreCall)
    (store : Store) : Prop where
  requests : store.requests = recorded calls
  failure : store.failure = due? calls
  databases : ∀ name, store.databases.get? name = held? databases name calls
  warning : store.warning = warning

variable {databases : Entries (List Json)} {warning : Option String} {calls : List StoreCall} {store : Store}

theorem Keeps.perform (keeps : Keeps databases warning calls store) (call : StoreCall) :
    Keeps databases warning (calls ++ [call]) (call.perform store) where
  requests := by rw [requests_perform, recorded_append, keeps.requests]
  failure := by rw [failure_perform, due?_append, keeps.failure]
  databases := by
    intro name
    rw [get?_perform, held?_append, keeps.databases]
  warning := (warning_perform store call).trans keeps.warning

theorem keeps_after (databases : Entries (List Json)) (warning : Option String) (calls : List StoreCall) :
    Keeps databases warning calls ((holding databases warning).after calls) := by
  induction calls using List.reverseRecOn with
  | nil => exact ⟨rfl, rfl, fun _ => rfl, rfl⟩
  | append_singleton calls call ih =>
    rw [after, List.foldl_append]
    exact ih.perform call

/-- What a store responds is settled by what it keeps. -/
theorem Keeps.respond (keeps : Keeps databases warning calls store) (database : String)
    (request : FindRequest) :
    store.respond database request =
      match due? calls, held? databases database calls with
      | some failure, _ => .error (.database failure)
      | none, none => .error (.database noDatabase)
      | none, some documents => request.answer warning documents := by
  rw [Store.respond, keeps.failure, keeps.databases, keeps.warning]
  cases due? calls with
  | some failure => rfl
  | none => cases held? databases database calls <;> rfl

/-- After any calls a store has on record the requests asked since the record was cleared last, in order, and
each database holds what it held at first and then what was put into it. The next request is answered by
the last failure injected since a request was asked, if there is one, and else from the documents of
its database. However it is answered, it goes on record, no failure is due any more, and the documents
are the same. -/
theorem history_kept (databases : Entries (List Json)) (warning : Option String) (calls : List StoreCall) :
    let store := (holding databases warning).after calls
    store.requests = recorded calls ∧
      (∀ name, store.databases.get? name = held? databases name calls) ∧
      ∀ database request,
        let (response, next) := store.answer database request
        (response =
          match due? calls, held? databases database calls with
          | some failure, _ => .error (.database failure)
          | none, none => .error (.database noDatabase)
          | none, some documents => request.answer warning documents) ∧
        next.requests = recorded calls ++ [(database, request)] ∧ next.failure = none ∧
        ∀ name, next.databases.get? name = held? databases name calls := by
  intro store
  have keeps : Keeps databases warning calls store := keeps_after databases warning calls
  refine ⟨keeps.requests, keeps.databases, fun database request => ⟨keeps.respond database request, ?_⟩⟩
  have next : Keeps databases warning (calls ++ [.answer database request])
      (store.answer database request).2 := keeps.perform (.answer database request)
  exact ⟨next.requests.trans (recorded_append calls _), next.failure.trans (due?_append calls _),
    fun name => (next.databases name).trans (held?_append calls _ databases name)⟩

/-- A failure meets the next request, even if that is for a database that does not exist. -/
example :
    let luke : Json := .object [("_id", .string "luke")]
    let store := (holding [] none).after [.failNext ⟨.conflict, "busy", none⟩, .insert "people" luke,
      .failNext ⟨.generic, "down", none⟩]
    let (first, next) := store.answer "droids" ⟨[]⟩
    first = .error (.database ⟨.generic, "down", none⟩) ∧ next.requests = [("droids", ⟨[]⟩)] ∧
      (next.answer "people" ⟨[]⟩).1.map FindResponse.docs = .ok [luke] :=
  ⟨rfl, rfl, rfl⟩

end Store
end DocQuery
