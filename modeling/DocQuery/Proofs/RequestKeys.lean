import DocQuery.Proofs.Outcomes
import DocQuery.Proofs.SelectorMeaning
import DocQuery.Request.Draft
import DocQuery.Store.Answer

/-! What a store reads in the request of a draft. The discriminator gets into the selector only, and
the selector asks for the clauses of the draft one after the other. -/

namespace DocQuery
namespace RequestDraft

/-- The draft with the values of all its parts but the selector. -/
def complete (draft : RequestDraft) : Except Error RequestDraft :=
  draft.finishSort.map fun sorted => sorted.finishSkip.finishLimit

def request (draft : RequestDraft) (discriminator : Option String) : FindRequest :=
  ⟨(draft.put "selector" (conjunction (draft.selectorClauses discriminator))).body⟩

variable (draft : RequestDraft) (discriminator : Option String)

theorem finish_eq : draft.finish discriminator = draft.complete.map (·.request discriminator) := by
  rw [finish, complete]
  cases draft.finishSort <;> rfl

theorem finish_eq_ok {draft : RequestDraft} {discriminator : Option String} {found : FindRequest} :
    draft.finish discriminator = .ok found ↔
      ∃ full, draft.complete = .ok full ∧ full.request discriminator = found := by
  rw [finish_eq, map_eq_ok]

theorem get?_put (key other : String) (value : Json) :
    (draft.put key value).body.get? other =
      if key = other then some value else draft.body.get? other :=
  Entries.get?_insert draft.body key other value

theorem get?_request {key : String} (other : key ≠ "selector") :
    (draft.request discriminator).get? key = draft.body.get? key := by
  rw [FindRequest.get?, request, get?_put, if_neg (Ne.symm other)]

theorem selector?_request :
    (draft.request discriminator).selector? = some (conjunction (draft.selectorClauses discriminator)) := by
  rw [FindRequest.selector?, FindRequest.get?, request, get?_put, if_pos rfl]

theorem condition_request :
    (draft.request discriminator).condition = conjunction (draft.selectorClauses discriminator) := by
  rw [FindRequest.condition, selector?_request]
  rfl

theorem selects_request (document : Json) :
    (draft.request discriminator).condition.selects document =
      Json.admitsEvery (draft.selectorClauses discriminator) document := by
  rw [condition_request]
  exact Json.admits_conjunction document _

@[simp] theorem finishSkip_clauses : draft.finishSkip.clauses = draft.clauses := by
  unfold finishSkip
  split <;> rfl

@[simp] theorem finishLimit_clauses : draft.finishLimit.clauses = draft.clauses := by
  unfold finishLimit
  split <;> rfl

theorem clauses_of_complete {draft full : RequestDraft} (completed : draft.complete = .ok full) :
    full.clauses = draft.clauses := by
  unfold complete finishSort at completed
  split at completed
  · cases completed
    simp
  · split at completed
    · cases completed
      simp [put]
    · cases completed

/-- The selector of a request asks for the clauses of its draft. -/
theorem selects_finish {draft : RequestDraft} {discriminator : Option String} {found : FindRequest}
    (finished : draft.finish discriminator = .ok found) (document : Json) :
    found.condition.selects document =
      Json.admitsEvery (draft.selectorClauses discriminator) document := by
  obtain ⟨full, completed, rfl⟩ := finish_eq_ok.mp finished
  rw [selects_request]
  unfold selectorClauses
  rw [clauses_of_complete completed]

def withClauses (draft : RequestDraft) (clauses : List Json) : RequestDraft :=
  { draft with clauses }

@[simp] theorem withClauses_body (clauses : List Json) :
    (draft.withClauses clauses).body = draft.body := rfl

@[simp] theorem withClauses_clauses (clauses : List Json) :
    (draft.withClauses clauses).clauses = clauses := rfl

@[simp] theorem withClauses_sort (clauses : List Json) :
    (draft.withClauses clauses).sort = draft.sort := rfl

@[simp] theorem withClauses_skip (clauses : List Json) :
    (draft.withClauses clauses).skip = draft.skip := rfl

@[simp] theorem withClauses_limit (clauses : List Json) :
    (draft.withClauses clauses).limit = draft.limit := rfl

@[simp] theorem withClauses_paginated (clauses : List Json) :
    (draft.withClauses clauses).paginated = draft.paginated := rfl

theorem reserve_withClauses (clauses : List Json) (key : String) :
    (draft.withClauses clauses).reserve key = (draft.reserve key).withClauses clauses := by
  cases reserved : draft.body.contains key <;> simp [reserve, withClauses, reserved]

@[simp] theorem reserve_clauses (key : String) : (draft.reserve key).clauses = draft.clauses := by
  unfold reserve
  split <;> rfl

@[simp] theorem reserve_paginated (key : String) :
    (draft.reserve key).paginated = draft.paginated := by
  unfold reserve
  split <;> rfl

theorem contains_reserve (key : String) : (draft.reserve key).body.contains key := by
  unfold reserve
  split
  · assumption
  · simp [Entries.contains, Entries.get?_insert]

@[simp] theorem reserve_reserve (key : String) :
    (draft.reserve key).reserve key = draft.reserve key :=
  if_pos (contains_reserve draft key)

variable {draft} {naming : FieldNaming} {predicate : Expression}

theorem addFilter_eq (unpaginated : draft.paginated = false) :
    draft.addFilter naming predicate = (predicate.selector naming).map fun clause =>
      (draft.reserve "selector").withClauses (draft.clauses ++ [clause]) := by
  simp only [addFilter, requireUnpaginated, unpaginated, Bool.false_eq_true, if_false, ok_bind,
    reserve_clauses]
  cases predicate.selector naming <;> rfl

theorem addFilter_eq_ok {next : RequestDraft} :
    draft.addFilter naming predicate = .ok next ↔
      draft.paginated = false ∧ ∃ clause, predicate.selector naming = .ok clause ∧
        next = (draft.reserve "selector").withClauses (draft.clauses ++ [clause]) := by
  cases paginated : draft.paginated with
  | true => simp [addFilter, requireUnpaginated, paginated]
  | false =>
    rw [addFilter_eq paginated]
    cases predicate.selector naming <;> simp [eq_comm]

end RequestDraft
end DocQuery
