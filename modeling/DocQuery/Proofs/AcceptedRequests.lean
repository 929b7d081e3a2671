import DocQuery.Proofs.AcceptedClauses
import DocQuery.Proofs.DraftContents

/-! A server accepts the request of a draft whose clauses it accepts: the keys of a request are sort keys,
counts and hints that the server reads. Only a limit beyond 64 bits is refused. -/

namespace DocQuery

/-- The answer of a server to a count that is no natural number of 64 bits. -/
def Error.notNatural (key : String) : Error :=
  .database (.badRequest s!"{key} must be a non-negative integer")

variable {allowed : Error → Prop} {naming : FieldNaming}

/-- What is asked of a step that a request is made of. -/
structure Step.Accepted (naming : FieldNaming) (allowed : Error → Prop) (step : Step) : Prop where
  clause : ∀ predicate, step = .filter predicate →
    ∀ clause, predicate.selector naming = .ok clause → clause.Accepted allowed
  limit : ∀ count, step = .take count → natBound64 ≤ count → allowed (.notNatural "limit")
  unmarked : ∀ bookmark, step ≠ .useBookmark bookmark

namespace Step

theorem skipCount_of_requestKey? {step : Step} (other : step.requestKey? ≠ some "skip") :
    step.skipCount = 0 := by
  cases step with
  | skip => exact absurd rfl other
  | _ => rfl

theorem eq_useBookmark {step : Step} {value : Json} (sets : step.option? naming = some ("bookmark", value)) :
    ∃ bookmark, step = .useBookmark bookmark := by
  unfold option? at sets
  split at sets
  case h_2 bookmark => exact ⟨bookmark, rfl⟩
  all_goals simp at sets

end Step

namespace RequestDraft

variable {draft next full : RequestDraft} {step : Step} {chain : List Step}

/-- What a draft holds that a server accepts: its clauses, and keys that are there only if their parts
are. -/
structure Accepted (allowed : Error → Prop) (draft : RequestDraft) : Prop where
  clauses : ∀ clause ∈ draft.clauses, clause.Accepted allowed
  sort : draft.sort = [] → draft.body.get? "sort" = none
  limit : draft.limit = none → draft.body.get? "limit" = none
  bookmark : draft.body.get? "bookmark" = none
  word : ∀ limit ∈ draft.limit, natBound64 ≤ limit → allowed (.notNatural "limit")

theorem accepted_empty : empty.Accepted allowed := ⟨nofun, fun _ => rfl, fun _ => rfl, rfl, nofun⟩

theorem Accepted.put (accepted : draft.Accepted allowed) {key : String} (value : Json)
    (hint : key ∉ ["sort", "limit", "bookmark"]) : (draft.put key value).Accepted allowed := by
  simp only [List.mem_cons, List.not_mem_nil, or_false, not_or] at hint
  constructor
  · exact accepted.clauses
  · rw [get?_put, if_neg hint.1]
    exact accepted.sort
  · rw [get?_put, if_neg hint.2.1]
    exact accepted.limit
  · rw [get?_put, if_neg hint.2.2]
    exact accepted.bookmark
  · exact accepted.word

theorem Accepted.grows (accepted : draft.Accepted allowed) (taken : step.Accepted naming allowed)
    (grows : Grows naming draft step next) : next.Accepted allowed := by
  cases grows with
  | @filter predicate clause made =>
    constructor
    · refine List.forall_mem_append.mpr ⟨accepted.clauses, List.forall_mem_singleton.mpr ?_⟩
      exact taken.clause predicate rfl clause made
    · simpa (disch := decide) [get?_reserve] using accepted.sort
    · simpa (disch := decide) [get?_reserve] using accepted.limit
    · simpa (disch := decide) [get?_reserve] using accepted.bookmark
    · simpa using accepted.word
  | orderBy =>
    constructor
    · simpa using accepted.clauses
    · intro bare
      cases bare
    · simpa (disch := decide) [get?_reserve] using accepted.limit
    · simpa (disch := decide) [get?_reserve] using accepted.bookmark
    · simpa using accepted.word
  | thenBy => exact ⟨accepted.clauses, by simp, accepted.limit, accepted.bookmark, accepted.word⟩
  | skip =>
    constructor
    · simpa [addSkip] using accepted.clauses
    · simpa (disch := decide) [addSkip, get?_reserve] using accepted.sort
    · simpa (disch := decide) [addSkip, get?_reserve] using accepted.limit
    · simpa (disch := decide) [addSkip, get?_reserve] using accepted.bookmark
    · intro limit held large
      obtain ⟨before, limited, rfl⟩ := Option.map_eq_some_iff.mp held
      exact accepted.word before limited (by omega)
  | @take count =>
    constructor
    · simpa [addLimit] using accepted.clauses
    · simpa (disch := decide) [addLimit, get?_reserve] using accepted.sort
    · intro unlimited
      cases unlimited
    · simpa (disch := decide) [addLimit, get?_reserve] using accepted.bookmark
    · rintro limit ⟨⟩ large
      refine taken.limit count rfl ?_
      split at large <;> omega
  | @option step key value sets =>
    refine accepted.put value fun other => ?_
    simp only [List.mem_cons, List.not_mem_nil, or_false] at other
    obtain rfl | rfl | rfl := other
    · exact (Step.onlySets sets).apart (by decide)
    · exact (Step.onlySets sets).apart (by decide)
    · obtain ⟨bookmark, rfl⟩ := Step.eq_useBookmark sets
      exact taken.unmarked bookmark rfl

theorem accepted_ofChain (taken : ∀ step ∈ chain, step.Accepted naming allowed)
    (drafted : ofChain naming chain = .ok draft) : draft.Accepted allowed := by
  induction chain generalizing draft with
  | nil =>
    cases drafted
    exact accepted_empty
  | cons step input ih =>
    obtain ⟨before, ofInput, added⟩ := bind_eq_ok.mp drafted
    obtain ⟨last, earlier⟩ := List.forall_mem_cons.mp taken
    exact (ih earlier ofInput).grows last (grows_of_addStep added)

theorem count?_taken {request : FindRequest} {key : String} {count : Option Nat}
    (held : request.get? key = count.map .ofNat)
    (large : ∀ number ∈ count, natBound64 ≤ number → allowed (.notNatural key)) :
    FailsOnly allowed (request.count? key) := by
  by_cases word : ∀ number ∈ count, number < natBound64
  · rw [count?_of_map held word]
    exact failsOnly_ok _
  · obtain ⟨number, among, beyond⟩ : ∃ number ∈ count, natBound64 ≤ number := by simpa using word
    cases among
    have refused : (Json.ofNat number).asNat64? = none := if_neg (by omega)
    rw [FindRequest.count?, held]
    simp only [Option.map_some, refused]
    exact (failsOnly_error _).mpr (large number rfl beyond)

theorem pageBounds_taken (accepted : draft.Accepted allowed) (completes : draft.Completes full)
    (discriminator : Option String) :
    FailsOnly allowed (full.request discriminator).pageBounds := by
  have start : (full.request discriminator).bookmarkOffset = .ok 0 := by
    rw [FindRequest.bookmarkOffset, get?_request _ _ (by decide), completes.bookmark, accepted.bookmark]
  have skipped : FailsOnly allowed ((full.request discriminator).count? "skip") := by
    obtain ⟨skip, held, placed⟩ := completes.exists_skip
    rw [← get?_request full discriminator (by decide)] at held
    rw [count?_of_map held fun number among => ?_]
    · exact failsOnly_ok _
    · obtain rfl | ⟨rfl, _⟩ := placed
      · cases among
        exact toNat_lt_natBound64 _
      · cases among
  have limited : FailsOnly allowed ((full.request discriminator).count? "limit") := by
    have held := completes.get?_limit accepted.limit
    rw [← get?_request full discriminator (by decide)] at held
    exact count?_taken held accepted.word
  rw [FindRequest.pageBounds, start]
  exact skipped.bind fun _ _ => limited.bind fun _ _ => failsOnly_ok _

theorem sortKeys_taken (accepted : draft.Accepted allowed) (completes : draft.Completes full)
    (discriminator : Option String) : FailsOnly allowed (full.request discriminator).sortKeys := by
  have held := completes.sort
  rw [← get?_request full discriminator (by decide)] at held
  by_cases unsorted : draft.sort = []
  · rw [if_pos unsorted, accepted.sort unsorted] at held
    rw [FindRequest.sortKeys, held]
    exact failsOnly_ok []
  · rw [if_neg unsorted] at held
    rw [FindRequest.sortKeys, held]
    simp only [read_sortEntries]
    exact failsOnly_ok _

theorem selectorClauses_taken (accepted : draft.Accepted allowed) (discriminator : Option String) :
    ∀ clause ∈ draft.selectorClauses discriminator, clause.Accepted allowed := by
  cases discriminator with
  | none => exact accepted.clauses
  | some name =>
    refine List.forall_mem_cons.mpr ⟨Json.Accepted.path (fun _ => failsOnly_ok _) ?_, accepted.clauses⟩
    decide

theorem answer_taken (accepted : draft.Accepted allowed) {discriminator : Option String}
    {request : FindRequest} (finished : draft.finish discriminator = .ok request)
    (warning : Option String) (documents : List Json) :
    FailsOnly allowed (request.answer warning documents) := by
  have matching : FailsOnly allowed (request.matching documents) := by
    refine .keepItems fun document _ => ?_
    rw [selects_finish finished]
    exact Json.admitsEvery_accepted (selectorClauses_taken accepted discriminator) document
  obtain ⟨full, completed, rfl⟩ := finish_eq_ok.mp finished
  have completes := RequestDraft.completes completed
  refine matching.bind fun matched _ => ?_
  refine (sortKeys_taken accepted completes discriminator).bind fun keys _ => ?_
  exact (pageBounds_taken accepted completes discriminator).bind fun bounds _ => failsOnly_ok _

end RequestDraft

end DocQuery
