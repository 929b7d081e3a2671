import DocQuery.Proofs.ExecutionRows
import DocQuery.Proofs.RequestKeys

/-! A request filters, sorts, skips and limits once, whatever the order of the steps that it is made
of. While a draft grows by one step more, what it says about documents and what the steps make of them
stay the same. -/

namespace DocQuery
namespace Step

def isOrderBy : Step → Bool
  | .orderBy .. => true
  | _ => false

def skipCount : Step → Nat
  | .skip count => count
  | _ => 0

end Step

/-- The number of documents that steps skip altogether. -/
def skipTotal : List Step → Nat
  | [] => 0
  | step :: rest => step.skipCount + skipTotal rest

theorem skipTotal_append (first second : List Step) :
    skipTotal (first ++ second) = skipTotal first + skipTotal second := by
  induction first with
  | nil => simp [skipTotal]
  | cons step rest ih => rw [List.cons_append, skipTotal, skipTotal, ih, Nat.add_assoc]

namespace RequestDraft

variable (draft : RequestDraft) (key : String)

@[simp] theorem reserve_sort : (draft.reserve key).sort = draft.sort := by
  unfold reserve
  split <;> rfl

@[simp] theorem reserve_skip : (draft.reserve key).skip = draft.skip := by
  unfold reserve
  split <;> rfl

@[simp] theorem reserve_limit : (draft.reserve key).limit = draft.limit := by
  unfold reserve
  split <;> rfl

theorem get?_reserve {other : String} (apart : key ≠ other) :
    (draft.reserve key).body.get? other = draft.body.get? other := by
  unfold reserve
  split
  · rfl
  · exact (Entries.get?_insert draft.body key other .null).trans (if_neg apart)

/-- What a step that chooses or orders documents adds to a draft. -/
inductive Added (naming : FieldNaming) (draft : RequestDraft) : Step → RequestDraft → Prop where
  | filter {predicate clause} (selectable : Expression.Selectable naming .document predicate)
      (translated : predicate.selector naming = .ok clause) (unpaginated : draft.paginated = false) :
      Added naming draft (.filter predicate)
        ((draft.reserve "selector").withClauses (draft.clauses ++ [clause]))
  | orderBy {field order} (unpaginated : draft.paginated = false) :
      Added naming draft (.orderBy field order)
        { draft.reserve "sort" with sort := [(naming.resolve field, order)] }
  | thenBy {field order} (unpaginated : draft.paginated = false) (sorted : draft.sort ≠ []) :
      Added naming draft (.thenBy field order)
        { draft with sort := draft.sort ++ [(naming.resolve field, order)] }
  | skip {count} : Added naming draft (.skip count) (draft.addSkip count)
  | take {count} (word : count < natBound64) :
      Added naming draft (.take count) (draft.addLimit count)

variable {draft} {naming : FieldNaming} {step : Step} {next : RequestDraft}

theorem requireUnpaginated_eq_ok {operation : String} :
    draft.requireUnpaginated operation = .ok () ↔ draft.paginated = false := by
  unfold requireUnpaginated
  cases draft.paginated <;> simp

theorem added_of_addStep (keeps : step.KeepsRows naming)
    (added : draft.addStep naming step = .ok next) : Added naming draft step next := by
  cases keeps with
  | filter selectable =>
    obtain ⟨unpaginated, clause, translated, rfl⟩ := addFilter_eq_ok.mp added
    exact .filter selectable translated unpaginated
  | orderBy field order =>
    obtain ⟨_, unpaginated, made⟩ := bind_eq_ok.mp added
    cases made
    exact .orderBy (requireUnpaginated_eq_ok.mp unpaginated)
  | thenBy field order =>
    obtain ⟨_, unpaginated, made⟩ := bind_eq_ok.mp added
    split at made
    · cases made
    next sorted =>
      cases made
      exact .thenBy (requireUnpaginated_eq_ok.mp unpaginated) (by simpa using sorted)
  | skip count => cases added; exact .skip
  | take word => cases added; exact .take word

/-- The keys of a draft that tell whether their parts are there. -/
structure Tidy (draft : RequestDraft) : Prop where
  sort : draft.sort = [] → draft.body.get? "sort" = none
  skip : draft.body.get? "skip" = none → draft.skip = 0
  limit : draft.limit = none → draft.body.get? "limit" = none
  bookmark : draft.body.get? "bookmark" = none
  word : ∀ limit, draft.limit = some limit → limit < natBound64

theorem tidy_empty : empty.Tidy where
  sort _ := rfl
  skip _ := rfl
  limit _ := rfl
  bookmark := rfl
  word _ := nofun

theorem Tidy.withClauses (tidy : draft.Tidy) (clauses : List Json) :
    ((draft.reserve "selector").withClauses clauses).Tidy where
  sort := by simpa (disch := decide) [get?_reserve] using tidy.sort
  skip := by simpa (disch := decide) [get?_reserve] using tidy.skip
  limit := by simpa (disch := decide) [get?_reserve] using tidy.limit
  bookmark := by simpa (disch := decide) [get?_reserve] using tidy.bookmark
  word := by simpa using tidy.word

theorem Tidy.added (tidy : draft.Tidy) (added : Added naming draft step next) : next.Tidy := by
  cases added with
  | filter selectable translated unpaginated => exact tidy.withClauses _
  | orderBy unpaginated =>
    constructor
    · exact nofun
    · simpa (disch := decide) [get?_reserve] using tidy.skip
    · simpa (disch := decide) [get?_reserve] using tidy.limit
    · simpa (disch := decide) [get?_reserve] using tidy.bookmark
    · simpa using tidy.word
  | thenBy unpaginated sorted =>
    constructor
    · simp
    · exact tidy.skip
    · exact tidy.limit
    · exact tidy.bookmark
    · exact tidy.word
  | @skip count =>
    constructor
    · simpa (disch := decide) [addSkip, get?_reserve] using tidy.sort
    · intro absent
      have placed := contains_reserve draft "skip"
      rw [Entries.contains, show (draft.reserve "skip").body.get? "skip" = none from absent] at placed
      cases placed
    · simpa (disch := decide) [addSkip, get?_reserve] using tidy.limit
    · simpa (disch := decide) [addSkip, get?_reserve] using tidy.bookmark
    · intro limit shortened
      obtain ⟨before, found, rfl⟩ := Option.map_eq_some_iff.mp shortened
      have bound := tidy.word before found
      omega
  | @take count word =>
    constructor
    · simpa (disch := decide) [addLimit, get?_reserve] using tidy.sort
    · simpa (disch := decide) [addLimit, get?_reserve] using tidy.skip
    · simp [addLimit]
    · simpa (disch := decide) [addLimit, get?_reserve] using tidy.bookmark
    · intro limit shortened
      cases found : draft.limit with
      | none => simp_all [addLimit]
      | some before =>
        have bound := tidy.word before found
        simp only [addLimit, found, Option.some.injEq] at shortened
        omega

def sortKeys (draft : RequestDraft) : List SortKey :=
  draft.sort.map fun (field, order) => ⟨wireKeys field, order⟩

/-- The page that a request cuts out of the documents that it finds. -/
def cut (draft : RequestDraft) (documents : List Json) : List Json :=
  match draft.limit with
  | some limit => (documents.drop draft.skip.toNat).take limit
  | none => documents.drop draft.skip.toNat

/-- A draft that makes of documents what steps have made of them. -/
structure Serves (draft : RequestDraft) (documents : List Json) (rows : Rows) : Prop where
  found : ∃ keep : Json → Bool,
    (∀ document, document.IsRow → Json.admitsEvery draft.clauses document = .ok (keep document)) ∧
      rows.documents = draft.cut (sortDocuments draft.sortKeys (documents.filter keep))
  sortKeys : rows.sortKeys = draft.sortKeys
  unpaginated : draft.paginated = false → draft.skip = 0 ∧ draft.limit = none

theorem serves_empty (documents : List Json) :
    empty.Serves documents (Rows.ofDocuments documents) where
  found := by
    refine ⟨fun _ => true, fun _ _ => rfl, ?_⟩
    have all : documents.filter (fun _ => true) = documents :=
      List.filter_eq_self.mpr fun _ _ => rfl
    rw [all]
    exact (sortDocuments_nil documents).symm
  sortKeys := rfl
  unpaginated _ := ⟨rfl, rfl⟩

variable {documents : List Json} {rows : Rows}

theorem cut_whole (start : draft.skip = 0) (endless : draft.limit = none) (items : List Json) :
    draft.cut items = items := by
  simp [cut, start, endless]

theorem toNat_skip_addSkip {count : Nat} (fits : draft.skip.toNat + count < natBound64) :
    (draft.addSkip count).skip.toNat = draft.skip.toNat + count := by
  change (draft.skip + .ofNat count).toNat = _
  rw [UInt64.toNat_add, toNat_ofNat_of_lt (Nat.lt_of_le_of_lt (Nat.le_add_left _ _) fits)]
  exact Nat.mod_eq_of_lt fits

theorem cut_addSkip {count : Nat} (fits : draft.skip.toNat + count < natBound64) (items : List Json) :
    (draft.addSkip count).cut items = (draft.cut items).drop count := by
  have total := toNat_skip_addSkip fits
  have shortened : (draft.addSkip count).limit = draft.limit.map (· - count) := rfl
  cases limited : draft.limit with
  | none => simp [cut, total, shortened, limited, List.drop_drop]
  | some limit => simp [cut, total, shortened, limited, List.drop_take, List.drop_drop]

theorem cut_addLimit (count : Nat) (items : List Json) :
    (draft.addLimit count).cut items = (draft.cut items).take count := by
  cases limited : draft.limit with
  | none => simp [cut, addLimit, limited]
  | some limit => simp [cut, addLimit, limited, List.take_take, Nat.min_comm]

theorem Serves.filtered {predicate : Expression} {clause : Json}
    (serves : draft.Serves documents rows) (proper : (Rows.ofDocuments documents).Proper)
    (selectable : Expression.Selectable naming .document predicate)
    (translated : predicate.selector naming = .ok clause) (unpaginated : draft.paginated = false) :
    ((draft.reserve "selector").withClauses (draft.clauses ++ [clause])).Serves documents
      (rows.advance naming (.filter predicate)) := by
  obtain ⟨keep, admits, remaining⟩ := serves.found
  obtain ⟨start, endless⟩ := serves.unpaginated unpaginated
  obtain ⟨found, equal, accepts⟩ := selectable.selector_eq
  cases translated.symm.trans equal
  rw [cut_whole start endless] at remaining
  have kept := @isRow_filter documents proper keep
  have keys : RequestDraft.sortKeys ((draft.reserve "selector").withClauses
      (draft.clauses ++ [clause])) = draft.sortKeys := by simp [RequestDraft.sortKeys]
  refine ⟨⟨fun document => keep document && predicate.accepts naming document, ?_, ?_⟩, ?_, ?_⟩
  · intro document row
    rw [withClauses_clauses, Json.admitsEvery_append, admits document row]
    cases held : keep document <;>
      simp [held, Json.admitsEvery_singleton, accepts document row.identity]
  · rw [cut_whole (by simpa using start) (by simpa using endless), keys]
    change rows.documents.filter _ = _
    rw [remaining, filter_sortDocuments kept, List.filter_filter]
    simp [Bool.and_comm]
  · rw [keys]
    exact serves.sortKeys
  · simpa using serves.unpaginated

theorem Serves.ordered (serves : draft.Serves documents rows)
    (unpaginated : draft.paginated = false) (unsorted : draft.sort = []) (field : FieldPath) (order : SortOrder) :
    Serves { draft.reserve "sort" with sort := [(naming.resolve field, order)] } documents
      (rows.advance naming (.orderBy field order)) := by
  obtain ⟨keep, admits, remaining⟩ := serves.found
  obtain ⟨start, endless⟩ := serves.unpaginated unpaginated
  have keyless : draft.sortKeys = [] := by rw [RequestDraft.sortKeys, unsorted]; rfl
  rw [cut_whole start endless, keyless, sortDocuments_nil] at remaining
  refine ⟨⟨keep, by simpa using admits, ?_⟩, rfl, by simpa using serves.unpaginated⟩
  rw [cut_whole (by simpa using start) (by simpa using endless), ← remaining]
  rfl

theorem Serves.orderedFurther (serves : draft.Serves documents rows)
    (proper : (Rows.ofDocuments documents).Proper) (unpaginated : draft.paginated = false)
    (field : FieldPath) (order : SortOrder) :
    Serves { draft with sort := draft.sort ++ [(naming.resolve field, order)] } documents
      (rows.advance naming (.thenBy field order)) := by
  obtain ⟨keep, admits, remaining⟩ := serves.found
  obtain ⟨start, endless⟩ := serves.unpaginated unpaginated
  have kept := @isRow_filter documents proper keep
  have appended : rows.sortKeys ++ [⟨wireKeys (naming.resolve field), order⟩] =
      RequestDraft.sortKeys { draft with sort := draft.sort ++ [(naming.resolve field, order)] } := by
    simp [serves.sortKeys, RequestDraft.sortKeys]
  rw [cut_whole start endless, ← serves.sortKeys] at remaining
  refine ⟨⟨keep, admits, ?_⟩, appended, serves.unpaginated⟩
  rw [← appended]
  change _ = draft.cut _
  rw [cut_whole start endless]
  change sortDocuments (rows.sortKeys ++ _) rows.documents = _
  rw [remaining, sortDocuments_refine kept]

theorem Serves.skipped {count : Nat} (serves : draft.Serves documents rows)
    (fits : draft.skip.toNat + count < natBound64) :
    (draft.addSkip count).Serves documents (rows.advance naming (.skip count)) := by
  obtain ⟨keep, admits, remaining⟩ := serves.found
  have keys : draft.sortKeys = RequestDraft.sortKeys (draft.addSkip count) := by
    simp [RequestDraft.sortKeys, addSkip]
  refine ⟨⟨keep, by simpa [addSkip] using admits, ?_⟩, serves.sortKeys.trans keys, nofun⟩
  rw [cut_addSkip fits, ← keys]
  exact congrArg (List.drop count) remaining

theorem Serves.limited (serves : draft.Serves documents rows) (count : Nat) :
    (draft.addLimit count).Serves documents (rows.advance naming (.take count)) := by
  obtain ⟨keep, admits, remaining⟩ := serves.found
  have keys : draft.sortKeys = RequestDraft.sortKeys (draft.addLimit count) := by
    simp [RequestDraft.sortKeys, addLimit]
  refine ⟨⟨keep, by simpa [addLimit] using admits, ?_⟩, serves.sortKeys.trans keys, nofun⟩
  rw [cut_addLimit, ← keys]
  exact congrArg (List.take count) remaining

theorem Serves.added (serves : draft.Serves documents rows) (added : Added naming draft step next)
    (proper : (Rows.ofDocuments documents).Proper) (single : step.isOrderBy → draft.sort = [])
    (fits : draft.skip.toNat + step.skipCount < natBound64) :
    next.Serves documents (rows.advance naming step) := by
  cases added with
  | filter selectable translated unpaginated =>
    exact serves.filtered proper selectable translated unpaginated
  | orderBy unpaginated => exact serves.ordered unpaginated (single rfl) _ _
  | thenBy unpaginated sorted => exact serves.orderedFurther proper unpaginated _ _
  | skip => exact serves.skipped fits
  | take word => exact serves.limited _

variable {chain : List Step}

/-- What holds of the empty draft and is kept by every step holds of the draft of a chain. -/
theorem ofChain_induction {motive : List Step → RequestDraft → Prop} (nil : motive [] empty)
    (cons : ∀ step input draft next, motive input draft → Added naming draft step next →
      motive (step :: input) next)
    (keeps : ∀ step ∈ chain, step.KeepsRows naming) (drafted : ofChain naming chain = .ok draft) :
    motive chain draft := by
  induction chain generalizing draft with
  | nil => cases drafted; exact nil
  | cons step input ih =>
    obtain ⟨before, ofInput, added⟩ := bind_eq_ok.mp drafted
    obtain ⟨last, earlier⟩ := List.forall_mem_cons.mp keeps
    exact cons step input before draft (ih earlier ofInput) (added_of_addStep last added)

theorem tidy_ofChain (keeps : ∀ step ∈ chain, step.KeepsRows naming)
    (drafted : ofChain naming chain = .ok draft) : draft.Tidy := by
  refine ofChain_induction (motive := fun _ draft => draft.Tidy) tidy_empty ?_ keeps drafted
  exact fun _ _ _ _ tidy added => tidy.added added

theorem skip_setIndex {names : List String} (named : draft.setIndex names = .ok next) :
    next.skip = draft.skip := by
  unfold setIndex at named
  split at named
  · cases named
    rfl
  · cases named
    rfl
  · cases named

theorem skip_addStep (added : draft.addStep naming step = .ok next) :
    next.skip = draft.skip + .ofNat step.skipCount := by
  cases step with
  | filter predicate =>
    obtain ⟨_, clause, _, rfl⟩ := addFilter_eq_ok.mp added
    simp [Step.skipCount]
  | orderBy field order =>
    obtain ⟨_, _, made⟩ := bind_eq_ok.mp added
    cases made
    simp [Step.skipCount]
  | thenBy field order =>
    obtain ⟨_, _, made⟩ := bind_eq_ok.mp added
    split at made
    · cases made
    · cases made
      simp [Step.skipCount]
  | skip count =>
    cases added
    rfl
  | useIndex names => simp [skip_setIndex added, Step.skipCount]
  | any | all | element | aggregate | reduce => cases added
  | _ =>
    cases added
    simp [addLimit, put, Step.skipCount]

/-- Whatever else a chain is made of, its request skips what its steps skip, as a word holds it. -/
theorem skip_ofChain (drafted : ofChain naming chain = .ok draft) :
    draft.skip = .ofNat (skipTotal chain) := by
  induction chain generalizing draft with
  | nil =>
    cases drafted
    rfl
  | cons step input ih =>
    obtain ⟨before, ofInput, added⟩ := bind_eq_ok.mp drafted
    rw [skip_addStep added, ih ofInput, skipTotal, UInt64.ofNat_add, UInt64.add_comm]

theorem toNat_skip_ofChain (drafted : ofChain naming chain = .ok draft)
    (word : skipTotal chain < natBound64) : draft.skip.toNat = skipTotal chain := by
  rw [skip_ofChain drafted, toNat_ofNat_of_lt word]

/-- A chain whose total fits in a word wraps around nowhere. -/
theorem fits_ofChain (drafted : ofChain naming chain = .ok draft)
    (word : skipTotal (step :: chain) < natBound64) :
    draft.skip.toNat + step.skipCount < natBound64 := by
  rw [skipTotal] at word
  rw [toNat_skip_ofChain drafted (by omega)]
  omega

theorem sort_ofChain (keeps : ∀ step ∈ chain, step.KeepsRows naming)
    (drafted : ofChain naming chain = .ok draft) (unordered : chain.filter Step.isOrderBy = []) :
    draft.sort = [] := by
  revert unordered
  refine ofChain_induction
    (motive := fun chain draft => chain.filter Step.isOrderBy = [] → draft.sort = []) (fun _ => rfl) ?_
    keeps drafted
  intro step input before next unsorted added unordered
  cases added with
  | orderBy => simp [Step.isOrderBy] at unordered
  | thenBy unpaginated sorted => exact absurd (unsorted unordered) sorted
  | filter => simpa using unsorted unordered
  | skip => simpa [addSkip] using unsorted unordered
  | take => simpa [addLimit] using unsorted unordered

theorem serves_ofChain (keeps : ∀ step ∈ chain, step.KeepsRows naming)
    (drafted : ofChain naming chain = .ok draft) (proper : (Rows.ofDocuments documents).Proper)
    (single : (chain.filter Step.isOrderBy).length ≤ 1) (word : skipTotal chain < natBound64) :
    draft.Serves documents ((Rows.ofDocuments documents).run naming chain) := by
  induction chain generalizing draft with
  | nil => cases drafted; exact serves_empty documents
  | cons step input ih =>
    obtain ⟨before, ofInput, added⟩ := bind_eq_ok.mp drafted
    obtain ⟨last, earlier⟩ := List.forall_mem_cons.mp keeps
    have fewer : (input.filter Step.isOrderBy).length ≤ 1 := by
      refine Nat.le_trans ?_ single
      exact ((List.sublist_cons_self step input).filter _).length_le
    have less : skipTotal input < natBound64 := Nat.lt_of_le_of_lt (Nat.le_add_left _ _) word
    refine (ih earlier ofInput fewer less).added (added_of_addStep last added) proper ?_
      (fits_ofChain ofInput word)
    intro orders
    refine sort_ofChain earlier ofInput ?_
    simpa [orders] using single

end RequestDraft
end DocQuery
