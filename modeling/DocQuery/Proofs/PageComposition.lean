import DocQuery.Proofs.DraftAnswers
import DocQuery.Proofs.RequestShapes

/-! Steps that skip and limit, in any number and order, come to one page: a request that skips once and limits
once leaves of any rows what the steps leave of them one after the other. -/

namespace DocQuery

namespace Step

/-- The rows that a step leaves by their places alone. -/
def window (step : Step) (rows : List Json) : List Json :=
  match step with
  | .skip count => rows.drop count
  | .take count => rows.take count
  | _ => rows

theorem window_of_unpaged {step : Step} (unpaged : step.isPaging = false) (rows : List Json) :
    step.window rows = rows := by
  cases step with
  | skip | take => cases unpaged
  | _ => rfl

end Step

/-- The rows that steps leave by their places, one step after the other. -/
def windowed (steps : List Step) (rows : List Json) : List Json :=
  steps.foldl (fun rows step => step.window rows) rows

theorem windowed_append (steps : List Step) (step : Step) (rows : List Json) :
    windowed (steps ++ [step]) rows = step.window (windowed steps rows) := by
  simp [windowed]

/-- Only steps that skip or limit count. -/
theorem windowed_filter (steps : List Step) (rows : List Json) :
    windowed (steps.filter Step.isPaging) rows = windowed steps rows := by
  rw [windowed, List.foldl_filter]
  congr 1
  funext rows step
  split
  next => rfl
  next unpaged => exact (Step.window_of_unpaged (by simpa using unpaged) rows).symm

theorem skipTotal_eq_zero {steps : List Step} (whole : ∀ step ∈ steps, step.skipCount = 0) :
    skipTotal steps = 0 := by
  induction steps with
  | nil => rfl
  | cons step rest ih =>
    obtain ⟨own, others⟩ := List.forall_mem_cons.mp whole
    rw [skipTotal, own, ih others]

section Execution

variable {naming : FieldNaming} {steps : List Step}

theorem checkSteps_paging (paging : ∀ step ∈ steps, step.isPaging) (ordered : Bool) :
    checkSteps ordered steps = .ok () := by
  induction steps with
  | nil => rfl
  | cons step rest ih =>
    obtain ⟨own, others⟩ := List.forall_mem_cons.mp paging
    cases step with
    | skip | take => exact ih others
    | _ => cases own

theorem foldlM_paging (paging : ∀ step ∈ steps, step.isPaging) (rows : List Json) (keys : List SortKey) :
    steps.foldlM (Execution.advance naming) ⟨.documents rows, keys⟩ =
      .ok ⟨.documents (windowed steps rows), keys⟩ := by
  induction steps generalizing rows with
  | nil => rfl
  | cons step rest ih =>
    obtain ⟨own, others⟩ := List.forall_mem_cons.mp paging
    cases step with
    | skip count => exact ih others (rows.drop count)
    | take count => exact ih others (rows.take count)
    | _ => cases own

theorem runSteps_paging (paging : ∀ step ∈ steps, step.isPaging) (rows : List Json) :
    runSteps naming steps rows = .ok (.documents (windowed steps rows)) := by
  rw [runSteps, checkSteps_paging paging, ok_bind, Execution.ofDocuments, foldlM_paging paging]
  rfl

end Execution

namespace RequestDraft

variable {naming : FieldNaming} {draft next full : RequestDraft} {step : Step} {steps : List Step}

theorem Grows.cut_eq (grows : Grows naming draft step next)
    (fits : draft.skip.toNat + step.skipCount < natBound64) (rows : List Json) :
    next.cut rows = step.window (draft.cut rows) := by
  cases grows with
  | skip => exact cut_addSkip fits rows
  | take => exact cut_addLimit _ rows
  | option sets => exact (Step.window_of_unpaged (Step.onlySets sets).paging _).symm
  | filter | orderBy | thenBy => simp [cut, Step.window]

theorem Grows.limit_lt {bound : Nat} (grows : Grows naming draft step next)
    (small : ∀ limit ∈ draft.limit, limit < bound) (taken : ∀ count, step = .take count → count < bound) :
    ∀ limit ∈ next.limit, limit < bound := by
  cases grows with
  | skip =>
    intro limit shortened
    obtain ⟨before, limited, rfl⟩ := Option.map_eq_some_iff.mp shortened
    exact Nat.lt_of_le_of_lt (Nat.sub_le _ _) (small before limited)
  | @take count =>
    rintro limit ⟨⟩
    have own := taken count rfl
    split <;> omega
  | option => exact small
  | filter | orderBy | thenBy => simpa using small

/-- The page of a draft is what its steps leave, whichever other steps stand between them. -/
theorem cut_ofChain (drafted : ofChain naming steps.reverse = .ok draft)
    (word : skipTotal steps < natBound64) (rows : List Json) : draft.cut rows = windowed steps rows := by
  induction steps using List.reverseRecOn generalizing draft with
  | nil =>
    cases drafted
    exact cut_whole rfl rfl rows
  | append_singleton steps step ih =>
    rw [ofChain_append] at drafted
    obtain ⟨before, ofSteps, added⟩ := bind_eq_ok.mp drafted
    have fits : before.skip.toNat + step.skipCount < natBound64 := by
      rw [← skipTotal_reverse, List.reverse_append, List.reverse_singleton, List.singleton_append] at word
      exact fits_ofChain ofSteps word
    have less : skipTotal steps < natBound64 := by
      rw [skipTotal_append] at word
      omega
    rw [(grows_of_addStep added).cut_eq fits, ih ofSteps less, windowed_append]

theorem limit_ofChain {bound : Nat} (drafted : ofChain naming steps.reverse = .ok draft)
    (taken : ∀ count, .take count ∈ steps → count < bound) : ∀ limit ∈ draft.limit, limit < bound := by
  induction steps using List.reverseRecOn generalizing draft with
  | nil =>
    cases drafted
    nofun
  | append_singleton steps step ih =>
    rw [ofChain_append] at drafted
    obtain ⟨before, ofSteps, added⟩ := bind_eq_ok.mp drafted
    have small := ih ofSteps fun count among => taken count (List.mem_append_left _ among)
    refine (grows_of_addStep added).limit_lt small ?_
    rintro count rfl
    exact taken count (List.mem_append_right _ (.head _))

/-- A request without a number of rows to skip skips none. -/
theorem exists_skip (drafted : ofChain naming steps.reverse = .ok draft)
    (completed : draft.complete = .ok full) :
    ∃ skip : Option Nat, full.body.get? "skip" = skip.map .ofNat ∧ skip.getD 0 = draft.skip.toNat := by
  obtain ⟨skip, held, placed⟩ := (completes completed).exists_skip
  refine ⟨skip, held, ?_⟩
  obtain rfl | ⟨rfl, absent⟩ := placed
  · rfl
  · suffices none : skipTotal steps = 0 by rw [skip_ofChain drafted, skipTotal_reverse, none]; rfl
    refine skipTotal_eq_zero fun step among => Step.skipCount_of_requestKey? fun named => ?_
    have given : "skip" ∈ draft.body.map Prod.fst := by
      rw [(records_ofChain drafted).keys, List.mem_eraseDups]
      exact List.mem_filterMap.mpr ⟨step, among, named⟩
    have there := (Entries.contains_iff _ _).mpr given
    rw [Entries.contains, absent] at there
    cases there

theorem get?_limit (drafted : ofChain naming steps.reverse = .ok draft)
    (completed : draft.complete = .ok full) : full.body.get? "limit" = draft.limit.map .ofNat := by
  refine (completes completed).get?_limit fun unlimited => Option.not_isSome_iff_eq_none.mp fun placed => ?_
  have records := records_ofChain drafted
  have taken := (records.mem_keys_iff Step.requestKey?_eq_limit).mp ((Entries.contains_iff _ _).mp placed)
  rw [← records.limit, unlimited] at taken
  cases taken

end RequestDraft

/-- One request says everything of steps that neither choose nor order rows, if they name an index by its
design document and by no more than its own name beside it. -/
theorem isSingleRequest_of_plain {steps : List Step}
    (plain : ∀ step ∈ steps, step.isNative ∧ step.isArranging = false) :
    IsSingleRequest steps ↔ ∀ names, .useIndex names ∈ steps → names.length = 1 ∨ names.length = 2 := by
  have apart {step : Step} (among : step ∈ steps) (arranges : step.isArranging) : False := by
    rw [(plain step among).2] at arranges
    cases arranges
  refine ⟨IsSingleRequest.indexed, fun indexed => ?_⟩
  constructor
  · exact fun step among => (plain step among).1
  · rintro before step after rfl arranges
    exact (apart List.mem_append_cons_self arranges).elim
  · rintro before field order after rfl
    exact (apart List.mem_append_cons_self rfl).elim
  · rintro before field order after rfl
    exact (apart List.mem_append_cons_self rfl).elim
  · exact indexed
  · exact fun predicate among => (apart among rfl).elim

/-- The page of a request is what the steps that skip and limit leave of any rows, one after the other, if a
word holds the number of all rows skipped. Steps that neither choose nor order rows can stand between them in
any order. -/
theorem FindRequest.pages_compose (naming : FieldNaming) (discriminator : Option String) (steps : List Step) :
    ((∀ step ∈ steps, step.isNative ∧ step.isArranging = false) →
      ((∃ request, ofChain naming discriminator steps.reverse = .ok request) ↔
        ∀ names, .useIndex names ∈ steps → names.length = 1 ∨ names.length = 2)) ∧
    ∀ request, ofChain naming discriminator steps.reverse = .ok request →
      ∃ skip limit : Option Nat, request.get? "skip" = skip.map .ofNat ∧
        request.get? "limit" = limit.map .ofNat ∧ request.count? "skip" = .ok skip ∧
        ((∀ count, .take count ∈ steps → count < natBound64) → request.count? "limit" = .ok limit) ∧
        (skipTotal steps < natBound64 → ∀ rows, runSteps naming (steps.filter Step.isPaging) rows =
          .ok (.documents (PageBounds.cut ⟨skip.getD 0, limit⟩ rows))) := by
  refine ⟨fun plain => succeeds_ofChain.trans (isSingleRequest_of_plain plain), fun request made => ?_⟩
  obtain ⟨draft, drafted, finished⟩ := bind_eq_ok.mp made
  obtain ⟨full, completed, rfl⟩ := RequestDraft.finish_eq_ok.mp finished
  obtain ⟨skip, skips, total⟩ := RequestDraft.exists_skip drafted completed
  have limits := RequestDraft.get?_limit drafted completed
  rw [← full.get?_request discriminator (by decide)] at skips limits
  refine ⟨skip, draft.limit, skips, limits, ?_, fun taken => ?_, fun word rows => ?_⟩
  · refine RequestDraft.count?_of_map skips ?_
    rintro number rfl
    rw [Option.getD_some] at total
    exact total ▸ toNat_lt_natBound64 draft.skip
  · exact RequestDraft.count?_of_map limits (RequestDraft.limit_ofChain drafted taken)
  · rw [runSteps_paging fun step among => (List.mem_filter.mp among).2, windowed_filter,
      ← RequestDraft.cut_ofChain drafted word, total]
    rfl

/-- Two skips with a limit between them, and a last limit beyond what is left. -/
theorem FindRequest.pages_compose_quorum :
    let naming := FieldNaming.ofCase .unchanged
    let steps : List Step := [.skip 3, .project [⟨["name"]⟩], .take 5, .readQuorum 2, .skip 1, .take 9]
    ∃ request, ofChain naming none steps.reverse = .ok request ∧
      request.count? "skip" = .ok (some 4) ∧ request.count? "limit" = .ok (some 4) ∧
      ∀ rows, runSteps naming [.skip 3, .take 5, .skip 1, .take 9] rows =
        .ok (.documents ((rows.drop 4).take 4)) := by
  intro naming steps
  obtain ⟨exists_iff, pages⟩ := pages_compose naming none steps
  obtain ⟨request, made⟩ := (exists_iff (by decide)).mpr (by simp [steps])
  have written : ofChain naming none steps.reverse = .ok ⟨[("skip", .integer 4),
    ("fields", .array [.string "name"]), ("limit", .integer 4), ("r", .integer 2), ("selector", .object [])]⟩ := by rfl
  obtain rfl := Except.ok.inj (made.symm.trans written)
  obtain ⟨skip, limit, _, _, ofSkip, counts, composed⟩ := pages _ made
  have ofLimit := counts (by simp [steps, natBound64])
  obtain rfl : some 4 = skip := Except.ok.inj ofSkip
  obtain rfl : some 4 = limit := Except.ok.inj ofLimit
  exact ⟨_, made, ofSkip, ofLimit, composed (by decide)⟩

end DocQuery
