import DocQuery.Proofs.DraftContents
import DocQuery.Proofs.TranslatablePredicates

/-! The chains that have a request. Whether a draft takes in a step depends on the steps before it: none of
them may page if the step chooses or orders documents, and one of them has to order if the step orders
further. The draft of a whole chain is a request if it sorts in one direction. -/

namespace DocQuery

namespace Step

/-- Whether a step has a place in a request. The others make something else of the documents found. -/
def isNative : Step → Bool
  | .any _ | .all _ | .element .. | .aggregate .. | .reduce _ => false
  | _ => true

/-- Whether a step chooses or orders documents. -/
def isArranging : Step → Bool
  | .filter _ | .orderBy .. | .thenBy .. => true
  | _ => false

/-- When a draft takes in a step after others. -/
def CanFollow (steps : List Step) : Step → Prop
  | .filter predicate => steps.any isPaging = false ∧ predicate.isTranslatable .document
  | .orderBy .. => steps.any isPaging = false
  | .thenBy .. => steps.any isPaging = false ∧ steps.any isOrderBy
  | .useIndex names => names.length = 1 ∨ names.length = 2
  | .any _ | .all _ | .element .. | .aggregate .. | .reduce _ => False
  | .skip _ | .take _ | .project _ | .useBookmark _ | .readQuorum _ | .skipIndexUpdate | .fromStable
  | .includeExecutionStats | .includeConflicts => True

end Step

theorem Expression.succeeds_selector (naming : FieldNaming) (predicate : Expression) :
    Succeeds (predicate.selector naming) ↔ predicate.isTranslatable .document := by
  rw [← succeeds_clauses naming predicate .document none false]
  exact succeeds_bind_of fun clauses => by cases clauses <;> exact succeeds_ok _

/-- The last field that steps order by has the direction of all fields that are added to it. -/
def SortsOneWay (steps : List Step) : Prop :=
  ∀ before field order after, steps = before ++ .orderBy field order :: after →
    after.any Step.isOrderBy = false → ∀ other direction, .thenBy other direction ∈ after →
      direction = order

/-- The steps of which one request says everything. -/
structure IsSingleRequest (steps : List Step) : Prop where
  native : ∀ step ∈ steps, step.isNative
  unpaged : ∀ before step after, steps = before ++ step :: after → step.isArranging →
    before.any Step.isPaging = false
  ordered : ∀ before field order after, steps = before ++ .thenBy field order :: after →
    before.any Step.isOrderBy
  uniform : SortsOneWay steps
  indexed : ∀ names, .useIndex names ∈ steps → names.length = 1 ∨ names.length = 2
  translatable : ∀ predicate, .filter predicate ∈ steps → predicate.isTranslatable .document

theorem forall_split_append_singleton {α : Type} {items : List α} {last : α}
    {motive : List α → α → Prop} :
    (∀ before item after, items ++ [last] = before ++ item :: after → motive before item) ↔
      (∀ before item after, items = before ++ item :: after → motive before item) ∧
        motive items last := by
  constructor
  · intro each
    exact ⟨fun before item after split => each before item (after ++ [last]) (by simp [split]),
      each items last [] rfl⟩
  · rintro ⟨earlier, own⟩ before item after split
    cases after using List.reverseRecOn with
    | nil =>
      obtain ⟨rfl, same⟩ := List.append_inj' split rfl
      cases same
      exact own
    | append_singleton after outer =>
      rw [← List.cons_append, ← List.append_assoc] at split
      exact earlier before item after (List.append_inj' split rfl).1

namespace RequestDraft

variable {naming : FieldNaming} {draft : RequestDraft} {steps : List Step}

theorem Records.succeeds_addStep (records : draft.Records naming steps) (step : Step) :
    Succeeds (draft.addStep naming step) ↔ step.CanFollow steps := by
  have unpaged (operation : String) :
      Succeeds (draft.requireUnpaginated operation) ↔ steps.any Step.isPaging = false := by
    rw [← records.paginated, requireUnpaginated]
    cases draft.paginated <;> simp
  cases step with
  | filter predicate =>
    refine (succeeds_bind fun _ _ => ?_).trans (and_congr_left' (unpaged "Where"))
    exact succeeds_bind_ok.trans (predicate.succeeds_selector naming)
  | orderBy => exact succeeds_bind_ok.trans (unpaged "OrderBy")
  | thenBy =>
    refine (succeeds_bind fun _ _ => ?_).trans (and_congr_left' (unpaged "ThenBy"))
    rw [records.sorted]
    cases steps.any Step.isOrderBy
    · exact iff_of_false (not_succeeds_error _) Bool.false_ne_true
    · exact iff_of_true ⟨_, rfl⟩ rfl
  | useIndex names =>
    obtain _ | ⟨design, _ | ⟨name, _ | ⟨further, rest⟩⟩⟩ := names
    · exact iff_of_false (not_succeeds_error _) (by simp [Step.CanFollow])
    · exact iff_of_true ⟨_, rfl⟩ (.inl rfl)
    · exact iff_of_true ⟨_, rfl⟩ (.inr rfl)
    · exact iff_of_false (not_succeeds_error _) (by simp [Step.CanFollow])
  | skip | take | project | useBookmark | readQuorum | skipIndexUpdate | fromStable
  | includeExecutionStats | includeConflicts => exact iff_of_true ⟨_, rfl⟩ True.intro
  | any | all | element | aggregate | reduce => exact iff_of_false (not_succeeds_error _) id

/-- A chain has a draft if each of its steps can follow those before it. -/
theorem succeeds_ofChain : Succeeds (ofChain naming steps.reverse) ↔
    ∀ before step after, steps = before ++ step :: after → step.CanFollow before := by
  induction steps using List.reverseRecOn with
  | nil => exact iff_of_true ⟨_, rfl⟩ (by simp)
  | append_singleton steps step ih =>
    rw [ofChain_append, forall_split_append_singleton, ← ih]
    exact succeeds_bind fun draft drafted => (records_ofChain drafted).succeeds_addStep step

theorem forall_direction_iff (naming : FieldNaming) (field : FieldPath) {after : List Step}
    {order : SortOrder} (later : after.any Step.isOrderBy = false) :
    (∀ entry ∈ (Step.orderBy field order :: after).filterMap (·.ordering? naming), entry.2 = order) ↔
      ∀ other direction, .thenBy other direction ∈ after → direction = order := by
  constructor
  · intro alike other direction among
    exact alike (naming.resolve other, direction) (List.mem_filterMap.mpr ⟨_, .tail _ among, rfl⟩)
  · intro alike entry among
    obtain ⟨step, within, made⟩ := List.mem_filterMap.mp among
    cases step with
    | orderBy other direction =>
      cases made
      cases within with
      | head => rfl
      | tail _ within => exact absurd rfl (List.any_eq_false.mp later _ within)
    | thenBy other direction =>
      cases made
      cases within with
      | tail _ within => exact alike other direction within
    | _ => cases made

theorem Records.succeeds_finish (records : draft.Records naming steps) {discriminator : Option String} :
    Succeeds (draft.finish discriminator) ↔ SortsOneWay steps := by
  refine exists_finish.trans ?_
  have last {before field order after} (split : steps = before ++ .orderBy field order :: after)
      (later : after.any Step.isOrderBy = false) :
      (∀ first ∈ draft.sort.head?, draft.sort.all (·.2 == first.2)) ↔
        ∀ other direction, .thenBy other direction ∈ after → direction = order := by
    rw [records.sort, split, orderingsAfter_orderBy later]
    refine Iff.trans ?_ (forall_direction_iff naming field later)
    have first : ((Step.orderBy field order :: after).filterMap (·.ordering? naming)).head? =
      some (naming.resolve field, order) := rfl
    simp only [first, Option.mem_some_iff, forall_eq', List.all_eq_true, beq_iff_eq]
  cases ordered : steps.any Step.isOrderBy with
  | true =>
    obtain ⟨before, field, order, after, split, later⟩ := exists_last_orderBy ordered
    refine ⟨fun alike _ _ _ _ other latest => (last other latest).mp alike, fun alike => ?_⟩
    exact (last split later).mpr (alike before field order after split later)
  | false =>
    have unsorted : draft.sort = [] := by simpa [ordered] using records.sorted
    refine iff_of_true (by simp [unsorted]) fun before field order after split => ?_
    simp [split, Step.isOrderBy] at ordered

end RequestDraft

theorem isSingleRequest_iff {steps : List Step} : IsSingleRequest steps ↔
    (∀ before step after, steps = before ++ step :: after → step.CanFollow before) ∧
      SortsOneWay steps := by
  constructor
  · intro single
    refine ⟨fun before step after split => ?_, single.uniform⟩
    have among : step ∈ steps := split ▸ List.mem_append_cons_self
    have unpaged := single.unpaged before step after split
    cases step with
    | filter predicate => exact ⟨unpaged rfl, single.translatable predicate among⟩
    | orderBy => exact unpaged rfl
    | thenBy field order => exact ⟨unpaged rfl, single.ordered before field order after split⟩
    | useIndex names => exact single.indexed names among
    | any | all | element | aggregate | reduce => cases single.native _ among
    | _ => exact True.intro
  · rintro ⟨follows, uniform⟩
    have within {step : Step} (among : step ∈ steps) : ∃ before, step.CanFollow before := by
      obtain ⟨before, after, split⟩ := List.append_of_mem among
      exact ⟨before, follows before step after split⟩
    refine ⟨fun step among => ?_, fun before step after split arranges => ?_,
      fun before field order after split => (follows before _ after split).2, uniform,
      fun names among => ?_, fun predicate among => ?_⟩
    · obtain ⟨before, follow⟩ := within among
      cases step with
      | any | all | element | aggregate | reduce => exact follow.elim
      | _ => rfl
    · have follow := follows before step after split
      cases step with
      | filter | thenBy => exact follow.1
      | orderBy => exact follow
      | _ => cases arranges
    · exact (within among).choose_spec
    · exact (within among).choose_spec.2

theorem FindRequest.succeeds_ofChain {naming : FieldNaming} {discriminator : Option String} {steps : List Step} :
    Succeeds (ofChain naming discriminator steps.reverse) ↔ IsSingleRequest steps := by
  rw [isSingleRequest_iff, ← @RequestDraft.succeeds_ofChain naming]
  exact succeeds_bind fun draft drafted => (RequestDraft.records_ofChain drafted).succeeds_finish

/-- A notion of predicates that goes by their forms, with the position that they stand in. -/
structure Expression.IsCompositional (accepted : PredicateScope → Expression → Prop) : Prop where
  not : ∀ position operand, accepted position (.unary .not operand) ↔ accepted position operand
  connective : ∀ position op left right,
    accepted position (.binary (.connective op) left right) ↔
      accepted position left ∧ accepted position right
  quantifier : ∀ position kind collection predicate,
    accepted position (.quantifier kind collection predicate) ↔
      ((∃ path kind, collection = .field path kind) ∨ (position = .element ∧ collection = .item)) ∧
        accepted .element predicate

theorem Expression.isSubject_iff {position : PredicateScope} {expression : Expression} :
    expression.isSubject position ↔ (∃ path kind, expression = .field path kind) ∨
      (position = .element ∧ expression = .item) := by
  cases expression <;> simp [isSubject]

theorem Expression.isCompositional_isTranslatable :
    IsCompositional fun position predicate => predicate.isTranslatable position where
  not _ _ := Iff.rfl
  connective _ _ _ _ := Bool.and_eq_true_iff
  quantifier _ _ _ _ := Bool.and_eq_true_iff.trans (and_congr_left' Expression.isSubject_iff)

/-- A chain has a request exactly if one request can say everything that its steps say. What predicates its
filters can have depends on the forms of the predicates alone. -/
theorem FindRequest.exists_iff_isSingleRequest (naming : FieldNaming) (discriminator : Option String) :
    (∀ steps : List Step,
      (∃ request, FindRequest.ofChain naming discriminator steps.reverse = .ok request) ↔
        IsSingleRequest steps) ∧
    (∀ position predicate,
      (∃ found, Expression.clauses naming position none false predicate = .ok found) ↔
        predicate.isTranslatable position) ∧
    Expression.IsCompositional fun position predicate => predicate.isTranslatable position := by
  refine ⟨fun steps => succeeds_ofChain, fun position predicate => ?_,
    Expression.isCompositional_isTranslatable⟩
  exact Expression.succeeds_clauses naming predicate position none false

end DocQuery
