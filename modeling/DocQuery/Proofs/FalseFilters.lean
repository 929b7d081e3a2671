import DocQuery.Proofs.EmittedClauses
import DocQuery.Proofs.ExecutionRows
import DocQuery.Proofs.ExecutionStates
import DocQuery.Proofs.RequestedDocuments
import DocQuery.Proofs.SettledFolding
import DocQuery.Proofs.StandardCompilation

/-!
Filters that are false whatever the document is. A client keeps nothing after such a filter. A server is asked
for documents without an identity, so it finds none among documents that have one, but may find others.
-/

namespace DocQuery

theorem Json.admits_of_admitsEvery {conditions : List Json} {condition value : Json}
    (admitted : admitsEvery conditions value = .ok true) (among : condition ∈ conditions) :
    condition.admits (some value) = .ok true := by
  induction conditions with
  | nil => cases among
  | cons first rest ih =>
    obtain ⟨held, met, further⟩ := bind_eq_ok.mp admitted
    cases held with
    | false => cases further
    | true =>
      obtain rfl | later := List.mem_cons.mp among
      · exact met
      · exact ih further later

namespace Expression

/-- Whether constants alone make a predicate false: it folds to false, or negates what folds to true, or is a
conjunction with such a member. -/
inductive IsFalse : Expression → Prop where
  | constant {predicate} (folds : predicate.fold = .ok (.literal (.bool false))) : IsFalse predicate
  | negation {operand} (folds : operand.fold = .ok (.literal (.bool true))) :
      IsFalse (.unary .not operand)
  | left {left right} (never : IsFalse left) : IsFalse (.binary (.connective .and) left right)
  | right {left right} (never : IsFalse right) : IsFalse (.binary (.connective .and) left right)

/-- Whether a predicate is the literal false or a conjunction with such a member. -/
inductive HasFalse : Expression → Prop where
  | literal : HasFalse (.literal (.bool false))
  | left {left right} (never : HasFalse left) : HasFalse (.binary (.connective .and) left right)
  | right {left right} (never : HasFalse right) : HasFalse (.binary (.connective .and) left right)

theorem fold_of_evaluate {expression : Expression} {value : Value} (constant : expression.isConstant)
    (evaluates : expression.evaluate .constant = .ok value) :
    expression.fold = .ok (.literal value) := by
  rw [fold.eq_def, if_pos constant, constantLiteral, evaluates]
  rfl

theorem isConstant_of_fold_literal {expression : Expression} {value : Value}
    (folds : expression.fold = .ok (.literal value)) : expression.isConstant := by
  by_contra moving
  cases foldedParts_of_fold moving folds

/-- A constant that folds to a truth value has it. -/
theorem test_of_fold {expression : Expression} {held : Bool}
    (folds : expression.fold = .ok (.literal (.bool held))) : expression.test .constant = .ok held := by
  obtain ⟨value, evaluates, same⟩ := fold_of_isConstant (isConstant_of_fold_literal folds) folds
  cases same
  rw [test, evaluates]
  rfl

theorem eq_false_of_hasFalse {expression : Expression} {held : Bool} (constant : expression.isConstant)
    (never : ∀ folded, expression.fold = .ok folded → folded.HasFalse)
    (tested : expression.test .constant = .ok held) : held = false := by
  obtain ⟨value, evaluates, made⟩ := bind_eq_ok.mp tested
  cases made
  cases never _ (fold_of_evaluate constant evaluates)
  rfl

theorem hasFalse_fold_and {left right folded : Expression}
    (never : (∀ part, left.fold = .ok part → part.HasFalse) ∨
      ∀ part, right.fold = .ok part → part.HasFalse)
    (folds : (Expression.binary (.connective .and) left right).fold = .ok folded) : folded.HasFalse := by
  by_cases constant : (Expression.binary (.connective .and) left right).isConstant
  · obtain ⟨value, evaluates, rfl⟩ := fold_of_isConstant constant folds
    rw [evaluate_connective] at evaluates
    obtain ⟨held, tested, rfl⟩ := map_eq_ok.mp evaluates
    obtain ⟨first, ofLeft, further⟩ := bind_eq_ok.mp tested
    obtain ⟨ofFirst, ofSecond⟩ : left.isConstant ∧ right.isConstant := by
      simpa [isConstant] using constant
    have false : held = false := by
      cases first with
      | false => exact (Except.ok.inj further).symm
      | true =>
        rcases never with never | never
        · cases eq_false_of_hasFalse ofFirst never ofLeft
        · exact eq_false_of_hasFalse ofSecond never further
    exact false ▸ .literal
  · cases foldedParts_of_fold constant folds with
    | binary _ ofLeft ofRight =>
      rcases never with never | never
      · exact .left (never _ ofLeft)
      · exact .right (never _ ofRight)

theorem IsFalse.hasFalse_fold {predicate folded : Expression} (never : predicate.IsFalse)
    (folds : predicate.fold = .ok folded) : folded.HasFalse := by
  induction never generalizing folded with
  | constant made =>
    cases made.symm.trans folds
    exact .literal
  | @negation operand made =>
    have ofOperand : operand.isConstant := isConstant_of_fold_literal made
    have constant : (Expression.unary .not operand).isConstant := ofOperand
    obtain ⟨value, evaluates, rfl⟩ := fold_of_isConstant constant folds
    rw [evaluate_not, test_of_fold made] at evaluates
    cases evaluates
    exact .literal
  | left _ ih => exact hasFalse_fold_and (.inl fun _ => ih) folds
  | right _ ih => exact hasFalse_fold_and (.inr fun _ => ih) folds

theorem HasFalse.normalize {predicate : Expression} (never : predicate.HasFalse) :
    predicate.normalize.HasFalse := by
  induction never with
  | literal => exact .literal
  | left _ ih => exact .left ih
  | right _ ih => exact .right ih

theorem HasFalse.test_ne {predicate : Expression} (never : predicate.HasFalse) (scope : Scope) :
    predicate.test scope ≠ .ok true := by
  induction never with
  | literal => nofun
  | left _ ih =>
    rw [test_connective]
    intro passes
    obtain ⟨held, tested, further⟩ := bind_eq_ok.mp passes
    cases held with
    | false => cases further
    | true => exact ih tested
  | right _ ih =>
    rw [test_connective]
    intro passes
    obtain ⟨held, _, further⟩ := bind_eq_ok.mp passes
    cases held with
    | false => cases further
    | true => exact ih further

/-- What a server finds for such a predicate has no identity. -/
theorem HasFalse.get?_of_admits {naming : FieldNaming} {predicate : Expression} {clause document : Json}
    (never : predicate.HasFalse) (emits : Emits naming .document false predicate clause)
    (admitted : clause.admits (some document) = .ok true) : document.get? "_id" = none := by
  induction never generalizing clause with
  | literal =>
    cases emits with
    | truth =>
      have read : SelectorKey.ofName "_id" = .path ["_id"] := rfl
      change (single "_id" _).admits _ = _ at admitted
      rw [Json.admits_path document _ read] at admitted
      cases found : document.get? "_id" with
      | none => rfl
      | some identity =>
        have reached : document.lookup? ["_id"] = some identity := by simp [Json.lookup?, found]
        rw [reached] at admitted
        cases admitted
  | left _ ih =>
    cases emits with
    | connective op ofLeft ofRight =>
      rw [admits_connect] at admitted
      exact ih ofLeft (Json.admits_of_admitsEvery admitted (.head _))
  | right _ ih =>
    cases emits with
    | connective op ofLeft ofRight =>
      rw [admits_connect] at admitted
      exact ih ofRight (Json.admits_of_admitsEvery admitted (.tail _ (.head _)))

end Expression

/-- The documents that filters keep one after the other. -/
def keepAll (naming : FieldNaming) (predicates : List Expression) (documents : List Json) :
    Except Error (List Json) :=
  predicates.foldlM (fun kept predicate => keepMatching naming predicate kept) documents

section Kept

variable {naming : FieldNaming} {predicates : List Expression} {documents kept : List Json}

theorem passes_of_keepAll (found : keepAll naming predicates documents = .ok kept) :
    ∀ document ∈ kept, document ∈ documents ∧
      ∀ predicate ∈ predicates, predicate.normalize.holds naming (.ofJson document) = .ok true := by
  induction predicates generalizing documents with
  | nil =>
    cases found
    exact fun document member => ⟨member, List.forall_mem_nil _⟩
  | cons predicate rest ih =>
    obtain ⟨between, first, further⟩ := bind_eq_ok.mp found
    intro document member
    obtain ⟨among, others⟩ := ih further document member
    obtain ⟨there, passes⟩ := passes_of_keepItems first among
    exact ⟨there, List.forall_mem_cons.mpr ⟨passes, others⟩⟩

theorem exists_keepAll (answers : ∀ predicate ∈ predicates, ∀ document ∈ documents,
      ∃ held, predicate.normalize.holds naming (.ofJson document) = .ok held) :
    ∃ kept, keepAll naming predicates documents = .ok kept := by
  induction predicates generalizing documents with
  | nil => exact ⟨documents, rfl⟩
  | cons predicate rest ih =>
    obtain ⟨own, others⟩ := List.forall_mem_cons.mp answers
    obtain ⟨between, first⟩ := keepItems_answers own
    have remaining : ∀ other ∈ rest, ∀ document ∈ between,
        ∃ held, other.normalize.holds naming (.ofJson document) = .ok held :=
      fun other among document member => others other among document (mem_of_keepItems first member)
    obtain ⟨kept, further⟩ := ih remaining
    exact ⟨kept, by rw [keepAll, List.foldlM_cons, keepMatching, first]; exact further⟩

theorem keepAll_eq_nil {predicate : Expression} (member : predicate ∈ predicates)
    (never : predicate.HasFalse) (found : keepAll naming predicates documents = .ok kept) :
    kept = [] := by
  refine List.eq_nil_iff_forall_not_mem.mpr fun document among => ?_
  exact never.normalize.test_ne _ ((passes_of_keepAll found document among).2 predicate member)

theorem checkSteps_filters (predicates : List Expression) (ordered : Bool) :
    checkSteps ordered (predicates.map .filter) = .ok () := by
  induction predicates with
  | nil => rfl
  | cons predicate rest ih => exact ih

theorem finish_filters (keys : List SortKey) :
    Execution.finish naming (predicates.map .filter) ⟨.documents documents, keys⟩ =
      (keepAll naming predicates documents).map .documents := by
  induction predicates generalizing documents with
  | nil => rfl
  | cons predicate rest ih =>
    rw [List.map_cons, Execution.finish_cons, Execution.advance_documents_eq, keepAll, List.foldlM_cons]
    change (do return Output.documents (← keepMatching naming predicate documents)).map _ >>= _ = _
    cases keepMatching naming predicate documents with
    | error failure => rfl
    | ok between => exact ih

theorem runSteps_filters :
    runSteps naming (predicates.map .filter) documents =
      (keepAll naming predicates documents).map .documents := by
  rw [Execution.runSteps_eq_bind, checkSteps_filters, ok_bind]
  exact finish_filters []

end Kept

namespace Plan

variable {table : ClassificationTable} {predicates : List Expression}

theorem exists_filters_of_forall₂ {steps : List Step}
    (folds : List.Forall₂ Step.FoldsTo (predicates.map .filter) steps) :
    ∃ changed : List Expression, steps = changed.map .filter ∧
      ∀ predicate ∈ predicates, ∃ part ∈ changed, predicate.fold = .ok part := by
  induction predicates generalizing steps with
  | nil =>
    cases folds
    exact ⟨[], rfl, List.forall_mem_nil _⟩
  | cons predicate rest ih =>
    cases folds with
    | cons first others =>
      obtain ⟨changed, rfl, parts⟩ := ih others
      cases first with
      | bare bare => cases bare
      | @filter _ folded own =>
        refine ⟨folded :: changed, rfl, List.forall_mem_cons.mpr ⟨⟨folded, .head _, own⟩, ?_⟩⟩
        intro other member
        obtain ⟨part, among, folds⟩ := parts other member
        exact ⟨part, .tail _ among, folds⟩

theorem exists_of_fold_filters {folded : Plan}
    (folds : (ofSteps (predicates.map .filter)).fold = .ok folded) :
    ∃ changed : List Expression, folded = ofSteps (changed.map .filter) ∧
      ∀ predicate ∈ predicates, ∃ part ∈ changed, predicate.fold = .ok part := by
  have steps := forall₂_fold folds
  rw [steps_ofSteps] at steps
  obtain ⟨changed, same, parts⟩ := exists_filters_of_forall₂ steps
  refine ⟨changed, ?_, parts⟩
  rw [← same, ofSteps_steps]

theorem expands_filters {expanded : List Step}
    (expands : ExpandsTo table (predicates.map .filter) expanded) :
    expanded = predicates.map .filter := by
  induction predicates generalizing expanded with
  | nil =>
    cases expands
    rfl
  | cons predicate rest ih =>
    cases expands with
    | plain _ before => rw [ih before, List.map_cons]
    | composite _ expands => cases expands

theorem mergeFilters_filters (nonempty : predicates ≠ []) :
    ∃ whole, mergeFilters (predicates.map .filter) = [.filter whole] ∧
      ((∃ predicate ∈ predicates, predicate.HasFalse) → whole.HasFalse) := by
  induction predicates with
  | nil => exact absurd rfl nonempty
  | cons outer rest ih =>
    rw [List.map_cons]
    change ∃ whole, mergeStep (.filter outer) (mergeFilters (rest.map .filter)) = _ ∧ _
    cases rest with
    | nil =>
      refine ⟨outer, rfl, ?_⟩
      rintro ⟨predicate, member, never⟩
      exact List.mem_singleton.mp member ▸ never
    | cons next before =>
      obtain ⟨inner, merged, falls⟩ := ih (List.cons_ne_nil next before)
      refine ⟨.binary (.connective .and) inner outer, by rw [merged]; rfl, ?_⟩
      rintro ⟨predicate, member, never⟩
      obtain rfl | later := List.mem_cons.mp member
      · exact .right never
      · exact .left (falls ⟨predicate, later, never⟩)

end Plan

/-- A request that does not sort, page or project gives the documents that match. -/
theorem FindRequest.docs_plain {naming : FieldNaming} {discriminator : Option String} {chain : List Step}
    {request : FindRequest} (unpaged : ∀ step ∈ chain, step.isUnpaged)
    (unsorted : sortKeysAfter naming chain = []) (unshaped : shaped naming chain = id)
    (requested : ofChain naming discriminator chain = .ok request) (warning : Option String)
    (documents : List Json) :
    (request.answer warning documents).map FindResponse.docs =
      keepItems request.condition.selects documents := by
  obtain ⟨draft, drafted, finished⟩ := bind_eq_ok.mp requested
  have selects : request.condition.selects = Json.admitsEvery (draft.selectorClauses discriminator) :=
    funext (RequestDraft.selects_finish finished)
  rw [docs_unpaged unpaged drafted finished, unsorted, unshaped, selects]
  simp only [sortDocuments_nil, List.map_id]
  cases keepItems (Json.admitsEvery (draft.selectorClauses discriminator)) documents <;> rfl

theorem FindRequest.get?_of_selects {naming : FieldNaming} {discriminator : Option String}
    {predicate : Expression} {request : FindRequest} {document : Json} (never : predicate.HasFalse)
    (requested : ofChain naming discriminator [.filter predicate] = .ok request)
    (selected : request.condition.selects document = .ok true) : document.get? "_id" = none := by
  obtain ⟨draft, drafted, finished⟩ := bind_eq_ok.mp requested
  obtain ⟨_, clause, translated, rfl⟩ := RequestDraft.addFilter_eq_ok.mp
    (show RequestDraft.empty.addFilter naming predicate = .ok draft from drafted)
  rw [RequestDraft.selects_finish finished] at selected
  refine never.get?_of_admits (Expression.emits_of_selector translated)
    (Json.admits_of_admitsEvery selected ?_)
  cases discriminator <;> simp [RequestDraft.selectorClauses]

namespace Compiler

variable {compiler : Compiler} {predicates : List Expression} {compiled : CompiledQuery}

/-- The filters become one, which either side carries out. -/
theorem compile_filters (never : ∃ predicate ∈ predicates, predicate.IsFalse)
    (compiles : compiler.compile (.ofSteps (predicates.map .filter)) = .ok compiled) :
    ∃ whole : Expression, whole.HasFalse ∧
      (compiled.clientSteps = [] ∧
          FindRequest.ofChain compiler.naming compiler.discriminator [.filter whole] =
            .ok compiled.request ∨
        compiled.clientSteps = [.filter whole] ∧
          FindRequest.ofChain compiler.naming compiler.discriminator [] = .ok compiled.request) := by
  obtain ⟨optimized, server, found, divided, translated⟩ := compile_eq_ok.mp compiles
  obtain ⟨folded, folds, optimizes⟩ := bind_eq_ok.mp found
  obtain ⟨expanded, expands, rfl⟩ := Plan.optimize_eq_ok.mp optimizes
  obtain ⟨changed, rfl, parts⟩ := Plan.exists_of_fold_filters folds
  obtain ⟨predicate, member, isFalse⟩ := never
  obtain ⟨part, among, ofPart⟩ := parts predicate member
  have reversed : (Plan.ofSteps (changed.map .filter)).chain = changed.reverse.map .filter := by
    rw [Plan.chain_ofSteps, List.map_reverse]
  rw [reversed] at expands
  have nonempty : changed.reverse ≠ [] := by simpa using List.ne_nil_of_mem among
  obtain ⟨whole, merged, falls⟩ := Plan.mergeFilters_filters nonempty
  have hasFalse : whole.HasFalse :=
    falls ⟨part, List.mem_reverse.mpr among, isFalse.hasFalse_fold ofPart⟩
  obtain ⟨joined, -, -, -⟩ := ClassificationTable.split_eq_ok.mp divided
  have single : Plan.rewriteFilters default expanded = [.filter whole.normalize] := by
    rw [Plan.expands_filters expands]
    change (Plan.mergeFilters _).map Plan.normalizeStep = _
    rw [merged]
    rfl
  rw [Plan.root_chain, Plan.chain_ofChain, single] at joined
  refine ⟨whole.normalize, hasFalse.normalize, ?_⟩
  rcases List.append_eq_singleton_iff.mp joined.symm with ⟨none, native⟩ | ⟨own, native⟩
  · exact .inl ⟨List.reverse_eq_nil_iff.mp none, native ▸ translated⟩
  · exact .inr ⟨by simpa using congrArg List.reverse own, native ▸ translated⟩

/-- What filters of which one is false find: the request is for documents without an identity, unless the
client has a false filter. -/
theorem output_filters (never : ∃ predicate ∈ predicates, predicate.IsFalse)
    (compiles : compiler.compile (.ofSteps (predicates.map .filter)) = .ok compiled)
    {store : Store} {database : String} {documents : List Json} (ready : store.failure = none)
    (held : store.databases.get? database = some documents) :
    ∃ left : List Expression, compiled.clientSteps = left.map .filter ∧
      (compiler.execute store database (.ofSteps (predicates.map .filter))).1.map QueryResult.output =
        (keepItems compiled.request.condition.selects documents >>= keepAll compiler.naming left).map
          .documents ∧
      ((∃ whole ∈ left, whole.HasFalse) ∨
        ∀ document, compiled.request.condition.selects document = .ok true →
          document.get? "_id" = none) := by
  obtain ⟨whole, hasFalse, divided⟩ := compile_filters never compiles
  have outcome (left : List Expression) (own : compiled.clientSteps = left.map .filter)
      (docs : (compiled.request.answer store.warning documents).map FindResponse.docs =
        keepItems compiled.request.condition.selects documents) :
      (compiler.execute store database (.ofSteps (predicates.map .filter))).1.map QueryResult.output =
        (keepItems compiled.request.condition.selects documents >>= keepAll compiler.naming left).map
          .documents := by
    rw [output_execute _ _ ready held, compiles, ok_bind, docs, own, map_bind]
    congr 1
    funext matched
    exact runSteps_filters
  rcases divided with ⟨none, translated⟩ | ⟨own, translated⟩
  · have unpaged : ∀ step ∈ [Step.filter whole], step.isUnpaged :=
      List.forall_mem_singleton.mpr rfl
    exact ⟨[], none, outcome [] none (FindRequest.docs_plain unpaged rfl rfl translated _ _),
      .inr fun document => FindRequest.get?_of_selects hasFalse translated⟩
  · exact ⟨[whole], own, outcome [whole] own
      (FindRequest.docs_plain (List.forall_mem_nil _) rfl rfl translated _ _),
      .inl ⟨whole, .head _, hasFalse⟩⟩

end Compiler

/-- Whether each filter of some steps has an answer for each of some documents. -/
def FiltersAnswer (naming : FieldNaming) (steps : List Step) (documents : List Json) : Prop :=
  ∀ predicate, .filter predicate ∈ steps → ∀ document ∈ documents,
    ∃ held, predicate.normalize.holds naming (.ofJson document) = .ok held

theorem FiltersAnswer.exists_keepAll {naming : FieldNaming} {predicates : List Expression}
    {documents : List Json} (answers : FiltersAnswer naming (predicates.map .filter) documents) :
    ∃ kept, keepAll naming predicates documents = .ok kept :=
  DocQuery.exists_keepAll fun predicate member =>
    answers predicate (List.mem_map.mpr ⟨predicate, member, rfl⟩)

section FalseFilters

variable {compiler : Compiler} {predicates : List Expression} {documents : List Json}
  (never : ∃ predicate ∈ predicates, predicate.IsFalse)
include never

/-- A client keeps nothing after folded filters of which one is false. -/
theorem runSteps_falseFilters {naming : FieldNaming} {folded : Plan}
    (folds : (Plan.ofSteps (predicates.map .filter)).fold = .ok folded) :
    (∀ output, runSteps naming folded.steps documents = .ok output → output = .documents []) ∧
      (FiltersAnswer naming folded.steps documents →
        runSteps naming folded.steps documents = .ok (.documents [])) := by
  obtain ⟨changed, rfl, parts⟩ := Plan.exists_of_fold_filters folds
  obtain ⟨predicate, member, isFalse⟩ := never
  obtain ⟨part, among, ofPart⟩ := parts predicate member
  have nothing {kept : List Json} (found : keepAll naming changed documents = .ok kept) : kept = [] :=
    keepAll_eq_nil among (isFalse.hasFalse_fold ofPart) found
  rw [Plan.steps_ofSteps, runSteps_filters]
  refine ⟨fun output ran => ?_, fun answers => ?_⟩
  · obtain ⟨kept, found, rfl⟩ := map_eq_ok.mp ran
    rw [nothing found]
  · obtain ⟨kept, found⟩ := answers.exists_keepAll
    rw [found, nothing found, map_ok]

variable {store : Store} {database : String} (ready : store.failure = none)
  (held : store.databases.get? database = some documents)
include ready held

theorem found_falseFilters {output : Output}
    (ran : (compiler.execute store database (.ofSteps (predicates.map .filter))).1.map
      QueryResult.output = .ok output) :
    ∃ found, output = .documents found ∧
      ∀ document ∈ found, document ∈ documents ∧ document.get? "_id" = none := by
  obtain ⟨compiled, compiles, _⟩ := bind_eq_ok.mp ((compiler.output_execute _ ready held).symm.trans ran)
  obtain ⟨left, _, outcome, sides⟩ := Compiler.output_filters never compiles ready held
  obtain ⟨found, reached, rfl⟩ := map_eq_ok.mp (outcome.symm.trans ran)
  obtain ⟨matched, matching, kept⟩ := bind_eq_ok.mp reached
  refine ⟨found, rfl, fun document member => ?_⟩
  obtain ⟨among, _⟩ := passes_of_keepAll kept document member
  obtain ⟨there, selected⟩ := passes_of_keepItems matching among
  rcases sides with ⟨whole, own, hasFalse⟩ | unidentified
  · rw [keepAll_eq_nil own hasFalse kept] at member
    cases member
  · exact ⟨there, unidentified document selected⟩

theorem output_falseFilters_identified {compiled : CompiledQuery}
    (compiles : compiler.compile (.ofSteps (predicates.map .filter)) = .ok compiled)
    (identities : ∀ document ∈ documents, (document.get? "_id").isSome)
    (selects : ∀ document ∈ documents,
      ∃ selected, compiled.request.condition.selects document = .ok selected)
    (answers : FiltersAnswer compiler.naming compiled.clientSteps documents) :
    (compiler.execute store database (.ofSteps (predicates.map .filter))).1.map QueryResult.output =
      .ok (.documents []) := by
  obtain ⟨left, own, outcome, sides⟩ := Compiler.output_filters never compiles ready held
  obtain ⟨matched, matching⟩ := keepItems_answers selects
  obtain ⟨found, kept⟩ : ∃ found, keepAll compiler.naming left matched = .ok found :=
    FiltersAnswer.exists_keepAll fun predicate member document among =>
      answers predicate (own ▸ member) document (mem_of_keepItems matching among)
  have ran := outcome
  rw [matching, ok_bind, kept, map_ok] at ran
  obtain ⟨others, same, each⟩ := found_falseFilters never ready held ran
  cases same
  have nothing : found = [] := by
    refine List.eq_nil_iff_forall_not_mem.mpr fun document member => ?_
    obtain ⟨among, missing⟩ := each document member
    simpa [missing] using identities document among
  rw [ran, nothing]

end FalseFilters

/-- Filters of which one is false find documents without an identity only, and none among documents that have
one. A client finds none by the folded filters. -/
theorem output_falseFilters (compiler : Compiler) {predicates : List Expression}
    (never : ∃ predicate ∈ predicates, predicate.IsFalse) {store : Store} {database : String}
    {documents : List Json} (ready : store.failure = none)
    (held : store.databases.get? database = some documents) :
    let plan := Plan.ofSteps (predicates.map .filter)
    let outcome := (compiler.execute store database plan).1.map QueryResult.output
    (∀ output, outcome = .ok output → ∃ found, output = .documents found ∧
        ∀ document ∈ found, document ∈ documents ∧ document.get? "_id" = none) ∧
      (∀ compiled, compiler.compile plan = .ok compiled →
        (∀ document ∈ documents, (document.get? "_id").isSome) →
        (∀ document ∈ documents, ∃ selected, compiled.request.condition.selects document = .ok selected) →
        FiltersAnswer compiler.naming compiled.clientSteps documents → outcome = .ok (.documents [])) ∧
      ∀ folded, plan.fold = .ok folded →
        (∀ output, runSteps compiler.naming folded.steps documents = .ok output →
            output = .documents []) ∧
          (FiltersAnswer compiler.naming folded.steps documents →
            runSteps compiler.naming folded.steps documents = .ok (.documents [])) := by
  intro plan outcome
  exact ⟨fun _ => found_falseFilters never ready held,
    fun _ => output_falseFilters_identified never ready held, fun _ => runSteps_falseFilters never⟩

/-- A negated truth among other filters leaves nothing of documents that have an identity. -/
theorem output_falseFilters_named :
    let named : Expression := .presence (.field ⟨["name"]⟩ .value) true
    let plan := Plan.ofSteps (List.map .filter [named, .unary .not (.literal (.bool true))])
    let documents : List Json := [.object [("_id", .string "a"), ("name", .string "Luke")]]
    (Compiler.execute ⟨.ofCase .unchanged, .standard, none⟩ (Store.empty.withDatabase "people" documents)
        "people" plan).1.map QueryResult.output = .ok (.documents []) := by
  intro named plan documents
  have never : ∃ predicate ∈ [named, .unary .not (.literal (.bool true))], predicate.IsFalse :=
    ⟨_, .tail _ (.head _), .negation rfl⟩
  have held : (Store.empty.withDatabase "people" documents).databases.get? "people" = some documents := rfl
  obtain ⟨_, identified, _⟩ :=
    output_falseFilters ⟨.ofCase .unchanged, .standard, none⟩ never rfl held
  refine identified _ rfl ?_ (List.forall_mem_singleton.mpr ⟨false, by rfl⟩) fun _ member => ?_
  · simp [documents, Json.get?, Entries.get?]
  · cases member

/-- A document without an identity is found by the filter that is false. -/
theorem output_falseFilters_anonymous :
    let plan := Plan.ofSteps [.filter (.literal (.bool false))]
    let documents : List Json := [.object [("name", .string "Luke")]]
    (Compiler.execute ⟨default, .standard, none⟩ (Store.empty.withDatabase "people" documents) "people"
        plan).1.map QueryResult.output = .ok (.documents documents) ∧
      runSteps default plan.steps documents = .ok (.documents []) :=
  ⟨rfl, rfl⟩

end DocQuery
