import DocQuery.Proofs.AcceptedRequests
import DocQuery.Proofs.DividedPlans

/-! A server accepts every request that is made of a plan. The passes over a plan keep what the clauses
need. What is left are limits that no word holds, sizes that no array has, and the division of the least
integer by minus one. -/

namespace DocQuery

variable {allowed : Error → Prop} {naming : FieldNaming}

namespace Step

/-- What is asked of a step of a plan, of its predicate in particular. -/
structure Proper (naming : FieldNaming) (allowed : Error → Prop) (step : Step) : Prop where
  predicate : ∀ predicate ∈ step.predicate?, predicate.Everywhere (Expression.Proper naming allowed)
  limit : ∀ count, step = .take count → natBound64 ≤ count → allowed (.notNatural "limit")
  unmarked : ∀ bookmark, step ≠ .useBookmark bookmark

theorem proper_filter {predicate : Expression}
    (proper : predicate.Everywhere (Expression.Proper naming allowed)) :
    (filter predicate).Proper naming allowed :=
  ⟨by rintro _ ⟨⟩; exact proper, nofun, nofun⟩

theorem proper_filtering {predicate : Option Expression}
    (proper : ∀ condition ∈ predicate, condition.Everywhere (Expression.Proper naming allowed)) :
    ∀ step ∈ filtering predicate, step.Proper naming allowed := by
  cases predicate with
  | none => exact nofun
  | some predicate => exact List.forall_mem_singleton.mpr (proper_filter (proper predicate rfl))

theorem proper_take {count : Nat} (small : count < natBound64) : (take count).Proper naming allowed := by
  refine ⟨nofun, ?_, nofun⟩
  rintro _ ⟨⟩ large
  omega

theorem Proper.fetching {step : Step} {expansion : Expansion} (proper : step.Proper naming allowed)
    (expands : step.expand = .ok expansion) :
    ∀ other ∈ expansion.fetching, other.Proper naming allowed := by
  have one : (take 1).Proper naming allowed := proper_take (by decide)
  have two : (take 2).Proper naming allowed := proper_take (by decide)
  have bare (field : FieldPath) : (project [field]).Proper naming allowed := ⟨nofun, nofun, nofun⟩
  cases step with
  | any predicate =>
    cases expands
    exact List.forall_mem_cons.mpr ⟨one, proper_filtering proper.predicate⟩
  | all predicate =>
    cases expands
    have negated := Expression.proper_negate predicate (proper.predicate predicate rfl)
    exact List.forall_mem_cons.mpr ⟨one, List.forall_mem_singleton.mpr (proper_filter negated)⟩
  | element kind predicate =>
    have filters := proper_filtering proper.predicate
    cases kind <;> cases expands <;>
      first
      | exact List.forall_mem_cons.mpr ⟨one, filters⟩
      | exact List.forall_mem_cons.mpr ⟨two, filters⟩
  | aggregate function field =>
    have sorted (order : SortOrder) : (orderBy field order).Proper naming allowed := ⟨nofun, nofun, nofun⟩
    cases function <;> cases expands <;> simp [bare, one, sorted]
  | _ => cases expands

/-- Normalizing a predicate does not change its clause. -/
theorem Proper.accepted {step : Step} (proper : step.Proper naming allowed)
    (overflow : allowed .remainderOverflow) : (Plan.normalizeStep step).Accepted naming allowed := by
  cases step with
  | filter predicate =>
    refine ⟨?_, nofun, nofun⟩
    rintro _ ⟨⟩ clause made
    rw [Expression.selector_normalize] at made
    exact Expression.selector_accepted overflow (proper.predicate predicate rfl) made
  | _ => exact ⟨nofun, proper.limit, proper.unmarked⟩

end Step

theorem Plan.ExpandsTo.forall_of_expand {table : ClassificationTable} {chain expanded : List Step}
    {Holds : Step → Prop} (expands : ExpandsTo table chain expanded)
    (fetching : ∀ step expansion, Holds step → step.expand = .ok expansion →
      ∀ other ∈ expansion.fetching, Holds other)
    (reduces : ∀ reducer, Holds (.reduce reducer)) (all : ∀ step ∈ chain, Holds step) :
    ∀ step ∈ expanded, Holds step := by
  induction expands with
  | nil => exact all
  | plain _ _ ih =>
    obtain ⟨own, others⟩ := List.forall_mem_cons.mp all
    exact List.forall_mem_cons.mpr ⟨own, ih others⟩
  | composite _ expands _ _ ih =>
    obtain ⟨own, others⟩ := List.forall_mem_cons.mp all
    refine List.forall_mem_cons.mpr ⟨reduces _, List.forall_mem_append.mpr ⟨?_, ih others⟩⟩
    exact fetching _ _ own expands

theorem Plan.accepted_rewriteFilters {chain : List Step} (overflow : allowed .remainderOverflow)
    (proper : ∀ step ∈ chain, step.Proper naming allowed) :
    ∀ step ∈ rewriteFilters default chain, step.Accepted naming allowed := by
  have merged : ∀ step ∈ mergeFilters chain, step.Proper naming allowed := by
    refine forall_mergeFilters (fun inner outer first second => Step.proper_filter ?_) proper
    exact Expression.proper_connective .and (first.predicate inner rfl) (second.predicate outer rfl)
  exact List.forall_mem_map.mpr fun step among => (merged step among).accepted overflow

namespace Plan

def HasPart (plan : Plan) (part : Expression) : Prop :=
  ∃ step ∈ plan.steps, ∃ predicate ∈ step.predicate?, Expression.PartOf predicate part

end Plan

/-- The failures of a server on the request of a plan. -/
inductive Error.OfRequest (plan : Plan) : Error → Prop where
  | remainderOverflow : OfRequest plan .remainderOverflow
  | negativeSize {folded : Plan} {part : Expression} (folds : plan.fold = .ok folded)
      (inside : folded.HasPart part) (negative : part.comparesNegativeSize) :
      OfRequest plan .sizeNotNatural
  | largeTake {count : Nat} (among : .take count ∈ plan.steps) (large : natBound64 ≤ count) :
      OfRequest plan (.notNatural "limit")

namespace Step

variable {step folded : Step}

theorem exists_predicate_of_fold (folds : step.fold = .ok folded) :
    ∀ predicate ∈ folded.predicate?, ∃ source ∈ step.predicate?, source.fold = .ok predicate := by
  intro predicate held
  cases foldsTo_of_fold folds with
  | bare bare => cases bare.symm.trans held
  | _ own =>
    cases held
    exact ⟨_, rfl, own⟩

theorem eq_of_fold (folds : step.fold = .ok folded) (bare : folded.predicate? = none) :
    step = folded := by
  cases foldsTo_of_fold folds with
  | bare => rfl
  | _ => cases bare

end Step

namespace Compiler

variable {compiler : Compiler} {plan folded : Plan} {compiled : CompiledQuery}

theorem proper_fold (folds : plan.fold = .ok folded)
    (unmarked : ∀ bookmark, .useBookmark bookmark ∉ plan.steps)
    (names : ∀ path kind, plan.HasPart (.field path kind) →
      (naming.resolve path).toList.head? ≠ some '$')
    (patterns : ∀ operand source, plan.HasPart (.pattern operand source) →
      (Pattern.parse? source).isSome) :
    ∀ step ∈ folded.chain, step.Proper naming (Error.OfRequest plan) := by
  intro step among
  obtain ⟨chain, changed, made⟩ := bind_eq_ok.mp folds
  cases made
  have inFolded := among
  rw [Plan.chain_ofChain] at among
  obtain ⟨source, there, ofSource⟩ := exists_of_mem_mapM changed among
  have inPlan : source ∈ plan.steps := List.mem_reverse.mpr there
  constructor
  · intro predicate held part inside
    obtain ⟨original, given, ofOriginal⟩ := Step.exists_predicate_of_fold ofSource predicate held
    constructor
    · rintro path kind rfl
      exact names path kind ⟨source, inPlan, original, given, inside.field_of_fold ofOriginal⟩
    · rintro operand pattern rfl
      obtain ⟨origin, inside⟩ := inside.pattern_of_fold ofOriginal
      exact patterns origin pattern ⟨source, inPlan, original, given, inside⟩
    · intro negative
      exact .negativeSize folds ⟨step, List.mem_reverse.mpr inFolded, predicate, held, inside⟩ negative
  · rintro count rfl large
    cases Step.eq_of_fold ofSource rfl
    exact .largeTake inPlan large
  · rintro bookmark rfl
    cases Step.eq_of_fold ofSource rfl
    exact unmarked bookmark inPlan

/-- A server takes the request of every plan that compiles. It fails on a negative number of items that
the plan asks of an array, on a limit beyond 64 bits and by dividing the least integer by minus one; a
plan with neither of the first two is answered without an error of the database. -/
theorem compiled_request_accepted (compiler : Compiler) (plan : Plan)
    (accepted : compiler.compile plan = .ok compiled)
    (unmarked : ∀ bookmark, .useBookmark bookmark ∉ plan.steps)
    (names : ∀ path kind, plan.HasPart (.field path kind) →
      (compiler.naming.resolve path).toList.head? ≠ some '$')
    (patterns : ∀ operand source, plan.HasPart (.pattern operand source) →
      (Pattern.parse? source).isSome)
    (warning : Option String) (documents : List Json) :
    FailsOnly (Error.OfRequest plan) (compiled.request.answer warning documents) ∧
      ((∀ folded part, plan.fold = .ok folded → folded.HasPart part → ¬part.comparesNegativeSize) →
        (∀ count, .take count ∈ plan.steps → count < natBound64) →
          ∀ error, compiled.request.answer warning documents ≠ .error (.database error)) := by
  have fails : FailsOnly (Error.OfRequest plan) (compiled.request.answer warning documents) := by
    obtain ⟨optimized, server, divides⟩ := compile_eq_ok_iff_divides.mp accepted
    obtain ⟨folded, folds, optimizes⟩ := bind_eq_ok.mp divides.optimizes
    obtain ⟨expanded, expands, rfl⟩ := Plan.optimize_eq_ok.mp optimizes
    have proper := expands.forall_of_expand (fun _ _ own => own.fetching)
      (fun _ => ⟨nofun, nofun, nofun⟩) (proper_fold folds unmarked names patterns)
    have taken := Plan.accepted_rewriteFilters .remainderOverflow proper
    -- The steps of the server stand at the start of the plan, so at the end of its chain.
    have joined : Plan.rewriteFilters default expanded = compiled.clientSteps.reverse ++ server.reverse := by
      rw [← List.reverse_append, ← divides.steps, Plan.steps, List.reverse_reverse, Plan.chain_ofChain]
    obtain ⟨draft, drafted, finished⟩ := bind_eq_ok.mp divides.request
    have kept := RequestDraft.accepted_ofChain
      (fun step among => taken step (joined ▸ List.mem_append_right _ among)) drafted
    exact RequestDraft.answer_taken kept finished warning documents
  refine ⟨fails, fun sizes takes error failed => ?_⟩
  cases fails _ failed with
  | negativeSize folds inside negative => exact sizes _ _ folds inside negative
  | largeTake among large =>
    have small := takes _ among
    omega

/-- The parts of a plan that asks how many items a field holds. -/
theorem parts_of_size (path : FieldPath) (count : Value) :
    let plan : Plan := .ofSteps
      [.filter (.binary (.comparison .eq) (.size (.field path .value)) (.literal count))]
    (∀ other kind, plan.HasPart (.field other kind) → other = path) ∧
      (∀ operand source, ¬plan.HasPart (.pattern operand source)) ∧
      ∀ part, plan.HasPart part → part.comparesNegativeSize → (Expression.literal count).isNegativeCount := by
  intro plan
  have listed (part : Expression) (inside : plan.HasPart part) : part ∈
      [.binary (.comparison .eq) (.size (.field path .value)) (.literal count),
        .size (.field path .value), .field path .value, .literal count] := by
    obtain ⟨step, among, predicate, held, inside⟩ := inside
    rw [Plan.steps_ofSteps] at among
    cases List.mem_singleton.mp among
    cases held
    refine inside.mem_of_closed (.head _) ?_
    simp [Expression.children]
  refine ⟨fun other kind inside => ?_, fun operand source inside => ?_, fun part inside negative => ?_⟩
  · have among := listed _ inside
    simp only [List.mem_cons, List.not_mem_nil, reduceCtorEq, or_false, false_or,
      Expression.field.injEq] at among
    exact among.1
  · have among := listed _ inside
    simp at among
  · have among := listed _ inside
    simp only [List.mem_cons, List.not_mem_nil, or_false] at among
    obtain rfl | rfl | rfl | rfl := among
    · simpa [Expression.comparesNegativeSize, Expression.isSize] using negative
    · cases negative
    · cases negative
    · cases negative

/-- The documents without tags. -/
theorem compiled_request_accepted_tags :
    let compiler : Compiler := ⟨.ofCase .unchanged, .standard, none⟩
    let plan : Plan := .ofSteps
      [.filter (.binary (.comparison .eq) (.size (.field ⟨["tags"]⟩ .value)) (.literal (.int 0)))]
    let documents : List Json := [.object [("_id", .string "a"), ("tags", .array [])]]
    ∃ compiled, compiler.compile plan = .ok compiled ∧
      ∀ error, compiled.request.answer none documents ≠ .error (.database error) := by
  intro compiler plan documents
  obtain ⟨fields, patterns, sizes⟩ := parts_of_size ⟨["tags"]⟩ (.int 0)
  refine ⟨_, rfl, (compiled_request_accepted compiler plan rfl ?_ ?_ ?_ none documents).2 ?_ ?_⟩
  · simp [plan, Plan.steps_ofSteps]
  · intro path kind inside
    cases fields path kind inside
    decide
  · exact fun operand source inside => absurd inside (patterns operand source)
  · rintro folded part ⟨⟩ inside negative
    cases sizes part inside negative
  · simp [plan, Plan.steps_ofSteps]

/-- A negative number of tags: the plan compiles, and the server asks for an integer. -/
theorem compile_negativeSize :
    let compiler : Compiler := ⟨.ofCase .unchanged, .standard, none⟩
    let plan : Plan := .ofSteps
      [.filter (.binary (.comparison .eq) (.size (.field ⟨["tags"]⟩ .value)) (.literal (.int (-1))))]
    let documents : List Json := [.object [("_id", .string "a"), ("tags", .array [])]]
    (∀ bookmark, .useBookmark bookmark ∉ plan.steps) ∧
      (∀ path kind, plan.HasPart (.field path kind) →
        (compiler.naming.resolve path).toList.head? ≠ some '$') ∧
      (∀ operand source, ¬plan.HasPart (.pattern operand source)) ∧
      ∃ compiled error, compiler.compile plan = .ok compiled ∧
        compiled.request.answer none documents = .error (.database error) ∧ error.status = some 400 := by
  intro compiler plan documents
  obtain ⟨fields, patterns, _⟩ := parts_of_size ⟨["tags"]⟩ (.int (-1))
  refine ⟨by simp [plan, Plan.steps_ofSteps], ?_, patterns,
    ⟨⟨[("selector", single "tags" (single "$size" (.integer (-1))))]⟩, []⟩,
    .badRequest "$size expects an integer", rfl, rfl, rfl⟩
  intro path kind inside
  cases fields path kind inside
  decide

end Compiler
end DocQuery
