import DocQuery.Compilation
import DocQuery.Proofs.OptimizerPasses

/-! Compiling divides a plan. The steps at its end that are left to the client are taken off, as many as
there are; those before them make the request, and the server carries out each of them. Every step is on
one side, none on both, and their order stays. A plan with an operation that is not listed does not
compile. -/

namespace DocQuery

/-- Whether further fields to sort by come after a first one. -/
def SortsInOrder (steps : List Step) : Prop :=
  ∀ before field order after, steps = before ++ .thenBy field order :: after →
    ∃ first direction, .orderBy first direction ∈ before

theorem sortsInOrder_orderBy (field : FieldPath) (order : SortOrder) (rest : List Step) :
    SortsInOrder (.orderBy field order :: rest) := by
  intro before key direction after same
  cases before with
  | nil => cases same
  | cons first others =>
    cases same
    exact ⟨field, order, List.mem_cons_self⟩

theorem not_sortsInOrder_thenBy (field : FieldPath) (order : SortOrder) (rest : List Step) :
    ¬SortsInOrder (.thenBy field order :: rest) := by
  intro sorts
  obtain ⟨_, _, among⟩ := sorts [] field order rest rfl
  cases among

theorem sortsInOrder_cons {step : Step} {rest : List Step}
    (first : ∀ field order, step ≠ .orderBy field order)
    (further : ∀ field order, step ≠ .thenBy field order) :
    SortsInOrder (step :: rest) ↔ SortsInOrder rest := by
  constructor
  · intro sorts before field order after same
    obtain ⟨key, direction, member⟩ := sorts (step :: before) field order after (by rw [same]; rfl)
    obtain equal | among := List.mem_cons.mp member
    · exact absurd equal.symm (first key direction)
    · exact ⟨key, direction, among⟩
  · intro sorts before field order after same
    cases before with
    | nil => exact absurd (List.head_eq_of_cons_eq same) (further field order)
    | cons head others =>
      obtain ⟨key, direction, among⟩ := sorts others field order after (List.tail_eq_of_cons_eq same)
      exact ⟨key, direction, List.mem_cons_of_mem head among⟩

theorem checkSteps_eq_ok {steps : List Step} (ordered : Bool) :
    checkSteps ordered steps = .ok () ↔
      (∀ step ∈ steps, step.runsInMemory) ∧ (ordered ∨ SortsInOrder steps) := by
  induction steps generalizing ordered with
  | nil => simp [checkSteps, SortsInOrder]
  | cons step rest ih =>
    rw [List.forall_mem_cons]
    cases step with
    | orderBy field order =>
      change checkSteps true rest = .ok () ↔ _
      rw [ih]
      simp [Step.runsInMemory, sortsInOrder_orderBy]
    | thenBy field order =>
      cases ordered with
      | true =>
        change checkSteps true rest = .ok () ↔ _
        rw [ih]
        simp [Step.runsInMemory]
      | false => simp [checkSteps, Step.runsInMemory, not_sortsInOrder_thenBy]
    | useBookmark | readQuorum | skipIndexUpdate | fromStable | useIndex | includeExecutionStats
    | includeConflicts => simp [checkSteps, Step.runsInMemory]
    | _ =>
      rw [sortsInOrder_cons (by simp) (by simp)]
      change checkSteps ordered rest = .ok () ↔ _
      rw [ih]
      simp [Step.runsInMemory]

namespace ClassificationTable

section Wrapped

variable (table : ClassificationTable) (input : Operator) (step : Step)

theorem splitOperator_allDocuments :
    table.splitOperator .allDocuments = .ok (.allDocuments, []) := rfl

/-- A step left to the client is taken off. There is always an operator inside it. -/
theorem splitOperator_wrap :
    table.splitOperator (input.wrap step) =
      table.classify step.kind >>= fun
        | .native => .ok (input.wrap step, [])
        | .composite => .error (.internal (.compositeLeft step.kind))
        | .clientOnly =>
          (table.splitOperator input).map fun (native, client) => (native, client ++ [step]) := by
  rw [splitOperator, Operator.kind?_wrap]
  change table.classify step.kind >>= _ = _
  congr 1
  funext classification
  cases classification with
  | native | composite => rfl
  | clientOnly =>
    simp only
    split
    next taken => cases taken.symm.trans (Operator.unwrapStep?_wrap input step)
    next taken =>
      cases taken.symm.trans (Operator.unwrapStep?_wrap input step)
      cases table.splitOperator input <;> rfl

theorem requireNative_allDocuments : table.requireNative .allDocuments = .ok () := rfl

theorem requireNative_wrap :
    table.requireNative (input.wrap step) =
      table.requireNativeKind step.kind >>= fun _ => table.requireNative input := by
  rw [requireNative, Operator.kind?_wrap]
  change table.requireNativeKind step.kind >>= _ = _
  congr 1
  funext _
  split
  next taken => cases taken.symm.trans (Operator.input?_wrap input step)
  next taken =>
    cases taken.symm.trans (Operator.input?_wrap input step)
    rfl

end Wrapped

variable {table : ClassificationTable} {operator server : Operator} {client : List Step}

theorem requireNativeKind_eq_ok {kind : OperationKind} :
    table.requireNativeKind kind = .ok () ↔ table.classOf kind = some .native := by
  rw [requireNativeKind, bind_eq_ok]
  constructor
  · rintro ⟨classification, classified, further⟩
    split at further
    · cases further
    next native =>
      rw [Decidable.not_not] at native
      exact native ▸ classify_eq_ok.mp classified
  · intro listed
    exact ⟨.native, classify_eq_ok.mpr listed, rfl⟩

theorem requireNative_eq_ok :
    table.requireNative operator = .ok () ↔
      ∀ step ∈ operator.chain, table.classOf step.kind = some .native := by
  induction operator using Operator.wrap_induction with
  | allDocuments => simp [requireNative_allDocuments]
  | wrap input step ih =>
    rw [requireNative_wrap, Operator.chain_wrap, List.forall_mem_cons, bind_eq_ok, ← ih,
      ← requireNativeKind_eq_ok]
    exact ⟨fun ⟨_, own, others⟩ => ⟨own, others⟩, fun ⟨own, others⟩ => ⟨(), own, others⟩⟩

theorem of_splitOperator (split : table.splitOperator operator = .ok (server, client)) :
    operator = client.foldl Operator.wrap server ∧
      (∀ step ∈ client, table.classOf step.kind = some .clientOnly) ∧
        ∀ last ∈ server.chain.head?, table.classOf last.kind = some .native := by
  induction operator using Operator.wrap_induction generalizing client with
  | allDocuments =>
    rw [splitOperator_allDocuments] at split
    cases split
    exact ⟨rfl, nofun, nofun⟩
  | wrap input step ih =>
    rw [splitOperator_wrap] at split
    obtain ⟨classification, classified, further⟩ := bind_eq_ok.mp split
    have listed := classify_eq_ok.mp classified
    cases classification with
    | native =>
      cases further
      refine ⟨rfl, nofun, fun last among => ?_⟩
      rw [Operator.chain_wrap] at among
      cases among
      exact listed
    | composite => cases further
    | clientOnly =>
      obtain ⟨⟨found, left⟩, before, made⟩ := map_eq_ok.mp further
      cases made
      obtain ⟨joined, clientOnly, native⟩ := ih before
      refine ⟨by rw [List.foldl_append, ← joined]; rfl, ?_, native⟩
      exact List.forall_mem_append.mpr ⟨clientOnly, by simpa using listed⟩

/-- Splitting an operator takes off all steps around it that are left to the client. -/
theorem splitOperator_eq_ok :
    table.splitOperator operator = .ok (server, client) ↔
      operator.chain = client.reverse ++ server.chain ∧
        (∀ step ∈ client, table.classOf step.kind = some .clientOnly) ∧
          ∀ last ∈ server.chain.head?, table.classOf last.kind = some .native := by
  rw [← Operator.eq_foldl_wrap]
  refine ⟨of_splitOperator, ?_⟩
  rintro ⟨rfl, clientOnly, listed⟩
  -- The steps left to the client are taken off from the last one on.
  have loop : ∀ last : List Step, (∀ step ∈ last, table.classOf step.kind = some .clientOnly) →
      table.splitOperator (last.foldr (fun step input => input.wrap step) server) =
        .ok (server, last.reverse) := by
    intro last left
    induction last with
    | nil =>
      cases server using Operator.wrap_induction with
      | allDocuments => rfl
      | wrap input step _ =>
        have own := listed step (by rw [Operator.chain_wrap]; rfl)
        rw [List.foldr_nil, splitOperator_wrap, classify_eq_ok.mpr own]
        rfl
    | cons step rest ih =>
      obtain ⟨own, others⟩ := List.forall_mem_cons.mp left
      rw [List.foldr_cons, splitOperator_wrap, classify_eq_ok.mpr own, ok_bind, ih others,
        List.reverse_cons]
      rfl
  have taken := loop client.reverse (by simpa using clientOnly)
  rwa [List.foldr_reverse, List.reverse_reverse] at taken

theorem split_eq_ok :
    table.split operator = .ok (server, client) ↔
      operator.chain = client.reverse ++ server.chain ∧
        (∀ step ∈ server.chain, table.classOf step.kind = some .native) ∧
          (∀ step ∈ client, table.classOf step.kind = some .clientOnly) ∧
            checkSteps false client = .ok () := by
  constructor
  · intro divided
    obtain ⟨⟨found, left⟩, parts, further⟩ := bind_eq_ok.mp divided
    obtain ⟨_, native, further⟩ := bind_eq_ok.mp further
    obtain ⟨_, checked, made⟩ := bind_eq_ok.mp further
    cases made
    obtain ⟨joined, clientOnly, _⟩ := splitOperator_eq_ok.mp parts
    exact ⟨joined, requireNative_eq_ok.mp native, clientOnly, checked⟩
  · rintro ⟨joined, listed, clientOnly, checked⟩
    have parts : table.splitOperator operator = .ok (server, client) :=
      splitOperator_eq_ok.mpr ⟨joined, clientOnly, fun last among => listed last (List.mem_of_head? among)⟩
    rw [split, parts, ok_bind]
    simp only [requireNative_eq_ok.mpr listed, checked, ok_bind, pure_eq_ok]

end ClassificationTable

namespace Compiler

variable {compiler : Compiler} {plan optimized : Plan} {compiled : CompiledQuery} {server : List Step}

theorem compile_eq_ok :
    compiler.compile plan = .ok compiled ↔
      ∃ optimized server,
        (plan.fold >>= fun folded => folded.optimize compiler.table default) = .ok optimized ∧
          compiler.table.split optimized.root = .ok (server, compiled.clientSteps) ∧
            FindRequest.ofChain compiler.naming compiler.discriminator server.chain =
              .ok compiled.request := by
  rw [compile, ← bind_assoc]
  constructor
  · intro accepted
    obtain ⟨optimized, found, further⟩ := bind_eq_ok.mp accepted
    obtain ⟨⟨server, client⟩, divided, further⟩ := bind_eq_ok.mp further
    obtain ⟨request, translated, made⟩ := bind_eq_ok.mp further
    cases made
    exact ⟨optimized, server, found, divided, translated⟩
  · rintro ⟨optimized, server, found, divided, translated⟩
    rw [found, ok_bind, divided, ok_bind]
    simp only [translated, ok_bind, pure_eq_ok]

/-- How a plan is divided: the optimized plan is the steps of the server and then those of the client. -/
structure Divides (compiler : Compiler) (plan optimized : Plan) (server : List Step)
    (compiled : CompiledQuery) : Prop where
  optimizes : (plan.fold >>= fun folded => folded.optimize compiler.table default) = .ok optimized
  steps : optimized.steps = server ++ compiled.clientSteps
  request : FindRequest.ofChain compiler.naming compiler.discriminator server.reverse =
    .ok compiled.request
  native : ∀ step ∈ server, compiler.table.classOf step.kind = some .native
  clientOnly : ∀ step ∈ compiled.clientSteps, compiler.table.classOf step.kind = some .clientOnly
  inMemory : ∀ step ∈ compiled.clientSteps, step.runsInMemory
  ordered : SortsInOrder compiled.clientSteps

theorem compile_eq_ok_iff_divides :
    compiler.compile plan = .ok compiled ↔
      ∃ optimized server, Divides compiler plan optimized server compiled := by
  rw [compile_eq_ok]
  constructor
  · rintro ⟨optimized, operator, found, divided, translated⟩
    obtain ⟨joined, native, clientOnly, checked⟩ := ClassificationTable.split_eq_ok.mp divided
    obtain ⟨inMemory, ordered⟩ := (checkSteps_eq_ok false).mp checked
    refine ⟨optimized, operator.chain.reverse, found, ?_, by rwa [List.reverse_reverse],
      by simpa using native, clientOnly, inMemory, by simpa using ordered⟩
    rw [Plan.steps, ← Plan.root_chain, joined]
    simp
  · rintro ⟨optimized, server, divides⟩
    have joined : optimized.chain = compiled.clientSteps.reverse ++ server.reverse := by
      rw [← List.reverse_append, ← divides.steps, Plan.steps, List.reverse_reverse]
    have inner : (Plan.ofSteps server).root.chain = server.reverse := Plan.chain_ofSteps server
    refine ⟨optimized, (Plan.ofSteps server).root, divides.optimizes, ?_,
      inner ▸ divides.request⟩
    refine ClassificationTable.split_eq_ok.mpr ⟨by rw [inner]; exact joined,
      by simpa [inner] using divides.native, divides.clientOnly, ?_⟩
    exact (checkSteps_eq_ok false).mpr ⟨divides.inMemory, Or.inr divides.ordered⟩

namespace Divides

/-- The steps for the client are all those at the end that are left to it. -/
theorem isSuffix (divides : Divides compiler plan optimized server compiled) {first second : List Step}
    (split : optimized.steps = first ++ second)
    (left : ∀ step ∈ second, compiler.table.classOf step.kind = some .clientOnly) :
    second <:+ compiled.clientSteps := by
  have joined : server ++ compiled.clientSteps = first ++ second := divides.steps.symm.trans split
  obtain ⟨between, rfl, same⟩ | ⟨between, rfl, same⟩ := List.append_eq_append_iff.mp joined
  · exact ⟨between, same.symm⟩
  · cases between with
    | nil => exact ⟨[], by simpa using same⟩
    | cons step rest =>
      -- A step cannot be on both sides.
      have native := divides.native step (by simp)
      have clientOnly := left step (by simp [same])
      cases native.symm.trans clientOnly

end Divides

/-- Every operation of a plan that compiles is listed. -/
theorem listed_of_optimize {folded : Plan} {table : ClassificationTable} {options : OptimizerOptions}
    (folds : plan.fold = .ok folded) (accepted : folded.optimize table options = .ok optimized) :
    ∀ step ∈ plan.steps, (table.classOf step.kind).isSome := by
  obtain ⟨expanded, expands, _⟩ := Plan.optimize_eq_ok.mp accepted
  have kinds := Plan.map_fold (fun _ _ changed => (Step.kind_fold changed).1) folds
  intro step member
  have among : step.kind ∈ folded.chain.map Step.kind :=
    kinds ▸ List.mem_map_of_mem (List.mem_reverse.mp member)
  obtain ⟨other, inside, same⟩ := List.mem_map.mp among
  exact same ▸ expands.listed other inside

end Compiler

/-- Compiling divides a plan exactly. It succeeds just where the optimized plan is a list of native
steps, which makes the request, and then a list of steps left to the client, which can be carried out
in memory and sort by a first field before further ones. The latter list is as long as it can be, and
all operations of the plan are listed in the table: one that is not keeps the plan from compiling. -/
theorem compile_divides (compiler : Compiler) (plan : Plan) :
    (∀ compiled, compiler.compile plan = .ok compiled ↔
      ∃ optimized server, Compiler.Divides compiler plan optimized server compiled ∧
        (server = [] ∨ ∃ last ∈ server.getLast?, compiler.table.classOf last.kind = some .native) ∧
        (∀ first second, optimized.steps = first ++ second →
          (∀ step ∈ second, compiler.table.classOf step.kind = some .clientOnly) →
            second <:+ compiled.clientSteps) ∧
        ∀ step ∈ plan.steps, (compiler.table.classOf step.kind).isSome) ∧
      ∀ step ∈ plan.steps, compiler.table.classOf step.kind = none →
        ∃ failure, compiler.compile plan = .error failure := by
  have listed : ∀ optimized, (plan.fold >>= fun folded => folded.optimize compiler.table default) =
      .ok optimized → ∀ step ∈ plan.steps, (compiler.table.classOf step.kind).isSome := by
    intro optimized found
    obtain ⟨folded, folds, accepted⟩ := bind_eq_ok.mp found
    exact Compiler.listed_of_optimize folds accepted
  refine ⟨fun compiled => ⟨fun accepted => ?_, ?_⟩, fun step member unlisted => ?_⟩
  · obtain ⟨optimized, server, divides⟩ := Compiler.compile_eq_ok_iff_divides.mp accepted
    refine ⟨optimized, server, divides, ?_, fun _ _ => divides.isSuffix,
      listed optimized divides.optimizes⟩
    cases last : server.getLast? with
    | none => exact Or.inl (List.getLast?_eq_none_iff.mp last)
    | some step => exact Or.inr ⟨step, rfl, divides.native step (List.mem_of_getLast? last)⟩
  · rintro ⟨optimized, server, divides, _⟩
    exact Compiler.compile_eq_ok_iff_divides.mpr ⟨optimized, server, divides⟩
  · cases accepted : compiler.compile plan with
    | error failure => exact ⟨failure, rfl⟩
    | ok compiled =>
      obtain ⟨optimized, server, divides⟩ := Compiler.compile_eq_ok_iff_divides.mp accepted
      have known := listed optimized divides.optimizes step member
      rw [unlisted] at known
      cases known

end DocQuery
