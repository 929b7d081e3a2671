import DocQuery.Proofs.DividedPlans
import DocQuery.Proofs.DraftAnswers
import DocQuery.Proofs.StepOrder
import DocQuery.QueryResult

/-! Where steps run makes no difference. The server answers for the first steps of a plan and the
client carries out the others on the answer, and that is what all steps make of all documents. -/

namespace DocQuery

namespace Step

/-- Whether a step chooses or orders documents in a way that a server and a client share: what it
filters by has a selector and is portable, so all numbers in it are finite. -/
def isPortable (naming : FieldNaming) : Step → Bool
  | .filter predicate => predicate.isPortable naming && (predicate.selector naming).toBool
  | .orderBy .. | .thenBy .. | .skip _ => true
  | .take count => count < natBound64
  | _ => false

/-- Whether steps choose and order documents in such a way, at most with a projection at the end. -/
def arePortable (naming : FieldNaming) : List Step → Bool
  | [] => true
  | [.project _] => true
  | step :: rest => step.isPortable naming && arePortable naming rest

theorem keepsRows_of_isPortable {naming : FieldNaming} {step : Step}
    (portable : step.isPortable naming) : step.KeepsRows naming := by
  cases step with
  | filter predicate =>
    simp only [isPortable, Bool.and_eq_true] at portable
    obtain ⟨portable, translatable⟩ := portable
    cases translated : predicate.selector naming with
    | error failure => rw [translated] at translatable; cases translatable
    | ok clause => exact .filter (Expression.selectable_of_selector portable translated)
  | orderBy field order => exact .orderBy field order
  | thenBy field order => exact .thenBy field order
  | skip count => exact .skip count
  | take count => exact .take (by simpa [isPortable] using portable)
  | _ => cases portable

end Step

namespace IsRowChain

variable {naming : FieldNaming} {chain later earlier : List Step}

theorem append (isChain : IsRowChain naming later)
    (keeps : ∀ step ∈ earlier, step.KeepsRows naming) : IsRowChain naming (later ++ earlier) := by
  cases isChain with
  | body all => exact .body fun step member => (List.mem_append.mp member).elim (all step) (keeps step)
  | project fields all =>
    exact .project fields fun step member =>
      (List.mem_append.mp member).elim (all step) (keeps step)

/-- Only the steps that are carried out last can project. -/
theorem split (isChain : IsRowChain naming (later ++ earlier)) :
    later = [] ∧ IsRowChain naming earlier ∨
      IsRowChain naming later ∧ ∀ step ∈ earlier, step.KeepsRows naming := by
  cases later with
  | nil => exact Or.inl ⟨rfl, isChain⟩
  | cons last input =>
    right
    cases isChain with
    | body keeps =>
      exact ⟨.body fun step member => keeps step (List.mem_append_left earlier member),
        fun step member => keeps step (List.mem_append_right (last :: input) member)⟩
    | project fields keeps =>
      exact ⟨.project fields fun step member => keeps step (List.mem_append_left earlier member),
        fun step member => keeps step (List.mem_append_right input member)⟩

theorem of_arePortable {steps : List Step} (portable : Step.arePortable naming steps) :
    IsRowChain naming steps.reverse := by
  induction steps using Step.arePortable.induct with
  | case1 => exact .body nofun
  | case2 fields => exact .project fields nofun
  | case3 step rest _ ih =>
    have both : step.isPortable naming ∧ Step.arePortable naming rest := by
      simpa only [Step.arePortable, Bool.and_eq_true] using portable
    rw [List.reverse_cons]
    refine (ih both.2).append fun other member => ?_
    cases List.mem_singleton.mp member
    exact Step.keepsRows_of_isPortable both.1

end IsRowChain

theorem filter_isOrderBy_frame (chain : List Step) :
    (frame chain).filter Step.isOrderBy = chain.filter Step.isOrderBy := by
  rw [frame, List.filter_filter]
  refine List.filter_congr fun step _ => ?_
  cases step <;> rfl

theorem skipTotal_frame (chain : List Step) : skipTotal (frame chain) = skipTotal chain := by
  induction chain with
  | nil => rfl
  | cons step input ih =>
    have framed : skipTotal (frame (step :: input)) = step.skipCount + skipTotal (frame input) := by
      cases step <;> simp [frame, Step.isFilter, skipTotal, Step.skipCount]
    rw [framed, ih, skipTotal]

theorem frame_reverse (chain : List Step) : frame chain.reverse = (frame chain).reverse :=
  List.filter_reverse

theorem skipTotal_reverse (chain : List Step) : skipTotal chain.reverse = skipTotal chain := by
  induction chain with
  | nil => rfl
  | cons step input ih =>
    rw [List.reverse_cons, skipTotal_append, ih]
    exact Nat.add_comm _ _

namespace Rows

variable {naming : FieldNaming} {documents : List Json}

theorem run_reverse (steps : List Step) (rows : Rows) :
    rows.run naming steps.reverse =
      steps.foldl (fun rows step => rows.advance naming step) rows := by
  rw [run, List.foldr_reverse]

/-- The client's steps make of the documents that are found what they make of the rows. -/
theorem runSteps_found {client server : List Step} {found : List Json}
    (isChain : IsRowChain naming (client.reverse ++ server))
    (proper : (ofDocuments documents).Proper) (checked : checkSteps false client = .ok ())
    (same : found = ((ofDocuments documents).run naming server).documents) :
    runSteps naming client found =
      .ok (.documents ((ofDocuments documents).run naming (client.reverse ++ server)).documents) := by
  obtain ⟨unsplit, _⟩ | ⟨isLater, keeps⟩ := isChain.split
  · rw [List.reverse_eq_nil_iff.mp unsplit, same]
    rfl
  · have properFound : (ofDocuments found).Proper := by
      rw [same]
      exact proper.run keeps
    have ran := runSteps_eq properFound isLater
    rw [List.reverse_reverse, checked, map_ok] at ran
    -- The rows after the steps of the server are sorted already, which the client does not know.
    have alike : ((ofDocuments found).run naming client.reverse).documents =
        (((ofDocuments documents).run naming server).run naming client.reverse).documents := by
      rw [run_reverse, run_reverse]
      exact foldl_documents naming checked same nofun
    have whole : ((ofDocuments documents).run naming server).run naming client.reverse =
        (ofDocuments documents).run naming (client.reverse ++ server) :=
      List.foldr_append.symm
    rw [ran, alike, whole]

end Rows

section Joined

variable {steps server client : List Step} (framed : frame (client.reverse ++ server) = frame steps.reverse)
include framed

theorem orders_server_le :
    (server.filter Step.isOrderBy).length ≤ (steps.filter Step.isOrderBy).length := by
  have orders := congrArg (fun chain => (chain.filter Step.isOrderBy).length) framed
  simp only [filter_isOrderBy_frame, List.filter_append, List.length_append, List.filter_reverse,
    List.length_reverse] at orders
  omega

theorem skipTotal_server_le : skipTotal server ≤ skipTotal steps := by
  have total := congrArg skipTotal framed
  rw [skipTotal_frame, skipTotal_frame, skipTotal_append, skipTotal_reverse, skipTotal_reverse] at total
  omega

theorem checkSteps_joined (before : checkSteps false server.reverse = .ok ())
    (checked : checkSteps false client = .ok ()) : checkSteps false steps = .ok () := by
  have inOrder : checkSteps false (client.reverse ++ server).reverse = .ok () := by
    rw [List.reverse_append, List.reverse_reverse, checkSteps_append, before, ok_bind]
    exact checkSteps_ordered checked _
  rw [checkSteps_frame, frame_reverse, framed, ← frame_reverse, List.reverse_reverse] at inOrder
  rw [checkSteps_frame, inOrder]

end Joined

/-- Where steps run makes no difference: a plan that compiles gives, whichever of its operations the
server lacks, what its steps make of all documents. The numbers that its filters compare with are
finite: a request has null in the place of any other, and null is ordered apart from all numbers. -/
theorem execute_eq_runSteps (compiler : Compiler) (store : Store) (database : String)
    (steps : List Step) (documents : List Json) {compiled : CompiledQuery}
    (portable : Step.arePortable compiler.naming steps)
    (single : (steps.filter Step.isOrderBy).length ≤ 1) (word : skipTotal steps < natBound64)
    (plain : ∀ step ∈ steps, compiler.table.classOf step.kind = some .native ∨
      compiler.table.classOf step.kind = some .clientOnly)
    (whole : compiler.discriminator = none) (rows : ∀ document ∈ documents, document.IsRow)
    (ready : store.failure = none) (held : store.databases.get? database = some documents)
    (accepted : compiler.compile (.ofSteps steps) = .ok compiled) :
    ∃ remaining, runSteps compiler.naming steps documents = .ok (.documents remaining) ∧
      ∃ result, (compiler.execute store database (.ofSteps steps)).1 = .ok result ∧
        result.output = .documents remaining := by
  have isChain := IsRowChain.of_arePortable portable
  obtain ⟨optimized, found, isOptimized, framed, same⟩ := Plan.optimize_rows isChain
    fun step member => plain step (List.mem_reverse.mp member)
  rw [← Plan.ofSteps_eq] at found
  obtain ⟨_, native, found', divided, translated⟩ := Compiler.compile_eq_ok.mp accepted
  cases found.symm.trans found'
  obtain ⟨joined, _, _, checked⟩ := ClassificationTable.split_eq_ok.mp divided
  rw [Plan.root_chain, Plan.chain_ofChain] at joined
  generalize native.chain = server at joined translated
  subst joined
  have isServer : IsRowChain compiler.naming server := by
    obtain ⟨_, isServer⟩ | ⟨_, keeps⟩ := isOptimized.split
    · exact isServer
    · exact .body keeps
  rw [whole] at translated
  obtain ⟨response, answered, docs⟩ := FindRequest.answer_ofChain isServer rows
    (Nat.le_trans (orders_server_le framed) single)
    (Nat.lt_of_le_of_lt (skipTotal_server_le framed) word) translated store.warning
  -- The client makes of the answer what the optimized chain makes of all documents.
  have ran := Rows.runSteps_found isOptimized rows checked docs
  rw [same (.ofDocuments documents) rows] at ran
  -- So do all steps by themselves, as they are in order.
  have ordered : checkSteps false steps = .ok () := by
    obtain ⟨draft, drafted, _⟩ := bind_eq_ok.mp translated
    exact checkSteps_joined framed (RequestDraft.checkSteps_of_ofChain isServer drafted) checked
  have all := Rows.runSteps_eq rows isChain
  rw [List.reverse_reverse, ordered] at all
  have executed : (compiler.execute store database (.ofSteps steps)).1 =
      (runSteps compiler.naming compiled.clientSteps response.docs).map fun output =>
        ⟨output, response.bookmark, response.executionStats, response.warning⟩ := by
    rw [Compiler.fst_execute, accepted]
    simp only [Store.respond, ready, held, answered, ok_bind, CompiledQuery.resultOf]
    cases runSteps compiler.naming compiled.clientSteps response.docs <;> rfl
  rw [ran, map_ok] at executed
  exact ⟨_, all, _, executed, rfl⟩

/-- A server that can neither sort nor limit leaves the end of a plan to the client. -/
theorem execute_eq_runSteps_unsorted :
    let naming : FieldNaming := .ofCase .unchanged
    let table := (ClassificationTable.standard.insert .orderBy .clientOnly).insert .take .clientOnly
    let compiler : Compiler := ⟨naming, table, none⟩
    let age : FieldPath := ⟨["age"]⟩
    let documents : List Json :=
      [.object [("_id", .string "1"), ("age", .integer 23)],
        .object [("_id", .string "2"), ("age", .integer 19)],
        .object [("_id", .string "3"), ("age", .integer 53)]]
    let store := Store.empty.withDatabase "people" documents
    let steps : List Step :=
      [.filter (.binary (.comparison .lt) (.field age .value) (.literal (.int 50))),
        .orderBy age .ascending, .take 1]
    (compiler.compile (.ofSteps steps)).map CompiledQuery.clientSteps =
        .ok [.orderBy age .ascending, .take 1] ∧
      ∃ remaining, runSteps naming steps documents = .ok (.documents remaining) ∧
        ∃ result, (compiler.execute store "people" (.ofSteps steps)).1 = .ok result ∧
          result.output = .documents remaining := by
  intro naming table compiler age documents store steps
  have rows : ∀ document ∈ documents, document.IsRow := by
    intro document member
    simp only [documents, List.mem_cons, List.not_mem_nil, or_false] at member
    obtain rfl | rfl | rfl := member <;> exact ⟨rfl, rfl⟩
  have plain : ∀ step ∈ steps, compiler.table.classOf step.kind = some .native ∨
      compiler.table.classOf step.kind = some .clientOnly := by
    intro step member
    simp only [steps, List.mem_cons, List.not_mem_nil, or_false] at member
    obtain rfl | rfl | rfl := member <;> decide
  have left : (compiler.compile (.ofSteps steps)).map CompiledQuery.clientSteps =
      .ok [.orderBy age .ascending, .take 1] := rfl
  refine ⟨left, ?_⟩
  cases accepted : compiler.compile (.ofSteps steps) with
  | error failure => rw [accepted] at left; cases left
  | ok compiled =>
    exact execute_eq_runSteps compiler store "people" steps documents (by decide) (by decide) (by decide)
      plain rfl rows rfl rfl accepted

/-- The identities of the documents of an output. -/
def Output.identities : Output → List String
  | .documents items => items.filterMap fun item => (item.get? "_id").bind Json.asString?
  | .document item => item.toList.filterMap fun item => (item.get? "_id").bind Json.asString?
  | _ => []

/-- An age of five up to a bound that is no number. The predicate has a selector, in which null stands for the
bound: the server finds no age up to it, but the client takes the bound for equal to every age. -/
theorem execute_filter_nan :
    let naming : FieldNaming := .ofCase .unchanged
    let documents : List Json := [.object [("_id", .string "a"), ("age", .integer 5)]]
    let store := Store.empty.withDatabase "people" documents
    let bounded : Expression :=
      .binary (.comparison .le) (.field ⟨["age"]⟩ .value) (.literal (.float .nan))
    let steps : List Step := [.filter bounded]
    bounded.selector naming = .ok (single "age" (single "$lte" .null)) ∧
      (Compiler.execute ⟨naming, .standard, none⟩ store "people" (.ofSteps steps)).1.toOption.map
          (·.output.identities) = some [] ∧
        (runSteps naming steps documents).toOption.map Output.identities = some ["a"] := by
  intro naming documents store bounded steps
  refine ⟨rfl, ?_, ?_⟩ <;> decide +kernel

end DocQuery
