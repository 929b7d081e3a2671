import DocQuery.Plan.Codec
import DocQuery.Proofs.StoredExpressions

/-!
Plans that are stored come back: taking steps off a plan undoes putting them on it, each step is
read back from its own tree, and what is read from any tree is a plan that can be stored again.
-/

namespace DocQuery

open Json (Tree Fields FieldRule fields? toTree treesOfItems treesOfEntries)

theorem Json.treesOfItems_map {α : Type} (write : α → Json) (items : List α) :
    treesOfItems (items.map write) = items.map fun item => (write item).toTree := by
  induction items with
  | nil => rfl
  | cons item rest ih => rw [List.map_cons, treesOfItems, ih, List.map_cons]

theorem Json.listOf?_treesOfItems {α : Type} (write : α → Json) {read : Tree → Option α} {items : List α}
    (back : ∀ item ∈ items, read (write item).toTree = some item) :
    (Json.array (items.map write)).toTree.listOf? read = some items := by
  change (treesOfItems (items.map write)).mapM read = some items
  rw [treesOfItems_map]
  exact mapM_map_of_forall back

namespace Step

/-- The paths that a step names beside its predicate. -/
def paths : Step → List FieldPath
  | .orderBy field _ | .thenBy field _ | .aggregate _ field | .reduce (.aggregate _ field) => [field]
  | .project fields => fields
  | _ => []

/-- Whether the count of a step fits its machine word. -/
def countFits : Step → Bool
  | .skip count | .take count => decide (count < natBound64)
  | .readQuorum quorum => decide (quorum < natBound32)
  | _ => true

structure IsStorable (step : Step) : Prop where
  paths : ∀ path ∈ step.paths, path.isWritable
  predicate : ∀ predicate ∈ step.predicate?, predicate.IsStorable
  count : step.countFits

end Step

theorem decodePredicate?_encodeOptional (predicate : Option Expression)
    (storable : ∀ expression ∈ predicate, expression.IsStorable) :
    decodePredicate? (some (encodeOptional predicate).toTree) = some predicate := by
  cases predicate with
  | none => rfl
  | some expression =>
    -- No expression is written as null.
    have present : decodePredicate? (some expression.encode.toTree) =
        (Expression.decode? expression.encode.toTree).map some := by cases expression <;> rfl
    rw [encodeOptional, present, Expression.decode?_encode expression (storable expression rfl)]
    rfl

theorem Reducer.decode?_encode {reducer : Reducer} (paths : ∀ path ∈ (Step.reduce reducer).paths, path.isWritable) :
    decode? reducer.encode.toTree = some reducer := by
  cases reducer with
  | aggregate function field =>
    change (do
      let function ← chosen? AggregateFunction.all AggregateFunction.name (.string function.name)
      return Reducer.aggregate function (← FieldPath.decode? field.encode.toTree)) = _
    rw [chosen?_name (by cases function <;> decide) (by decide),
      FieldPath.decode?_encode (paths field (.head _))]
    rfl
  | any => rfl
  | notAny => rfl
  | element kind =>
    change (chosen? ElementKind.all ElementKind.name (.string kind.name)).map Reducer.element = _
    rw [chosen?_name (by cases kind <;> decide) (by decide)]
    rfl

namespace Step

theorem decodeOrder?_name (order : SortOrder) : decodeOrder? (some (.string order.name)) = some order :=
  chosen?_name (by cases order <;> decide) (by decide)

theorem asNatBelow?_ofNat {count bound : Nat} (fits : count < bound) :
    (Json.ofNat count).toTree.asNatBelow? bound = some count := by
  change (if 0 ≤ (count : Int) ∧ (count : Int) < bound then some (count : Int).toNat else none) = _
  rw [if_pos (by omega), Int.toNat_natCast]

theorem decode?_encode {step : Step} (storable : step.IsStorable) :
    decode? step.encode.toTree = some step := by
  obtain ⟨paths, predicates, fits⟩ := storable
  cases step with
  | filter predicate =>
    change (do return Step.filter (← Expression.decode? predicate.encode.toTree)) = _
    rw [Expression.decode?_encode predicate (predicates predicate rfl)]
    rfl
  | orderBy field order =>
    change (do
      return Step.orderBy (← FieldPath.decode? field.encode.toTree)
        (← decodeOrder? (some (.string order.name)))) = _
    rw [FieldPath.decode?_encode (paths field (.head _)), decodeOrder?_name]
    rfl
  | thenBy field order =>
    change (do
      return Step.thenBy (← FieldPath.decode? field.encode.toTree)
        (← decodeOrder? (some (.string order.name)))) = _
    rw [FieldPath.decode?_encode (paths field (.head _)), decodeOrder?_name]
    rfl
  | skip count =>
    have body (tree : Tree) : decode? (.object [(some "skip", .object [(some "count", tree)])]) =
        (do return Step.skip (← count? tree)) := rfl
    refine (body (Json.ofNat count).toTree).trans ?_
    rw [count?, asNatBelow?_ofNat (of_decide_eq_true fits)]
    rfl
  | take count =>
    have body (tree : Tree) : decode? (.object [(some "take", .object [(some "count", tree)])]) =
        (do return Step.take (← count? tree)) := rfl
    refine (body (Json.ofNat count).toTree).trans ?_
    rw [count?, asNatBelow?_ofNat (of_decide_eq_true fits)]
    rfl
  | project fields =>
    change (do
      return Step.project (← (Json.array (fields.map FieldPath.encode)).toTree.listOf? FieldPath.decode?)) = _
    have read : (Json.array (fields.map FieldPath.encode)).toTree.listOf? FieldPath.decode? = some fields :=
      Json.listOf?_treesOfItems FieldPath.encode fun path among =>
        FieldPath.decode?_encode (paths path among)
    rw [read]
    rfl
  | readQuorum quorum =>
    have body (tree : Tree) : decode? (.object [(some "read_quorum", .object [(some "quorum", tree)])]) =
        (do return Step.readQuorum (← tree.asNatBelow? natBound32)) := rfl
    refine (body (Json.ofNat quorum).toTree).trans ?_
    rw [asNatBelow?_ofNat (of_decide_eq_true fits)]
    rfl
  | useIndex index =>
    change (do return Step.useIndex (← (Json.array (index.map Json.string)).toTree.listOf? Tree.asString?)) = _
    rw [Json.listOf?_treesOfItems Json.string fun _ _ => rfl]
    rfl
  | any predicate =>
    change (do return Step.any (← decodePredicate? (some (encodeOptional predicate).toTree))) = _
    rw [decodePredicate?_encodeOptional predicate predicates]
    rfl
  | all predicate =>
    change (do return Step.all (← Expression.decode? predicate.encode.toTree)) = _
    rw [Expression.decode?_encode predicate (predicates predicate rfl)]
    rfl
  | element kind predicate =>
    change (do
      let kind ← chosen? ElementKind.all ElementKind.name (.string kind.name)
      return Step.element kind (← decodePredicate? (some (encodeOptional predicate).toTree))) = _
    rw [chosen?_name (by cases kind <;> decide) (by decide), decodePredicate?_encodeOptional predicate predicates]
    rfl
  | aggregate function field =>
    change (do
      let function ← chosen? AggregateFunction.all AggregateFunction.name (.string function.name)
      return Step.aggregate function (← FieldPath.decode? field.encode.toTree)) = _
    rw [chosen?_name (by cases function <;> decide) (by decide),
      FieldPath.decode?_encode (paths field (.head _))]
    rfl
  | reduce reducer =>
    change (do return Step.reduce (← Reducer.decode? reducer.encode.toTree)) = _
    rw [Reducer.decode?_encode paths]
    rfl
  | useBookmark | skipIndexUpdate | fromStable | includeExecutionStats | includeConflicts => rfl

end Step

theorem Json.hasWrittenNumbers_of_fields? {rules : List (String × FieldRule)} {tree part : Tree}
    {fields : Fields Tree} {name : String} (numbers : tree.hasWrittenNumbers)
    (reads : fields? rules tree = some fields) (found : fields.get? name = some part) :
    part.hasWrittenNumbers := by
  match tree with
  | .object entries =>
    exact Tree.entriesHaveWrittenNumbers_iff.mp numbers _ (mem_of_fieldsOfEntries? reads found)
  | .array items => exact Tree.haveWrittenNumbers_iff.mp numbers _ (mem_of_fieldsOfItems? reads found)
  | .null | .bool _ | .integer _ | .float _ | .string _ | .unreadable => cases reads

theorem Json.lt_of_asNatBelow? {tree : Tree} {bound count : Nat}
    (reads : tree.asNatBelow? bound = some count) : count < bound := by
  cases tree with
  | integer i =>
    simp only [Tree.asNatBelow?, Option.ite_none_right_eq_some, Option.some.injEq] at reads
    omega
  | _ => cases reads

theorem isWritable_of_listOf? {tree : Tree} {fields : List FieldPath}
    (reads : tree.listOf? FieldPath.decode? = some fields) : ∀ path ∈ fields, path.isWritable := by
  intro path among
  obtain ⟨items, _, reads⟩ := Option.bind_eq_some_iff.mp reads
  obtain ⟨item, _, read⟩ := Json.exists_of_mem_mapM reads among
  exact FieldPath.isWritable_of_decode? read

theorem isStorable_of_decodePredicate? {field : Option Tree} {predicate : Option Expression}
    (numbers : ∀ tree ∈ field, tree.hasWrittenNumbers) (reads : decodePredicate? field = some predicate) :
    ∀ expression ∈ predicate, expression.IsStorable := by
  rintro expression rfl
  cases field with
  | none => cases reads
  | some tree =>
    have denotes : Expression.decode? tree = some expression := by
      cases tree with
      | null => cases reads
      | _ => simpa [decodePredicate?, Json.Tree.optional?] using reads
    exact Expression.isStorable_of_decode? (numbers tree rfl) denotes

theorem Reducer.isWritable_of_decode? {tree : Tree} {reducer : Reducer} (reads : decode? tree = some reducer) :
    ∀ path ∈ (Step.reduce reducer).paths, path.isWritable := by
  unfold Reducer.decode? at reads
  split at reads
  case h_1 =>
    simp only [Option.bind_eq_bind, Option.bind_eq_some_iff, Option.pure_def] at reads
    obtain ⟨_, _, _, _, function, _, _, _, field, read, ⟨⟩⟩ := reads
    simpa [Step.paths] using FieldPath.isWritable_of_decode? read
  case h_2 =>
    obtain ⟨kind, _, rfl⟩ := Option.map_eq_some_iff.mp reads
    simp [Step.paths]
  case h_3 =>
    split at reads
    all_goals cases reads
    all_goals simp [Step.paths]

namespace Step

theorem isStorable_of_ofName? {name : String} {step : Step} (reads : ofName? name = some step) :
    step.IsStorable := by
  unfold ofName? at reads
  split at reads
  all_goals cases reads
  all_goals exact ⟨by simp [paths], by simp [predicate?], rfl⟩

theorem isStorable_of_ofForm? {name : String} {body : Tree} {step : Step}
    (numbers : body.hasWrittenNumbers) (reads : ofForm? name body = some step) : step.IsStorable := by
  unfold ofForm? at reads
  split at reads
  all_goals try simp only [Option.bind_eq_bind, Option.bind_eq_some_iff, Option.pure_def] at reads
  case h_1 | h_11 =>
    obtain ⟨tree, ⟨fields, read, found⟩, predicate, denotes, ⟨⟩⟩ := reads
    have inner := Json.hasWrittenNumbers_of_fields? numbers read found
    have storable := Expression.isStorable_of_decode? inner denotes
    exact ⟨by simp [paths], by simpa [predicate?] using storable, rfl⟩
  case h_2 | h_3 =>
    obtain ⟨_, _, _, _, field, read, order, _, ⟨⟩⟩ := reads
    have writable := FieldPath.isWritable_of_decode? read
    exact ⟨by simpa [paths] using writable, by simp [predicate?], rfl⟩
  case h_4 | h_5 | h_8 =>
    obtain ⟨_, _, count, read, ⟨⟩⟩ := reads
    exact ⟨by simp [paths], by simp [predicate?], decide_eq_true (Json.lt_of_asNatBelow? read)⟩
  case h_6 =>
    obtain ⟨_, _, fields, read, ⟨⟩⟩ := reads
    exact ⟨isWritable_of_listOf? read, by simp [predicate?], rfl⟩
  case h_7 | h_9 =>
    obtain ⟨_, _, text, _, ⟨⟩⟩ := reads
    exact ⟨by simp [paths], by simp [predicate?], rfl⟩
  case h_10 =>
    obtain ⟨fields, read, predicate, denotes, ⟨⟩⟩ := reads
    have inner : ∀ tree ∈ fields.get? "predicate", tree.hasWrittenNumbers :=
      fun _ found => Json.hasWrittenNumbers_of_fields? numbers read found
    exact ⟨by simp [paths], isStorable_of_decodePredicate? inner denotes, rfl⟩
  case h_12 =>
    obtain ⟨fields, read, _, _, kind, _, predicate, denotes, ⟨⟩⟩ := reads
    have inner : ∀ tree ∈ fields.get? "predicate", tree.hasWrittenNumbers :=
      fun _ found => Json.hasWrittenNumbers_of_fields? numbers read found
    exact ⟨by simp [paths], isStorable_of_decodePredicate? inner denotes, rfl⟩
  case h_13 =>
    obtain ⟨_, _, _, _, function, _, _, _, field, read, ⟨⟩⟩ := reads
    have writable := FieldPath.isWritable_of_decode? read
    exact ⟨by simpa [paths] using writable, by simp [predicate?], rfl⟩
  case h_14 =>
    obtain ⟨_, _, reducer, read, ⟨⟩⟩ := reads
    exact ⟨Reducer.isWritable_of_decode? read, by simp [predicate?], rfl⟩
  case h_15 => cases reads

theorem isStorable_of_decode? {tree : Tree} {step : Step} (numbers : tree.hasWrittenNumbers)
    (reads : decode? tree = some step) : step.IsStorable := by
  simp only [decode?, Option.orElse_eq_orElse, Option.orElse_eq_or, Option.or_eq_some_iff] at reads
  rcases reads with plain | ⟨_, formed⟩
  · obtain ⟨name, _, named⟩ := Option.bind_eq_some_iff.mp plain
    exact isStorable_of_ofName? named
  · split at formed
    case h_1 name body shown =>
      have inner : body.hasWrittenNumbers := by
        unfold Json.choice? at shown
        split at shown
        all_goals cases shown
        simpa [Json.Tree.hasWrittenNumbers, Json.Tree.entriesHaveWrittenNumbers] using numbers
      exact isStorable_of_ofForm? inner formed
    case h_2 => cases formed

end Step

namespace Plan

def IsStorable (plan : Plan) : Prop := ∀ step ∈ plan.steps, step.IsStorable

/-- The steps are what is unwrapped one after the other, the last one first. -/
theorem steps_eq_unwrapStep? (plan : Plan) :
    plan.steps = match plan.root.unwrapStep? with
      | none => []
      | some (step, input) => (mk input).steps ++ [step] := by
  obtain ⟨root⟩ := plan
  cases root using Operator.wrap_induction with
  | allDocuments => rfl
  | wrap input step _ =>
    rw [Operator.unwrapStep?_wrap]
    exact (congrArg List.reverse (Operator.chain_wrap input step)).trans List.reverse_cons

theorem decode?_encode {plan : Plan} (storable : plan.IsStorable) :
    decode? plan.encode.toTree = some plan := by
  change (do
    return Plan.ofSteps (← (Json.array (plan.steps.map Step.encode)).toTree.listOf? Step.decode?)) = _
  rw [Json.listOf?_treesOfItems Step.encode fun step among => Step.decode?_encode (storable step among),
    Option.bind_eq_bind, Option.bind_some, ofSteps_steps]
  rfl

theorem isStorable_of_decode? {tree : Tree} {plan : Plan} (numbers : tree.hasWrittenNumbers)
    (reads : decode? tree = some plan) : plan.IsStorable := by
  obtain ⟨fields, read, reads⟩ := Option.bind_eq_some_iff.mp reads
  obtain ⟨written, found, reads⟩ := Option.bind_eq_some_iff.mp reads
  obtain ⟨steps, listed, ⟨⟩⟩ := Option.bind_eq_some_iff.mp reads
  have inner := Json.hasWrittenNumbers_of_fields? numbers read found
  cases written with
  | array items =>
    intro step among
    rw [steps_ofSteps] at among
    obtain ⟨item, there, denotes⟩ := Json.exists_of_mem_mapM listed among
    exact Step.isStorable_of_decode? (Tree.haveWrittenNumbers_iff.mp inner item there) denotes
  | _ => cases listed

/-- A plan that can be written comes back from its tree, and what is read from any tree is such a
plan. Wrapping a step around an operator and unwrapping it are inverse, so nothing is lost between a plan
and its steps, which are listed by unwrapping. -/
theorem decode?_toTree_encode :
    (∀ plan : Plan, plan.IsStorable → decode? plan.encode.toTree = some plan) ∧
      (∀ (tree : Tree) (plan : Plan), tree.hasWrittenNumbers → decode? tree = some plan →
        plan.IsStorable ∧ decode? plan.encode.toTree = some plan) ∧
      (∀ steps : List Step, (ofSteps steps).steps = steps) ∧
      (∀ plan : Plan, ofSteps plan.steps = plan) ∧
      (∀ plan : Plan, plan.steps = match plan.root.unwrapStep? with
        | none => []
        | some (step, input) => (mk input).steps ++ [step]) ∧
      (∀ (operator input : Operator) (step : Step),
        operator.unwrapStep? = some (step, input) ↔ operator = input.wrap step) ∧
      ∀ operator : Operator, operator.unwrapStep? = none ↔ operator = .allDocuments := by
  refine ⟨fun plan => decode?_encode, fun tree plan numbers reads => ?_, steps_ofSteps, ofSteps_steps,
    steps_eq_unwrapStep?, fun operator input step => Operator.unwrapStep?_eq_some,
    fun operator => Operator.unwrapStep?_eq_none⟩
  have storable := isStorable_of_decode? numbers reads
  exact ⟨storable, decode?_encode storable⟩

/-- A plan with a literal in it, and a tree that leaves an order out. -/
theorem decode?_toTree_encode_owner :
    let owner : Expression := .field ⟨["owner", "name"]⟩ .value
    let literal : Expression := .literal (.map [("b", .int 1), ("a", .float .zero)])
    let plan := ofSteps [.filter (.binary (.comparison .eq) owner literal), .take 2]
    let tree : Tree := .object [(some "steps", .array [.object [(some "order_by", .array [.string "age"])]])]
    let ordered := ofSteps [.orderBy ⟨["age"]⟩ .ascending]
    (plan.IsStorable ∧ decode? plan.encode.toTree = some plan) ∧
      tree.hasWrittenNumbers = true ∧ decode? tree = some ordered ∧
        ordered.IsStorable ∧ decode? ordered.encode.toTree = some ordered := by
  intro owner literal plan tree ordered
  have storable : plan.IsStorable := by
    intro step among
    rw [steps_ofSteps] at among
    rcases List.mem_pair.mp among with rfl | rfl
    · refine ⟨by simp [Step.paths], ?_, rfl⟩
      rintro _ ⟨⟩
      refine Expression.isStorable_iff.mpr ⟨rfl, fun child among => ?_⟩
      rcases List.mem_pair.mp among with rfl | rfl
      · exact Expression.isStorable_iff.mpr ⟨by decide, by simp [owner, Expression.children]⟩
      · exact Expression.isStorable_iff.mpr ⟨by decide, by simp [literal, Expression.children]⟩
    · exact ⟨by simp [Step.paths], by simp [Step.predicate?], by decide⟩
  have reads : decode? tree = some ordered := rfl
  exact ⟨⟨storable, decode?_toTree_encode.1 plan storable⟩, rfl, reads,
    decode?_toTree_encode.2.1 tree ordered rfl reads⟩

end Plan
end DocQuery
