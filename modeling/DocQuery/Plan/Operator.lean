import DocQuery.Plan.Step

/-!
Operators. An operator is applied to what another one leaves, its input, and the innermost of them
stands for all documents of a database. Wrapping puts a step around an operator, and unwrapping takes
the outermost step off again.
-/

namespace DocQuery

inductive Operator where
  | allDocuments
  | filter (predicate : Expression) (input : Operator)
  | orderBy (field : FieldPath) (order : SortOrder) (input : Operator)
  | thenBy (field : FieldPath) (order : SortOrder) (input : Operator)
  | skip (count : Nat) (input : Operator)
  | take (count : Nat) (input : Operator)
  | project (fields : List FieldPath) (input : Operator)
  | useBookmark (bookmark : String) (input : Operator)
  | readQuorum (quorum : Nat) (input : Operator)
  | skipIndexUpdate (input : Operator)
  | fromStable (input : Operator)
  | useIndex (index : List String) (input : Operator)
  | includeExecutionStats (input : Operator)
  | includeConflicts (input : Operator)
  | any (predicate : Option Expression) (input : Operator)
  | all (predicate : Expression) (input : Operator)
  | element (kind : ElementKind) (predicate : Option Expression) (input : Operator)
  | aggregate (function : AggregateFunction) (field : FieldPath) (input : Operator)
  | reduce (reducer : Reducer) (input : Operator)
deriving Inhabited, BEq, Repr

namespace Operator

/-- Applies a step to an operator. -/
def wrap (input : Operator) : Step → Operator
  | .filter predicate => .filter predicate input
  | .orderBy field order => .orderBy field order input
  | .thenBy field order => .thenBy field order input
  | .skip count => .skip count input
  | .take count => .take count input
  | .project fields => .project fields input
  | .useBookmark bookmark => .useBookmark bookmark input
  | .readQuorum quorum => .readQuorum quorum input
  | .skipIndexUpdate => .skipIndexUpdate input
  | .fromStable => .fromStable input
  | .useIndex index => .useIndex index input
  | .includeExecutionStats => .includeExecutionStats input
  | .includeConflicts => .includeConflicts input
  | .any predicate => .any predicate input
  | .all predicate => .all predicate input
  | .element kind predicate => .element kind predicate input
  | .aggregate function field => .aggregate function field input
  | .reduce reducer => .reduce reducer input

/-- The outermost step, and the operator that it is applied to. All documents have no step. -/
def unwrapStep? : Operator → Option (Step × Operator)
  | .allDocuments => none
  | .filter predicate input => some (.filter predicate, input)
  | .orderBy field order input => some (.orderBy field order, input)
  | .thenBy field order input => some (.thenBy field order, input)
  | .skip count input => some (.skip count, input)
  | .take count input => some (.take count, input)
  | .project fields input => some (.project fields, input)
  | .useBookmark bookmark input => some (.useBookmark bookmark, input)
  | .readQuorum quorum input => some (.readQuorum quorum, input)
  | .skipIndexUpdate input => some (.skipIndexUpdate, input)
  | .fromStable input => some (.fromStable, input)
  | .useIndex index input => some (.useIndex index, input)
  | .includeExecutionStats input => some (.includeExecutionStats, input)
  | .includeConflicts input => some (.includeConflicts, input)
  | .any predicate input => some (.any predicate, input)
  | .all predicate input => some (.all predicate, input)
  | .element kind predicate input => some (.element kind predicate, input)
  | .aggregate function field input => some (.aggregate function field, input)
  | .reduce reducer input => some (.reduce reducer, input)

def input? : Operator → Option Operator
  | .allDocuments => none
  | .filter _ input | .orderBy _ _ input | .thenBy _ _ input | .skip _ input | .take _ input
  | .project _ input | .useBookmark _ input | .readQuorum _ input | .skipIndexUpdate input
  | .fromStable input | .useIndex _ input | .includeExecutionStats input | .includeConflicts input
  | .any _ input | .all _ input | .element _ _ input | .aggregate _ _ input | .reduce _ input =>
    some input

/-- The kind of the outermost operation, if there is one. -/
def kind? : Operator → Option OperationKind
  | .allDocuments => none
  | .filter .. => some .filter
  | .orderBy _ .ascending _ => some .orderBy
  | .orderBy _ .descending _ => some .orderByDescending
  | .thenBy _ .ascending _ => some .thenBy
  | .thenBy _ .descending _ => some .thenByDescending
  | .skip .. => some .skip
  | .take .. => some .take
  | .project .. => some .project
  | .useBookmark .. => some .useBookmark
  | .readQuorum .. => some .readQuorum
  | .skipIndexUpdate _ => some .skipIndexUpdate
  | .fromStable _ => some .fromStable
  | .useIndex .. => some .useIndex
  | .includeExecutionStats _ => some .includeExecutionStats
  | .includeConflicts _ => some .includeConflicts
  | .any .. => some .any
  | .all .. => some .all
  | .element kind _ _ => some kind.operation
  | .aggregate function _ _ => some function.operation
  | .reduce .. => some .reduce

section Wrapped

variable {operator input : Operator} {step : Step}

@[simp] theorem unwrapStep?_wrap (input : Operator) (step : Step) :
    (input.wrap step).unwrapStep? = some (step, input) := by
  cases step <;> rfl

theorem wrap_of_unwrapStep? (taken : operator.unwrapStep? = some (step, input)) :
    input.wrap step = operator := by
  cases operator with
  | allDocuments => cases taken
  | _ =>
    cases taken
    rfl

/-- Unwrapping undoes wrapping, and wrapping undoes unwrapping. -/
theorem unwrapStep?_eq_some : operator.unwrapStep? = some (step, input) ↔ operator = input.wrap step := by
  constructor
  · exact fun taken => (wrap_of_unwrapStep? taken).symm
  · rintro rfl
    exact unwrapStep?_wrap input step

theorem unwrapStep?_eq_none : operator.unwrapStep? = none ↔ operator = .allDocuments := by
  cases operator <;> simp [unwrapStep?]

@[simp] theorem input?_wrap (input : Operator) (step : Step) : (input.wrap step).input? = some input := by
  cases step <;> rfl

@[simp] theorem kind?_wrap (input : Operator) (step : Step) : (input.wrap step).kind? = some step.kind := by
  cases step with
  | orderBy field order | thenBy field order => cases order <;> rfl
  | _ => rfl

end Wrapped

/-- The number of steps around all documents. -/
def depth : Operator → Nat
  | .allDocuments => 0
  | .filter _ input | .orderBy _ _ input | .thenBy _ _ input | .skip _ input | .take _ input
  | .project _ input | .useBookmark _ input | .readQuorum _ input | .skipIndexUpdate input
  | .fromStable input | .useIndex _ input | .includeExecutionStats input | .includeConflicts input
  | .any _ input | .all _ input | .element _ _ input | .aggregate _ _ input | .reduce _ input =>
    input.depth + 1

theorem depth_wrap (input : Operator) (step : Step) : (input.wrap step).depth = input.depth + 1 := by
  cases step <;> rfl

theorem depth_of_unwrapStep? {operator input : Operator} {step : Step}
    (taken : operator.unwrapStep? = some (step, input)) : input.depth < operator.depth := by
  rw [unwrapStep?_eq_some.mp taken, depth_wrap]
  exact Nat.lt_succ_self _

theorem depth_of_input? {operator input : Operator} (given : operator.input? = some input) :
    input.depth < operator.depth := by
  cases operator with
  | allDocuments => cases given
  | _ =>
    cases given
    exact Nat.lt_succ_self _

/-- What holds of all documents and is kept by every step holds of every operator. -/
theorem wrap_induction {motive : Operator → Prop} (allDocuments : motive .allDocuments)
    (wrap : ∀ input step, motive input → motive (input.wrap step)) (operator : Operator) :
    motive operator := by
  match taken : operator.unwrapStep? with
  | none => exact unwrapStep?_eq_none.mp taken ▸ allDocuments
  | some (step, input) =>
    have kept := wrap input step (wrap_induction allDocuments wrap input)
    exact wrap_of_unwrapStep? taken ▸ kept
termination_by operator.depth
decreasing_by exact depth_of_unwrapStep? taken

/-- The steps around all documents, the outermost first. -/
@[semireducible] def chain (operator : Operator) : List Step :=
  match _ : operator.unwrapStep? with
  | none => []
  | some (step, input) => step :: input.chain
termination_by operator.depth
decreasing_by exact depth_of_unwrapStep? ‹_›

@[simp] theorem chain_allDocuments : allDocuments.chain = [] := rfl

@[simp] theorem chain_wrap (input : Operator) (step : Step) :
    (input.wrap step).chain = step :: input.chain := by
  rw [chain]
  split
  next taken => cases taken.symm.trans (unwrapStep?_wrap input step)
  next taken =>
    cases taken.symm.trans (unwrapStep?_wrap input step)
    rfl

theorem chain_foldl_wrap (steps : List Step) (inner : Operator) :
    (steps.foldl wrap inner).chain = steps.reverse ++ inner.chain := by
  induction steps generalizing inner with
  | nil => rfl
  | cons step rest ih => rw [List.foldl_cons, ih, chain_wrap, List.reverse_cons, List.append_cons]

theorem chain_inj {first second : Operator} : first.chain = second.chain ↔ first = second := by
  refine ⟨fun same => ?_, congrArg chain⟩
  induction first using wrap_induction generalizing second with
  | allDocuments =>
    cases second using wrap_induction with
    | allDocuments => rfl
    | wrap input step _ => cases same.trans (chain_wrap input step)
  | wrap input step ih =>
    rw [chain_wrap] at same
    cases second using wrap_induction with
    | allDocuments => cases same
    | wrap other last _ =>
      obtain ⟨rfl, inner⟩ := List.cons.inj (same.trans (chain_wrap other last))
      rw [ih inner]

/-- An operator is given by the steps around another one just where its chain ends in the chain of that
one. -/
theorem eq_foldl_wrap {operator inner : Operator} {steps : List Step} :
    operator = steps.foldl wrap inner ↔ operator.chain = steps.reverse ++ inner.chain := by
  rw [← chain_foldl_wrap, chain_inj]

end Operator
end DocQuery
