import DocQuery.Proofs.CompilationFailures

/-! What can go wrong when the client carries out steps: a predicate has no value, documents are missing or
too many, or they hold no numbers to sum. A sum is always a number, so an average never finds anything
else. -/

namespace DocQuery

/-- The failures of a step that runs in memory. -/
inductive Error.OfStep : Error → Prop where
  | evaluation {failure : Error} (evaluating : failure.OfEvaluation) : OfStep failure
  | noElements : OfStep .noElements
  | moreThanOneElement : OfStep .moreThanOneElement
  | cannotSum (typeName : String) : OfStep (.cannotSum typeName)

attribute [simp] Error.OfStep.noElements Error.OfStep.moreThanOneElement Error.OfStep.cannotSum

namespace Value

/-- Whether a value is an integer or a float. -/
def isNumeric : Value → Bool
  | .int _ | .float _ => true
  | _ => false

theorem asFloat?_of_isNumeric {value : Value} (numeric : value.isNumeric) :
    ∃ float, value.asFloat? = some float := by
  cases value with
  | int | float => exact ⟨_, rfl⟩
  | _ => cases numeric

theorem isNumeric_of_checked {op : ArithmeticOp} {result : Int} {value : Value}
    (fits : checked op result = .ok value) : value.isNumeric := by
  unfold checked at fits
  split at fits <;> cases fits
  rfl

theorem isNumeric_of_onFloats {op : ArithmeticOp} {apply : Binary64 → Binary64 → Binary64}
    {first second value : Value} (found : onFloats op apply first second = .ok value) :
    value.isNumeric := by
  unfold onFloats at found
  split at found <;> cases found
  rfl

theorem isNumeric_of_add {total value next : Value} (numeric : total.isNumeric)
    (added : total.add value = .ok next) : next.isNumeric := by
  unfold add at added
  split at added
  · cases numeric
  · exact isNumeric_of_checked added
  · exact isNumeric_of_onFloats added

theorem addToTotal_fails (total value : Value) : FailsOnly Error.OfStep (addToTotal total value) := by
  unfold addToTotal
  split
  · exact (ofArithmetic_fails _).mono fun _ => .evaluation
  · exact (ofArithmetic_fails _).mono fun _ => .evaluation
  · simp

theorem isNumeric_of_addToTotal {total value next : Value} (numeric : total.isNumeric)
    (added : addToTotal total value = .ok next) : next.isNumeric := by
  have sum : ofArithmetic (total.add value) = .ok next := by
    unfold addToTotal at added
    split at added
    · exact added
    · exact added
    · cases added
  cases found : total.add value with
  | error fault => rw [found] at sum; cases sum
  | ok result =>
    rw [found] at sum
    cases sum
    exact isNumeric_of_add numeric found

theorem sum_fails (values : List Value) : FailsOnly Error.OfStep (sum values) :=
  .foldlM (fun total value _ => addToTotal_fails total value) (.int 0)

/-- A sum is a number. -/
theorem isNumeric_sum {values : List Value} {total : Value} (summed : sum values = .ok total) :
    total.isNumeric :=
  foldlM_keeps (fun _ _ _ => isNumeric_of_addToTotal) rfl summed

theorem average_fails (values : List Value) : FailsOnly Error.OfStep (average values) := by
  unfold average
  split
  · simp
  · refine (sum_fails values).bind fun total summed => ?_
    obtain ⟨float, found⟩ := asFloat?_of_isNumeric (isNumeric_sum summed)
    simp [found]

theorem required_fails (value : Option Value) : FailsOnly Error.OfStep (required value) := by
  cases value <;> simp [required]

end Value

theorem AggregateFunction.apply_fails (function : AggregateFunction) (values : List Value) :
    FailsOnly Error.OfStep (function.apply values) := by
  cases function with
  | min | max => exact Value.required_fails _
  | sum => exact Value.sum_fails values
  | average => exact Value.average_fails values

theorem AggregateFunction.aggregate_fails (function : AggregateFunction) (field : String)
    (documents : List Json) : FailsOnly Error.OfStep (function.aggregate field documents) := by
  simp [aggregate, apply_fails]

theorem ElementKind.select_fails (kind : ElementKind) (documents : List Json) :
    FailsOnly Error.OfStep (kind.select documents) := by
  have picks : FailsOnly Error.OfStep (kind.pick documents) := by
    unfold pick
    repeat' split
    all_goals simp
  refine picks.bind fun found _ => ?_
  repeat' split
  all_goals simp

theorem keepMatching_fails (naming : FieldNaming) (predicate : Expression) (documents : List Json) :
    FailsOnly Error.OfStep (keepMatching naming predicate documents) :=
  .keepItems fun _ _ => (Expression.holds_fails _ naming _).mono fun _ => .evaluation

theorem keepOptional_fails (naming : FieldNaming) (predicate : Option Expression)
    (documents : List Json) : FailsOnly Error.OfStep (keepOptional naming predicate documents) := by
  cases predicate with
  | none => exact failsOnly_ok documents
  | some predicate => exact keepMatching_fails naming predicate documents

theorem Reducer.apply_fails (reducer : Reducer) (naming : FieldNaming) (documents : List Json) :
    FailsOnly Error.OfStep (reducer.apply naming documents) := by
  cases reducer with
  | aggregate function field => exact function.aggregate_fails _ documents
  | element kind => exact kind.select_fails documents
  | _ => simp [apply]

theorem Step.apply_fails {step : Step} (inMemory : step.runsInMemory) (naming : FieldNaming)
    (keys : List SortKey) (documents : List Json) :
    FailsOnly Error.OfStep (step.apply naming keys documents) := by
  cases step with
  | filter predicate | all predicate => simp [apply, keepMatching_fails]
  | any predicate => simp [apply, keepOptional_fails]
  | element kind predicate => simp [apply, keepOptional_fails, ElementKind.select_fails]
  | aggregate function field => exact function.aggregate_fails _ documents
  | reduce reducer => exact reducer.apply_fails naming documents
  | orderBy | thenBy | skip | take | project => simp [apply]
  | _ => cases inMemory

/-- The failures of a client. -/
def Error.OfClient (failure : Error) : Prop := failure.OfQuery ∨ failure.OfStep

theorem Execution.advance_fails {step : Step} (inMemory : step.runsInMemory) (naming : FieldNaming)
    (state : Execution) : FailsOnly Error.OfClient (state.advance naming step) := by
  unfold advance
  split
  · exact ((step.apply_fails inMemory naming _ _).mono fun _ => Or.inr).bind fun _ _ => failsOnly_ok _
  · simp [Error.OfClient]

theorem runSteps_fails (naming : FieldNaming) (steps : List Step) (documents : List Json) :
    FailsOnly Error.OfClient (runSteps naming steps documents) := by
  refine ((checkSteps_fails false steps).mono fun _ => Or.inl).bind fun _ checked => ?_
  have inMemory := ((checkSteps_eq_ok false).mp checked).1
  have advances : ∀ state : Execution, ∀ step ∈ steps,
      FailsOnly Error.OfClient (state.advance naming step) := fun state step among =>
    state.advance_fails (inMemory step among) naming
  exact (FailsOnly.foldlM advances _).bind fun state _ => failsOnly_ok state.output

end DocQuery
