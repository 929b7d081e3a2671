import DocQuery.Proofs.PredicateTests
import DocQuery.Proofs.SelectorMeaning
import DocQuery.Proofs.WirePaths

/-! Tests of remainders. A server divides integers of 64 bits only, and every other value leaves it no
remainder; a client divides every number, and has no answer for a value that is no number. -/

namespace DocQuery

/-- The test whether the value of a field leaves a remainder. -/
def Expression.leaves (path : FieldPath) (kind : FieldKind) (divisor remainder : Int64) : Expression :=
  .binary (.comparison .eq) (.binary (.arithmetic .mod) (.field path kind) (.literal (.int divisor)))
    (.literal (.int remainder))

/-- Whether a value is an integer of 64 bits that leaves a remainder. -/
def Json.leaves (divisor remainder : Int64) (value : Json) : Bool :=
  value.asInt64?.any fun dividend => dividend.tmod divisor.toInt == remainder.toInt

/-- Whether both sides judge a value alike: it is an integer of 64 bits, or a number that leaves another
remainder when it is divided as a float. -/
def Json.LeavesAlike (divisor remainder : Int64) (value : Json) : Prop :=
  value.asInt64?.isSome ∨ ∃ x, Value.ofJson value = .float x ∧
    (Value.float (x.rem (.ofInt divisor.toInt))).collatesEqual (.int remainder) = false

variable {divisor : Int64} (remainder : Int64)

section Server

theorem remainderTest_eq {value : Json} (whole : value.asInt64? = some leastInt64 → divisor ≠ -1) :
    remainderTest divisor.toInt remainder.toInt value = .ok (value.leaves divisor remainder) := by
  unfold remainderTest Json.leaves
  cases integer : value.asInt64? with
  | none => rfl
  | some dividend =>
    refine if_neg fun both => whole ?_ (Int64.toInt_inj.mp both.2)
    rw [integer, both.1]

variable {naming : FieldNaming} {path : FieldPath} (kind : FieldKind)

theorem selector_leaves (naming : FieldNaming) (path : FieldPath) (nonzero : divisor ≠ 0) :
    (Expression.leaves path kind divisor remainder).selector naming =
      .ok (single (naming.resolve path)
        (single "$mod" (.array [.integer divisor.toInt, .integer remainder.toInt]))) := by
  have clause : Expression.comparisonClause naming .document (.comparison .eq)
      (.binary (.arithmetic .mod) (.field path kind) (.literal (.int divisor))) (.int remainder) =
      .ok ((Target.field (naming.resolve path)).condition "$mod"
        (.array [.integer divisor.toInt, .integer remainder.toInt])) := by
    rw [Expression.comparisonClause, if_neg (by decide)]
    exact if_neg nonzero
  rw [Expression.selector, Expression.leaves, Expression.clauses_comparison, Expression.compareClause, clause]
  rfl

theorem selects_leaves {document : Json} (nonzero : divisor ≠ 0)
    (plain : (naming.resolve path).toList.head? ≠ some '$')
    (whole : ∀ value, document.lookup? (wireKeys (naming.resolve path)) = some value →
      value.asInt64? = some leastInt64 → divisor ≠ -1) :
    (single (naming.resolve path)
      (single "$mod" (.array [.integer divisor.toInt, .integer remainder.toInt]))).selects document =
      .ok ((document.lookup? (wireKeys (naming.resolve path))).any (·.leaves divisor remainder)) := by
  rw [Json.selects, Json.admits_path document _ (SelectorKey.ofName_of_head plain)]
  cases held : document.lookup? (wireKeys (naming.resolve path)) with
  | none => rfl
  | some value =>
    rw [Json.admits_test value _ rfl, ValueTest.apply_remainder _ _ _ nonzero]
    exact remainderTest_eq remainder (whole value held)

end Server

namespace Value

/-- What a client makes of the value of the field. -/
def leaves? (divisor remainder : Int64) (value : Value) : Except Error Bool :=
  (ofArithmetic (value.rem (.int divisor))).map (·.collatesEqual (.int remainder))

/-- The remainder of an integer of 64 bits has 64 bits itself. -/
theorem leaves?_int (nonzero : divisor ≠ 0) (dividend : Int64) :
    (Value.int dividend).leaves? divisor remainder =
      .ok (dividend.toInt.tmod divisor.toInt == remainder.toInt) := by
  have left : (Value.int (dividend % divisor)).collatesEqual (.int remainder) =
      (dividend.toInt.tmod divisor.toInt == remainder.toInt) := by
    rw [collatesEqual, collate, Int64.toInt_mod, Bool.eq_iff_iff]
    simp
  rw [leaves?, rem, if_neg nonzero, ← left]
  rfl

theorem leaves?_float (x : Binary64) :
    (Value.float x).leaves? divisor remainder =
      .ok ((Value.float (x.rem (.ofInt divisor.toInt))).collatesEqual (.int remainder)) := rfl

theorem leaves?_of_asFloat? {value : Value} (other : value.asFloat? = none) :
    value.leaves? divisor remainder =
      .error (.query (.arithmetic (.mismatch .mod value.typeName "int64"))) := by
  cases value with
  | int | float => cases other
  | _ => rfl

end Value

/-- A value is an integer of 64 bits, another number, or no number. -/
theorem Json.integer_or_float_or_other (value : Json) :
    (∃ i : Int64, value.asInt64? = some i.toInt ∧ Value.ofJson value = .int i) ∨
      value.asInt64? = none ∧
        ((∃ x, Value.ofJson value = .float x) ∨ (Value.ofJson value).asFloat? = none) := by
  cases value with
  | integer i =>
    by_cases fits : fitsInt64 i
    · refine .inl ⟨Int64.ofInt i, ?_, if_pos fits⟩
      rw [asInt64?, if_pos fits, Value.toInt_ofInt_of_fitsInt64 fits]
    · exact .inr ⟨if_neg fits, .inl ⟨_, if_neg fits⟩⟩
  | float x => exact .inr ⟨rfl, .inl ⟨x, rfl⟩⟩
  | _ => exact .inr ⟨rfl, .inr rfl⟩

section Client

variable (naming : FieldNaming) (path : FieldPath) (kind : FieldKind) (document : Json)

theorem value?_mod :
    (Expression.binary (.arithmetic .mod) (.field path kind) (.literal (.int divisor))).value?
        (.ofDocument naming (.ofJson document)) =
      match document.lookup? (naming.wireSegments path) with
      | none => .ok none
      | some value => (Value.ofArithmetic ((Value.ofJson value).rem (.int divisor))).map some := by
  rw [Expression.value?_arithmetic, Expression.value?_field_eq path kind rfl rfl]
  cases document.lookup? (naming.wireSegments path) with
  | none => rfl
  | some value =>
    change (Value.ofArithmetic ((Value.ofJson value).rem (.int divisor)) >>= fun left => .ok (some left)) =
      (Value.ofArithmetic ((Value.ofJson value).rem (.int divisor))).map some
    cases Value.ofArithmetic ((Value.ofJson value).rem (.int divisor)) <;> rfl

theorem holds_leaves :
    (Expression.leaves path kind divisor remainder).holds naming (.ofJson document) =
      match document.lookup? (naming.wireSegments path) with
      | none => .ok false
      | some value => (Value.ofJson value).leaves? divisor remainder := by
  rw [Expression.holds, Expression.evaluate, Expression.leaves, Expression.value?, value?_mod]
  cases document.lookup? (naming.wireSegments path) with
  | none => rfl
  | some value =>
    simp only [Value.leaves?]
    cases Value.ofArithmetic ((Value.ofJson value).rem (.int divisor)) <;> rfl

end Client

theorem leavesAlike_iff (nonzero : divisor ≠ 0) (value : Json) :
    value.LeavesAlike divisor remainder ↔
      (Value.ofJson value).leaves? divisor remainder = .ok (value.leaves divisor remainder) := by
  obtain ⟨i, integer, same⟩ | ⟨no, ⟨x, same⟩ | other⟩ := value.integer_or_float_or_other
  · refine iff_of_true (.inl (by simp [integer])) ?_
    rw [same, Value.leaves?_int remainder nonzero, Json.leaves, integer]
    rfl
  · rw [same, Value.leaves?_float, Json.leaves, Json.LeavesAlike, same, no]
    simp
  · have apart : ∀ x, Value.ofJson value ≠ .float x := by
      rintro x same
      rw [same] at other
      cases other
    rw [Value.leaves?_of_asFloat? remainder other, Json.LeavesAlike, no]
    simp [apart]

/-- Where a server and a client look at one value, the server always answers a test of a remainder. The client
gives the same answer exactly for integers of 64 bits, for numbers that leave another remainder as floats,
and where there is no value; it fails on what is no number. -/
theorem leaves_agrees_iff {naming : FieldNaming} {path : FieldPath} (kind : FieldKind)
    (divisor remainder : Int64) (document : Json)
    (same : wireKeys (naming.resolve path) = naming.wireSegments path)
    (plain : (naming.resolve path).toList.head? ≠ some '$') (nonzero : divisor ≠ 0)
    (whole : ∀ value, document.lookup? (naming.wireSegments path) = some value →
      value.asInt64? = some leastInt64 → divisor ≠ -1) :
    let test := Expression.leaves path kind divisor remainder
    let held := document.lookup? (naming.wireSegments path)
    ∃ selector, test.selector naming = .ok selector ∧
      selector.selects document = .ok (held.any (·.leaves divisor remainder)) ∧
      (test.holds naming (.ofJson document) = selector.selects document ↔
        ∀ value ∈ held, value.LeavesAlike divisor remainder) ∧
      ∀ value ∈ held, (Value.ofJson value).asFloat? = none →
        test.holds naming (.ofJson document) =
          .error (.query (.arithmetic (.mismatch .mod (Value.ofJson value).typeName "int64"))) := by
  intro test held
  have server := selects_leaves remainder nonzero plain (same ▸ whole)
  rw [same] at server
  refine ⟨_, selector_leaves remainder kind naming path nonzero, server, ?_, ?_⟩
  · rw [server, holds_leaves]
    cases there : document.lookup? (naming.wireSegments path) with
    | none => simp [held, there]
    | some value => simp [held, there, leavesAlike_iff remainder nonzero]
  · intro value among other
    rw [holds_leaves, show document.lookup? (naming.wireSegments path) = some value from among]
    exact Value.leaves?_of_asFloat? remainder other

/-- An age of 19 is odd on both sides. -/
theorem leaves_agrees_iff_age :
    let naming := FieldNaming.ofCase .unchanged
    let test := Expression.leaves ⟨["age"]⟩ .value 2 1
    let document : Json := .object [("_id", .string "a"), ("age", .integer 19)]
    ∃ selector, test.selector naming = .ok selector ∧ selector.selects document = .ok true ∧
      test.holds naming (.ofJson document) = .ok true := by
  intro naming test document
  have plain : naming.isPlain ⟨["age"]⟩ := by decide
  obtain ⟨selector, made, answers, agrees, _⟩ := leaves_agrees_iff .value 2 1 document
    (naming.wireKeys_resolve plain) (naming.resolve_head plain) (by decide) fun _ _ _ => by decide
  have alike : test.holds naming (.ofJson document) = selector.selects document :=
    agrees.mpr fun value among => by cases among; exact .inl rfl
  exact ⟨selector, made, answers, alike.trans answers⟩

/-- A text is not odd to a server, and has no remainder to a client. A float with an odd number is odd to the
client alone. -/
theorem leaves_disagrees :
    let naming := FieldNaming.ofCase .unchanged
    let test := Expression.leaves ⟨["age"]⟩ .value 2 1
    let aged (age : Json) : Json := .object [("_id", .string "a"), ("age", age)]
    ∃ selector, test.selector naming = .ok selector ∧
      selector.selects (aged (.string "old")) = .ok false ∧
      test.holds naming (.ofJson (aged (.string "old"))) =
        .error (.query (.arithmetic (.mismatch .mod "string" "int64"))) ∧
      selector.selects (aged (.float (.ofInt 5))) = .ok false ∧
      test.holds naming (.ofJson (aged (.float (.ofInt 5)))) = .ok true := by
  have odd : (Value.float ((Binary64.ofInt 5).rem (.ofInt 2))).collatesEqual (.int 1) := by decide +kernel
  exact ⟨_, rfl, rfl, rfl, rfl, congrArg Except.ok odd⟩

/-- What leaves a remainder is an integer of 64 bits. -/
theorem Json.leaves_iff {value : Json} : value.leaves divisor remainder = true ↔
    ∃ dividend : Int64, value = .integer dividend.toInt ∧
      dividend.toInt.tmod divisor.toInt = remainder.toInt := by
  rw [leaves, Option.any_eq_true]
  constructor
  · rintro ⟨i, whole, equal⟩
    obtain ⟨rfl, fits⟩ := asInt64?_eq_some.mp whole
    refine ⟨Int64.ofInt i, ?_, ?_⟩
    · rw [Value.toInt_ofInt_of_fitsInt64 fits]
    · rw [Value.toInt_ofInt_of_fitsInt64 fits]
      exact eq_of_beq equal
  · rintro ⟨dividend, rfl, equal⟩
    exact ⟨dividend.toInt, asInt64?_eq_some.mpr ⟨rfl, Value.fitsInt64_toInt dividend⟩, beq_of_eq equal⟩

/-- A server answers a test of a remainder for every value but the least integer, which it cannot divide by
minus one. The integers of 64 bits match that leave the remainder exactly, and no other values do. -/
theorem leaves_answered (naming : FieldNaming) (path : FieldPath) (kind : FieldKind)
    (divisor remainder : Int64) (nonzero : divisor ≠ 0) :
    ∃ condition,
      (Expression.leaves path kind divisor remainder).selector naming =
        .ok (single (naming.resolve path) condition) ∧
      (∀ value : Json,
        (value = .integer leastInt64 ∧ divisor = -1 →
          condition.admits (some value) = .error .remainderOverflow) ∧
        (¬(value = .integer leastInt64 ∧ divisor = -1) →
          condition.admits (some value) = .ok (value.leaves divisor remainder))) ∧
      (∀ value : Json, value.leaves divisor remainder = true ↔
        ∃ dividend : Int64, value = .integer dividend.toInt ∧
          dividend.toInt.tmod divisor.toInt = remainder.toInt) ∧
      ∀ document : Json, (naming.resolve path).toList.head? ≠ some '$' →
        (single (naming.resolve path) condition).selects document =
          match document.lookup? (wireKeys (naming.resolve path)) with
          | some value => condition.admits (some value)
          | none => .ok false := by
  refine ⟨_, selector_leaves remainder kind naming path nonzero, fun value => ?_,
    fun value => Json.leaves_iff remainder, fun document plain => ?_⟩
  · rw [Json.admits_test value _ rfl, ValueTest.apply_remainder _ _ _ nonzero]
    constructor
    · rintro ⟨rfl, rfl⟩
      rfl
    · intro other
      apply remainderTest_eq
      intro whole negative
      exact other ⟨(Json.asInt64?_eq_some.mp whole).1, negative⟩
  · rw [Json.selects, Json.admits_path document _ (SelectorKey.ofName_of_head plain)]
    cases document.lookup? (wireKeys (naming.resolve path)) <;> rfl

/-- Minus five leaves minus one when it is halved, and a text leaves nothing. -/
theorem leaves_answered_halved :
    let test := Expression.leaves ⟨["age"]⟩ .value 2 (-1)
    let aged (age : Json) : Json := .object [("_id", .string "a"), ("age", age)]
    ∃ selector, test.selector (.ofCase .unchanged) = .ok selector ∧
      selector.selects (aged (.integer (-5))) = .ok true ∧
      selector.selects (aged (.string "old")) = .ok false := by
  intro test aged
  obtain ⟨condition, made, answers, _, found⟩ :=
    leaves_answered (.ofCase .unchanged) ⟨["age"]⟩ .value 2 (-1) (by decide)
  have odd : condition.admits (some (.integer (-5))) = .ok true := by
    apply (answers _).2
    rintro ⟨_, ⟨⟩⟩
  have text : condition.admits (some (.string "old")) = .ok false := by
    apply (answers _).2
    rintro ⟨⟨⟩, _⟩
  exact ⟨_, made, (found (aged (.integer (-5))) (by decide)).trans odd,
    (found (aged (.string "old")) (by decide)).trans text⟩

/-- The least integer is a multiple of minus one, as a client says, and a server has no answer. -/
theorem leaves_unanswered :
    let naming := FieldNaming.ofCase .unchanged
    let test := Expression.leaves ⟨["age"]⟩ .value (-1) 0
    let document : Json := .object [("_id", .string "a"), ("age", .integer leastInt64)]
    ∃ selector, test.selector naming = .ok selector ∧
      selector.selects document = .error .remainderOverflow ∧
      leastInt64.tmod (-1) = 0 ∧ test.holds naming (.ofJson document) = .ok true :=
  ⟨_, rfl, rfl, rfl, rfl⟩

end DocQuery
