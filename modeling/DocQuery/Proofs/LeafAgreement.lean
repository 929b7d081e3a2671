import DocQuery.Proofs.FlatClauses
import DocQuery.Proofs.PredicateTests

/-! A predicate without predicates inside and the clause that a request has for it agree on every
part of a document. Both judge that part by one test, which fails where the part is missing. -/

namespace DocQuery

/-- The part of a value that a clause is about. -/
def Target.held (target : Target) (value : Json) : Option Json :=
  match target with
  | .field name => value.lookup? (wireKeys name)
  | .element => some value

/-- A scope in which fields, and inside a quantifier the element, are those of a part of a document. -/
structure Scope.Views (scope : Scope) (naming : FieldNaming) (position : PredicateScope)
    (value : Json) : Prop where
  naming : scope.naming = some naming
  document : scope.document = some (.ofJson value)
  item : position = .element → scope.item = some (.ofJson value)

theorem Scope.views_document (naming : FieldNaming) (document : Json) :
    (Scope.ofDocument naming (.ofJson document)).Views naming .document document :=
  ⟨rfl, rfl, nofun⟩

theorem Scope.Views.element {scope : Scope} {naming : FieldNaming} {position : PredicateScope}
    {value : Json} (views : scope.Views naming position value) (item : Json) :
    (scope.ofElement (.ofJson item)).Views naming .element item :=
  ⟨views.naming, rfl, fun _ => rfl⟩

/-- Such a scope in which a whole document has an identity. -/
structure Scope.Shows (scope : Scope) (naming : FieldNaming) (position : PredicateScope)
    (value : Json) : Prop where
  naming : scope.naming = some naming
  document : scope.document = some (.ofJson value)
  item : position = .element → scope.item = some (.ofJson value)
  identity : position = .document → (value.get? "_id").isSome

theorem Scope.shows_document (naming : FieldNaming) {document : Json}
    (identity : (document.get? "_id").isSome) :
    (Scope.ofDocument naming (.ofJson document)).Shows naming .document document :=
  ⟨rfl, rfl, nofun, fun _ => identity⟩

theorem Scope.Shows.element {scope : Scope} {naming : FieldNaming} {position : PredicateScope}
    {value : Json} (shows : scope.Shows naming position value) (item : Json) :
    (scope.ofElement (.ofJson item)).Shows naming .element item :=
  ⟨shows.naming, rfl, fun _ => rfl, nofun⟩

namespace Expression

variable {naming : FieldNaming} {position : PredicateScope} {expression : Expression}
  {target : Target}

theorem IsTarget.target_eq (about : IsTarget naming position expression target) :
    expression.target naming position = .ok target := by
  cases about <;> rfl

theorem IsTarget.value?_of_views (about : IsTarget naming position expression target) {scope : Scope}
    {value : Json} (views : scope.Views naming position value) :
    expression.value? scope = .ok ((target.held value).map .ofJson) := by
  cases about with
  | field plain =>
    simp only [value?, Scope.lookup?, views.naming, views.document, Option.bind_some,
      Value.lookup?_ofJson, Target.held, naming.wireKeys_resolve plain]
    rfl
  | item => simp [value?, views.item rfl, Target.held]

theorem IsTarget.value?_eq (about : IsTarget naming position expression target) {scope : Scope}
    {value : Json} (shows : scope.Shows naming position value) :
    expression.value? scope = .ok ((target.held value).map .ofJson) :=
  about.value?_of_views ⟨shows.naming, shows.document, shows.item⟩

theorem IsTarget.isField_of_absent (about : IsTarget naming position expression target)
    {scope : Scope} (absent : expression.value? scope = .ok none) : expression.isField := by
  cases about with
  | field => rfl
  | item =>
    simp only [value?] at absent
    split at absent <;> cases absent

/-- A clause about a part asks its argument of that part. -/
theorem IsTarget.admits_condition (about : IsTarget naming position expression target)
    (op : String) (argument value : Json) :
    (target.condition op argument).admits (some value) =
      (single op argument).admits (target.held value) := by
  cases about with
  | field plain =>
    exact Json.admits_path value _ (SelectorKey.ofName_of_head (naming.resolve_head plain))
  | item => rfl

/-- A test other than that for presence fails where there is nothing to test. -/
theorem IsTarget.admits_test (about : IsTarget naming position expression target) {op : String}
    {test : ValueTest} (read : SelectorKey.ofName op = .test test) (other : op ≠ "$exists")
    {argument : Json} {judge : Json → Bool}
    (judges : ∀ held, test.apply op argument held = .ok (judge held)) (value : Json) :
    (target.condition op argument).admits (some value) =
      .ok ((target.held value).any judge) := by
  rw [about.admits_condition]
  cases target.held value with
  | none => simp [single, Json.admits, Json.requireAbsence, other]
  | some held => rw [Json.admits_test held argument read, judges]; rfl

theorem IsTarget.admits_equality (about : IsTarget naming position expression target)
    (argument value : Json) :
    (target.equality argument).admits (some value) =
      .ok ((target.held value).any fun held =>
        (Value.ofJson held).collatesEqual (.ofJson argument)) := by
  cases about with
  | item =>
    have read : SelectorKey.ofName "$eq" = .test (.compare .eq) := rfl
    exact Json.admits_test value argument read
  | @field _ path _ plain =>
    cases argument with
    | object entries =>
      have about : IsTarget naming position (.field path .value) _ := .field plain
      exact about.admits_test rfl (by decide) (fun _ => rfl) value
    | _ =>
      refine (Json.admits_path value _ (SelectorKey.ofName_of_head (naming.resolve_head plain))).trans ?_
      simp only [Target.held]
      cases value.lookup? (wireKeys (naming.resolve path)) <;> rfl

theorem IsTarget.comparisonClause_eq (about : IsTarget naming position expression target)
    (op : Comparison) (value : Value) :
    ∃ clause, comparisonClause naming position (.comparison op) expression value = .ok clause ∧
      ∀ document, clause.admits (some document) =
        .ok ((target.held document).any fun held =>
          op.holds ((Value.ofJson held).collate (.ofJson value.toJson))) := by
  have shape : comparisonClause naming position (.comparison op) expression value =
      .ok (if op = .eq then target.equality value.toJson
        else target.condition op.operator value.toJson) := by
    cases about <;> cases op <;> rfl
  refine ⟨_, shape, fun document => ?_⟩
  cases op with
  | eq => exact about.admits_equality _ _
  | _ => exact about.admits_test rfl (by decide) (fun _ => rfl) document

theorem IsLiteralSet.finite {set : Expression} {values : List Value}
    (literals : IsLiteralSet set values) : ∀ value ∈ values, value.isFinite := by
  cases literals with
  | list finite => exact finite
  | single finite _ => simpa using finite
  | items finite => exact finite

theorem literalItems_eq (values : List Value) :
    (values.map Expression.literal).mapM literalItem = .ok (values.map Value.toJson) := by
  induction values with
  | nil => rfl
  | cons value rest ih =>
    simp only [List.map_cons, List.mapM_cons, literalItem, ih, ok_bind, pure_eq_ok]

theorem IsLiteralSet.literalList_eq {set : Expression} {values : List Value}
    (literals : IsLiteralSet set values) : set.literalList = .ok (values.map Value.toJson) := by
  cases literals with
  | list _ => rfl
  | @single value _ lone =>
    cases value with
    | list items => exact absurd rfl (lone items)
    | _ => rfl
  | items _ => exact literalItems_eq values

theorem IsLiteralSet.ofJson_toJson {set : Expression} {values : List Value}
    (literals : IsLiteralSet set values) : (values.map Value.toJson).map Value.ofJson = values := by
  have same : ∀ value ∈ values, (Value.ofJson ∘ Value.toJson) value = id value :=
    fun value member => Value.ofJson_toJson value (literals.finite value member)
  rw [List.map_map, List.map_congr_left same, List.map_id]

/-- A clause asks of every value what a predicate asks of it. -/
def Agrees (naming : FieldNaming) (position : PredicateScope) (predicate : Expression)
    (clause : Json) : Prop :=
  ∀ scope value, Scope.Shows scope naming position value → ∃ answer,
    predicate.test scope = .ok answer ∧ clause.admits (some value) = .ok answer

theorem Agrees.not {predicate : Expression} {clause : Json}
    (agrees : Agrees naming position predicate clause) :
    Agrees naming position (.unary .not predicate) (single "$not" clause) := by
  intro scope value shows
  obtain ⟨answer, tested, admitted⟩ := agrees scope value shows
  exact ⟨!answer, by rw [test_not, tested]; rfl, by rw [Json.admits_not, admitted]; rfl⟩

theorem Agrees.polar {predicate : Expression} {clause : Json}
    (agrees : Agrees naming position predicate clause) (negated : Bool) :
    Agrees naming position (predicate.polar negated) (negatedIf negated clause) := by
  cases negated with
  | false => exact agrees
  | true => exact agrees.not

theorem Agrees.flipped {left : Expression} {value : Value} {clause : Json} (op : Comparison)
    (agrees : Agrees naming position (.binary (.comparison op.flipped) left (.literal value))
      clause) :
    Agrees naming position (.binary (.comparison op) (.literal value) left) clause := by
  intro scope document shows
  rw [test_flipped]
  exact agrees scope document shows

/-- A predicate that is false where its part is missing agrees with a test of that part. -/
theorem IsTarget.agrees (about : IsTarget naming position expression target) {op : String}
    (test : ValueTest) (judge : Json → Bool) (read : SelectorKey.ofName op = .test test)
    (other : op ≠ "$exists") {argument : Json}
    (judges : ∀ held, test.apply op argument held = .ok (judge held)) {predicate : Expression}
    (tests : ∀ scope (held : Option Json), expression.value? scope = .ok (held.map Value.ofJson) →
      predicate.test scope = .ok (held.any judge)) :
    Agrees naming position predicate (target.condition op argument) := by
  intro scope value shows
  exact ⟨_, tests scope _ (about.value?_eq shows), about.admits_test read other judges value⟩

theorem agrees_compare (op : Comparison) {value : Value}
    (about : IsTarget naming position expression target) (finite : value.isFinite) :
    ∃ clause, comparisonClause naming position (.comparison op) expression value = .ok clause ∧
      Agrees naming position (.binary (.comparison op) expression (.literal value)) clause := by
  obtain ⟨clause, found, admits⟩ := about.comparisonClause_eq op value
  refine ⟨clause, found, fun scope document shows => ⟨_, ?_, admits document⟩⟩
  rw [test_comparison op (about.value?_eq shows) rfl, Value.ofJson_toJson value finite]
  cases target.held document <;> rfl

theorem lengthEquals_eq (length : Nat) {count : Int64} (natural : 0 ≤ count.toInt) :
    (Ord.compare (Int64.ofNat length).toInt count.toInt == .eq) =
      (length % natBound64 == count.toInt.toNat) := by
  have small := count.toInt_lt
  rw [Bool.eq_iff_iff]
  simp only [beq_iff_eq, Std.LawfulEqCmp.compare_eq_iff_eq, Int64.toInt_ofNat', Int.bmod,
    Int64.size, natBound64]
  omega

theorem asList?_held (held : Option Json) :
    (held.map Value.ofJson).bind Value.asList? =
      (held.bind Json.asArray?).map (·.map Value.ofJson) := by
  cases held with
  | none => rfl
  | some value => exact Value.asList?_ofJson value

theorem agrees_size {count : Int64} (about : IsTarget naming position expression target)
    (natural : 0 ≤ count.toInt) :
    Agrees naming position
      (.binary (.comparison .eq) (.size expression) (.literal (.int count)))
      (target.condition "$size" (.integer count.toInt)) := by
  have small := count.toInt_lt
  have word : (Json.integer count.toInt).asNat64? = some count.toInt.toNat := by
    rw [Json.asNat64?, if_pos]
    exact ⟨natural, by simp only [natBound64]; omega⟩
  refine about.agrees .size (fun held => held.asArray?.any fun items =>
    items.length % natBound64 == count.toInt.toNat) rfl (by decide)
    (fun held => ValueTest.apply_size _ held word) ?_
  intro scope held found
  rw [test_comparison .eq (value?_size found) rfl, asList?_held]
  rcases held with _ | value
  · rfl
  · cases value with
    | array items =>
      have same := lengthEquals_eq items.length natural
      simp only [Json.asArray?, Option.bind_some, Option.map_some, Option.any_some,
        List.length_map, Value.collate, Comparison.holds]
      rw [same]
    | _ => rfl

theorem agrees_contains {required : Expression} {values : List Value}
    (about : IsTarget naming position expression target) (literals : IsLiteralSet required values) :
    Agrees naming position (.contains expression required)
      (target.condition "$all" (.array (values.map Value.toJson))) := by
  refine about.agrees .holdsAll (fun held => held.asArray?.any fun items =>
    Value.holdsAll (items.map Value.ofJson) values) rfl (by decide) ?_ ?_
  · intro held
    rw [ValueTest.apply_holdsAll, literals.ofJson_toJson]
  · intro scope held found
    rw [test_contains found literals, asList?_held]
    rcases held with _ | value
    · rfl
    · cases value <;> rfl

theorem agrees_isType (about : IsTarget naming position expression target) (type : JsonType) :
    Agrees naming position (.isType expression type)
      (target.condition "$type" (.string type.name)) := by
  refine about.agrees .type (fun held => (Value.ofJson held).jsonType == type) rfl (by decide) ?_ ?_
  · intro held
    change Except.ok ((Value.ofJson held).jsonType.name == type.name) = _
    cases (Value.ofJson held).jsonType <;> cases type <;> rfl
  · intro scope held found
    apply test_of_value?
    rcases held with _ | value
    · simp [value?, found, about.isField_of_absent found]
    · simp [value?, found]

theorem agrees_pattern {source : String} {compiled : Pattern}
    (about : IsTarget naming position expression target)
    (parsed : Pattern.parse? source = some compiled) :
    Agrees naming position (.pattern expression source)
      (target.condition "$regex" (.string source)) := by
  refine about.agrees .pattern (fun held => held.asString?.any compiled.occursIn) rfl (by decide)
    (fun held => ValueTest.apply_pattern _ held parsed) ?_
  intro scope held found
  rw [test_pattern found parsed]
  rcases held with _ | value
  · rfl
  · simp [Value.asString?_ofJson]

theorem agrees_presence {path : FieldPath} {kind : FieldKind} (expected : Bool)
    (plain : naming.isPlain path) :
    Agrees naming position (.presence (.field path kind) expected)
      (Target.condition (.field (naming.resolve path)) "$exists" (.bool expected)) := by
  intro scope value shows
  have about : IsTarget naming position (.field path kind) _ := .field plain
  rw [about.admits_condition]
  refine ⟨_, test_of_value? (by rw [value?, about.value?_eq shows]; rfl), ?_⟩
  cases Target.held _ value with
  | none =>
    simp only [single, Json.admits, Json.requireAbsence]
    cases expected <;> simp [isField, Json.asBool?]
  | some held =>
    have read : SelectorKey.ofName "$exists" = .test .presence := rfl
    rw [Json.admits_test held _ read]
    cases expected <;> rfl

theorem agrees_isIn {set : Expression} {values : List Value} (excluded : Bool)
    (about : IsTarget naming position expression target) (literals : IsLiteralSet set values) :
    Agrees naming position (.isIn expression set excluded)
      (target.condition (if excluded then "$nin" else "$in")
        (.array (values.map Value.toJson))) := by
  have tests : ∀ scope (held : Option Json), expression.value? scope = .ok (held.map Value.ofJson) →
      (Expression.isIn expression set excluded).test scope =
        .ok (held.any fun value => (Value.ofJson value).memberOf values != excluded) := by
    intro scope held found
    rw [test_isIn excluded found literals]
    cases held <;> rfl
  cases excluded with
  | false =>
    refine about.agrees .inSet _ rfl (by decide) (fun held => ?_) tests
    change Except.ok ((Value.ofJson held).memberOf ((values.map Value.toJson).map _)) = _
    rw [literals.ofJson_toJson, Bool.bne_false]
  | true =>
    refine about.agrees .notInSet _ rfl (by decide) (fun held => ?_) tests
    change Except.ok (!(Value.ofJson held).memberOf ((values.map Value.toJson).map _)) = _
    rw [literals.ofJson_toJson, Bool.bne_true]

theorem admits_truthClause {value : Json} (identity : position = .document → (value.get? "_id").isSome)
    (b : Bool) : (truthClause position b).admits (some value) = .ok b := by
  cases b with
  | true => rfl
  | false =>
    cases position with
    | element => rfl
    | document =>
      -- Every document has the identity whose absence the clause asks for.
      obtain ⟨found, there⟩ := Option.isSome_iff_exists.mp (identity rfl)
      have reached : value.lookup? ["_id"] = some found := by simp [Json.lookup?, there]
      have read : SelectorKey.ofName "_id" = .path ["_id"] := rfl
      rw [truthClause, Json.admits_path value _ read, reached]
      rfl

theorem agrees_truth (b negated : Bool) :
    Agrees naming position ((Expression.literal (.bool b)).polar negated)
      (truthClause position (b != negated)) := by
  intro scope value shows
  refine ⟨_, ?_, admits_truthClause shows.identity _⟩
  cases negated <;> cases b <;> rfl

/-- A leaf has one clause, and its negation has the negation of that clause. -/
theorem IsLeaf.clause {predicate : Expression} (leaf : IsLeaf naming position predicate) :
    ∃ clause, Agrees naming position predicate clause ∧ ∀ joining negated,
      predicate.clauses naming position joining negated = .ok [negatedIf negated clause] := by
  cases leaf with
  | compare op value about finite =>
    obtain ⟨clause, found, agrees⟩ := agrees_compare op about finite
    refine ⟨clause, agrees, fun joining negated => ?_⟩
    have compared : compareClause naming position (.comparison op) _ (.literal value) = .ok clause := found
    rw [clauses_comparison, compared]
    rfl
  | @compareFlipped _ right _ op value about finite =>
    obtain ⟨clause, found, agrees⟩ := agrees_compare op.flipped about finite
    refine ⟨clause, agrees.flipped op, fun joining negated => ?_⟩
    have compared : compareClause naming position (.comparison op) (.literal value) right = .ok clause := by
      rw [← found]
      cases about <;> rfl
    rw [clauses_comparison, compared]
    rfl
  | size count about natural =>
    refine ⟨_, agrees_size about natural, fun joining negated => ?_⟩
    cases about <;> rfl
  | sizeFlipped count about natural =>
    refine ⟨_, (agrees_size about natural).flipped .eq, fun joining negated => ?_⟩
    cases about <;> rfl
  | contains about set =>
    refine ⟨_, agrees_contains about set, fun joining negated => ?_⟩
    simp [clauses, about.target_eq, set.literalList_eq]
  | presence expected plain => exact ⟨_, agrees_presence expected plain, fun _ _ => rfl⟩
  | isType type about =>
    refine ⟨_, agrees_isType about type, fun joining negated => ?_⟩
    simp [clauses, about.target_eq]
  | pattern about parsed =>
    refine ⟨_, agrees_pattern about parsed, fun joining negated => ?_⟩
    simp [clauses, about.target_eq]
  | item =>
    have about : IsTarget naming .element .item .element := .item
    refine ⟨Target.equality .element (.bool true), fun scope document shows => ?_, fun _ _ => rfl⟩
    refine ⟨(Value.ofJson document).isTrue, ?_, ?_⟩
    · simp only [test, evaluate, value?, shows.item rfl]
      rfl
    · rw [about.admits_equality]
      exact congrArg Except.ok (Value.collatesEqual_true _)

end Expression
end DocQuery
