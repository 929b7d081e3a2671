import DocQuery.Proofs.LeafAgreement
import DocQuery.Proofs.RequestKeys

/-! A server that tests the selector of a portable predicate and a client that evaluates its normal
form select the same documents. Agreement goes from the operands of a connective and from the
predicate of a quantifier to the whole, and neither side fails. -/

namespace DocQuery
namespace Expression

variable {naming : FieldNaming} {position : PredicateScope} {expression : Expression}
  {target : Target}

/-- A quantifier agrees with the clause on its list if the predicates on the elements agree. -/
theorem agrees_quantifier {predicate : Expression} {clause : Json} (kind : QuantifierKind)
    (about : IsTarget naming position expression target)
    (inner : Agrees naming .element predicate clause) :
    Agrees naming position (.quantifier kind expression predicate)
      (target.condition (QuantifierKind.operator kind) clause) := by
  intro scope value shows
  have read : SelectorKey.ofName (QuantifierKind.operator kind) = .quantifier kind := by
    cases kind <;> rfl
  have answers : ∀ item : Json, ∃ answer, clause.admits (some item) = .ok answer := fun item =>
    let ⟨answer, _, admitted⟩ := inner _ item (shows.element item)
    ⟨answer, admitted⟩
  have same : (fun item : Json => predicate.test (scope.ofElement (.ofJson item))) =
      fun item => clause.admits (some item) := by
    funext item
    obtain ⟨answer, tested, admitted⟩ := inner _ item (shows.element item)
    rw [tested, admitted]
  rw [test_quantifier kind predicate (about.value?_eq shows), about.admits_condition, asList?_held]
  cases target.held value with
  | none => exact ⟨false, rfl, by cases kind <;> rfl⟩
  | some held =>
    rw [Json.admits_quantifier held clause read, Option.bind_some]
    cases held.asArray? with
    | none => exact ⟨false, rfl, rfl⟩
    | some items =>
      simp only [Option.map_some, kind.decide_map, same]
      obtain ⟨answer, decided⟩ := kind.decide_answers answers items
      exact ⟨answer, decided, decided⟩

/-- A connective agrees with the array of the clauses of its operands. -/
theorem Agrees.connective {left right : Expression} {first second : Json} (op : Connective)
    (ofLeft : Agrees naming position left first) (ofRight : Agrees naming position right second)
    (negated : Bool) :
    Agrees naming position ((Expression.binary (.connective op) left right).polar negated)
      (connect op negated [first, second]) := by
  have plain : Agrees naming position (.binary (.connective op) left right)
      (connect op false [first, second]) := by
    intro scope value shows
    obtain ⟨held, testedLeft, admittedLeft⟩ := ofLeft scope value shows
    obtain ⟨other, testedRight, admittedRight⟩ := ofRight scope value shows
    refine ⟨_, test_connective_of_answers testedLeft testedRight, ?_⟩
    rw [admits_connect]
    cases op <;> cases held <;> cases other <;>
      simp [Json.admitsEvery, Json.admitsSome, admittedLeft, admittedRight, Connective.join]
  cases negated with
  | false => exact plain
  | true =>
    intro scope value shows
    obtain ⟨answer, tested, admitted⟩ := plain scope value shows
    exact ⟨!answer, by rw [Expression.polar, if_pos rfl, test_not, tested]; rfl,
      by rw [admits_connect_negated, admitted]; rfl⟩

theorem IsLeaf.normalize_polar {predicate : Expression} (leaf : IsLeaf naming position predicate)
    (negated : Bool) : (predicate.polar negated).normalize = predicate.polar negated := by
  cases leaf <;> cases negated <;> rfl

/-- The clause of a selectable predicate agrees with its normal form, and so do those of its
negation. -/
theorem Selectable.clause {predicate : Expression} (selectable : Selectable naming position predicate)
    (negated : Bool) :
    ∃ clause, predicate.clauses naming position none negated = .ok [clause] ∧
      Agrees naming position (predicate.polar negated).normalize clause := by
  induction selectable generalizing negated with
  | leaf leaf =>
    obtain ⟨clause, agrees, found⟩ := leaf.clause
    refine ⟨_, found none negated, ?_⟩
    rw [leaf.normalize_polar]
    exact agrees.polar negated
  | truth b =>
    refine ⟨_, rfl, ?_⟩
    cases negated with
    | false => exact agrees_truth b false
    | true => exact agrees_truth b true
  | @flag position path plain =>
    have about : IsTarget naming position (.field path .boolean) _ := .field plain
    have finite : (Value.bool !negated).isFinite = true := rfl
    obtain ⟨clause, found, agrees⟩ := agrees_compare .eq about finite
    cases found
    refine ⟨_, rfl, ?_⟩
    cases negated <;> exact agrees
  | @isIn _ operand _ set values excluded about literals =>
    refine ⟨_, by rw [clauses, about.target_eq, literals.literalList_eq]; rfl, ?_⟩
    have agrees := agrees_isIn (excluded != negated) about literals
    cases negated <;> cases excluded <;> exact agrees
  | not inner ih =>
    obtain ⟨clause, found, agrees⟩ := ih (!negated)
    cases negated with
    | false => exact ⟨clause, found, agrees⟩
    | true => exact ⟨clause, found, agrees⟩
  | connective op first second ofFirst ofSecond =>
    obtain ⟨left, foundLeft, agreesLeft⟩ := ofFirst false
    obtain ⟨right, foundRight, agreesRight⟩ := ofSecond false
    refine ⟨connect op negated [left, right], ?_, ?_⟩
    · rw [clauses_connective, foundLeft, foundRight]
      rfl
    · have agrees := agreesLeft.connective op agreesRight negated
      cases negated <;> exact agrees
  | quantifier kind about inner ih =>
    obtain ⟨clause, found, agrees⟩ := ih false
    refine ⟨_, by rw [clauses, about.target_eq, found]; rfl, ?_⟩
    have quantified := (agrees_quantifier kind about agrees).polar negated
    cases negated <;> exact quantified

/-- A selectable predicate has a selector, which selects just the documents of which the normal form
of the predicate holds. -/
theorem Selectable.selects {predicate : Expression}
    (selectable : Selectable naming .document predicate) :
    ∃ selector, predicate.selector naming = .ok selector ∧
      ∀ document : Json, (document.get? "_id").isSome → ∃ answer,
        selector.selects document = .ok answer ∧
          predicate.normalize.holds naming (.ofJson document) = .ok answer := by
  obtain ⟨clause, found, agrees⟩ := selectable.clause false
  refine ⟨clause, by rw [selector, found]; rfl, fun document identity => ?_⟩
  obtain ⟨answer, tested, admitted⟩ :=
    agrees _ document (Scope.shows_document naming identity)
  exact ⟨answer, admitted, tested⟩

end Expression

/-- The server and the client select the same documents: what the request of a portable predicate
selects is what its normal form holds of, and neither side fails. -/
theorem selects_eq_holds {naming : FieldNaming} {predicate : Expression} {request : FindRequest}
    {document : Json} (portable : predicate.isPortable naming)
    (identity : (document.get? "_id").isSome)
    (accepted : FindRequest.ofChain naming none [.filter predicate] = .ok request) :
    ∃ answer, request.condition.selects document = .ok answer ∧
      predicate.normalize.holds naming (.ofJson document) = .ok answer := by
  obtain ⟨draft, drafted, finished⟩ := bind_eq_ok.mp accepted
  have filtered : RequestDraft.empty.addFilter naming predicate = .ok draft := drafted
  obtain ⟨_, clause, translated, rfl⟩ := RequestDraft.addFilter_eq_ok.mp filtered
  have selectable := Expression.selectable_of_selector portable translated
  obtain ⟨selector, found, agrees⟩ := selectable.selects
  obtain ⟨answer, selects, holds⟩ := agrees document identity
  cases translated.symm.trans found
  refine ⟨answer, ?_, holds⟩
  rw [RequestDraft.selects_finish finished, ← selects]
  exact Json.admitsEvery_singleton document clause

/-- The predicate of documents without a title of which some part has no number above two. -/
theorem selects_eq_holds_untitled :
    let naming := FieldNaming.ofCase .unchanged
    let untitled : Expression := .presence (.field ⟨["head", "title"]⟩ .value) false
    let small : Expression := .unary .not
      (.binary (.comparison .lt) (.literal (.int 2)) (.field ⟨["number"]⟩ .value))
    let predicate : Expression := .binary (.connective .and) untitled
      (.quantifier .any (.field ⟨["parts"]⟩ .value) small)
    let document : Json := .object [("_id", .string "a"),
      ("parts", .array [.object [("number", .integer 3)], .object []])]
    ∃ request, FindRequest.ofChain naming none [.filter predicate] = .ok request ∧
      ∃ answer, request.condition.selects document = .ok answer ∧
        predicate.normalize.holds naming (.ofJson document) = .ok answer :=
  ⟨_, rfl, selects_eq_holds (by decide) (by decide) rfl⟩

end DocQuery
