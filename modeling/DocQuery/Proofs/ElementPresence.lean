import DocQuery.Proofs.SelectorAgreement

/-!
Presence of the element of a quantifier. To a server an element is always there; to a client it is there
unless it is null. So the two agree where no element that is asked for is null, and on a document with such
an element some predicate of this kind tells them apart.
-/

namespace DocQuery

section Search

variable {α : Type}

theorem anyItem_of_mem {test : α → Except Error Bool} (answers : ∀ item, ∃ held, test item = .ok held)
    {items : List α} {item : α} (member : item ∈ items) (passes : test item = .ok true) :
    anyItem test items = .ok true := by
  induction items with
  | nil => cases member
  | cons first rest ih =>
    obtain ⟨held, tested⟩ := answers first
    cases held with
    | true => simp [anyItem, tested]
    | false =>
      obtain rfl | later := List.mem_cons.mp member
      · cases tested.symm.trans passes
      · simpa [anyItem, tested] using ih later

theorem anyItem_eq_false {test : α → Except Error Bool} {items : List α}
    (fails : ∀ item ∈ items, test item = .ok false) : anyItem test items = .ok false := by
  induction items with
  | nil => rfl
  | cons first rest ih =>
    obtain ⟨own, others⟩ := List.forall_mem_cons.mp fails
    simpa [anyItem, own] using ih others

theorem QuantifierKind.decide_congr (kind : QuantifierKind) {first second : α → Except Error Bool}
    {items : List α} (same : ∀ item ∈ items, first item = second item) :
    kind.decide first items = kind.decide second items := by
  have searches : anyItem first items = anyItem second items ∧
      everyItem first items = everyItem second items := by
    induction items with
    | nil => exact ⟨rfl, rfl⟩
    | cons item rest ih =>
      obtain ⟨own, others⟩ := List.forall_mem_cons.mp same
      obtain ⟨some, every⟩ := ih others
      simp only [anyItem, everyItem, own, some, every, and_self]
  cases kind with
  | any => exact searches.1
  | all =>
    cases items with
    | nil => rfl
    | cons item rest => exact searches.2

end Search

namespace Expression

variable {naming : FieldNaming} {position : PredicateScope} {predicate : Expression}

/-- Predicates that ask nothing of an element but whether it is there. -/
inductive AsksPresence (naming : FieldNaming) : PredicateScope → Expression → Prop where
  | presence (expected : Bool) : AsksPresence naming .element (.presence .item expected)
  | not {position operand} (inner : AsksPresence naming position operand) :
      AsksPresence naming position (.unary .not operand)
  | connective {position left right} (op : Connective) (first : AsksPresence naming position left)
      (second : AsksPresence naming position right) :
      AsksPresence naming position (.binary (.connective op) left right)
  | quantifier {position collection target predicate} (kind : QuantifierKind)
      (about : IsTarget naming position collection target)
      (inner : AsksPresence naming .element predicate) :
      AsksPresence naming position (.quantifier kind collection predicate)

/-- The elements in a value that a predicate asks about. -/
inductive AsksAbout (naming : FieldNaming) : PredicateScope → Expression → Json → Json → Prop where
  | presence {expected value} : AsksAbout naming .element (.presence .item expected) value value
  | not {position operand value item} (inner : AsksAbout naming position operand value item) :
      AsksAbout naming position (.unary .not operand) value item
  | left {position left right value item} (op : Connective)
      (inner : AsksAbout naming position left value item) :
      AsksAbout naming position (.binary (.connective op) left right) value item
  | right {position left right value item} (op : Connective)
      (inner : AsksAbout naming position right value item) :
      AsksAbout naming position (.binary (.connective op) left right) value item
  | quantifier {position kind collection target predicate value items element item}
      (about : IsTarget naming position collection target)
      (listed : target.held value = some (.array items)) (member : element ∈ items)
      (inner : AsksAbout naming .element predicate element item) :
      AsksAbout naming position (.quantifier kind collection predicate) value item

/-- The answers of a server by a clause and of a client by a predicate about a value. They are the same if the
predicate asks about no element that is null. -/
def AnswersAbout (naming : FieldNaming) (position : PredicateScope) (whole predicate : Expression)
    (clause : Json) : Prop :=
  ∀ scope value, Scope.Views scope naming position value → ∃ server client,
    clause.admits (some value) = .ok server ∧ predicate.test scope = .ok client ∧
      ((∀ item, AsksAbout naming position whole value item → item.isNull = false) → server = client)

namespace AnswersAbout

variable {whole left right : Expression} {clause first second : Json}

theorem admits (answers : AnswersAbout naming position whole predicate clause) {scope : Scope}
    {value : Json} (views : Scope.Views scope naming position value) :
    ∃ server, clause.admits (some value) = .ok server := by
  obtain ⟨server, _, admitted, _, _⟩ := answers scope value views
  exact ⟨server, admitted⟩

theorem tests (answers : AnswersAbout naming position whole predicate clause) {scope : Scope}
    {value : Json} (views : Scope.Views scope naming position value) :
    ∃ client, predicate.test scope = .ok client := by
  obtain ⟨_, client, _, tested, _⟩ := answers scope value views
  exact ⟨client, tested⟩

theorem of_asksAbout {part : Expression} (answers : AnswersAbout naming position part predicate clause)
    (among : ∀ value item, AsksAbout naming position part value item →
      AsksAbout naming position whole value item) :
    AnswersAbout naming position whole predicate clause := by
  intro scope value views
  obtain ⟨server, client, admitted, tested, same⟩ := answers scope value views
  exact ⟨server, client, admitted, tested, fun present =>
    same fun item asks => present item (among value item asks)⟩

theorem negation {other : Json} (answers : AnswersAbout naming position whole predicate clause)
    (opposes : ∀ value, other.admits (some value) = (clause.admits (some value)).map (!·)) :
    AnswersAbout naming position whole (.unary .not predicate) other := by
  intro scope value views
  obtain ⟨server, client, admitted, tested, same⟩ := answers scope value views
  refine ⟨!server, !client, ?_, ?_, fun present => congrArg (!·) (same present)⟩
  · rw [opposes, admitted]
    rfl
  · rw [test_not, tested]
    rfl

theorem polar (answers : AnswersAbout naming position whole predicate clause) (negated : Bool) :
    AnswersAbout naming position whole (predicate.polar negated) (negatedIf negated clause) := by
  cases negated with
  | false => exact answers
  | true => exact answers.negation fun value => Json.admits_not value clause

theorem connective (op : Connective) (ofLeft : AnswersAbout naming position whole left first)
    (ofRight : AnswersAbout naming position whole right second) :
    AnswersAbout naming position whole (.binary (.connective op) left right)
      (connect op false [first, second]) := by
  intro scope value views
  obtain ⟨server, client, admitted, tested, same⟩ := ofLeft scope value views
  obtain ⟨other, also, alsoAdmitted, alsoTested, alike⟩ := ofRight scope value views
  refine ⟨op.join server other, op.join client also, ?_, test_connective_of_answers tested alsoTested,
    fun present => by rw [same present, alike present]⟩
  rw [admits_connect]
  cases op <;> cases server <;> cases other <;>
    simp [Json.admitsEvery, Json.admitsSome, admitted, alsoAdmitted, Connective.join]

theorem quantifier {collection : Expression} {target : Target} (kind : QuantifierKind)
    (about : IsTarget naming position collection target)
    (inner : AnswersAbout naming .element whole predicate clause) :
    AnswersAbout naming position (.quantifier kind collection whole)
      (.quantifier kind collection predicate)
      (target.condition (QuantifierKind.operator kind) clause) := by
  intro scope value views
  have read : SelectorKey.ofName (QuantifierKind.operator kind) = .quantifier kind := by
    cases kind <;> rfl
  rw [test_quantifier kind predicate (about.value?_of_views views), about.admits_condition, asList?_held]
  cases listed : target.held value with
  | none => exact ⟨false, false, by cases kind <;> rfl, rfl, fun _ => rfl⟩
  | some held =>
    rw [Json.admits_quantifier held clause read, Option.bind_some]
    cases held with
    | array items =>
      obtain ⟨server, served⟩ :=
        kind.decide_answers (fun item => inner.admits (views.element item)) items
      obtain ⟨client, decided⟩ :=
        kind.decide_answers (fun item => inner.tests (views.element item)) items
      refine ⟨server, client, served, (kind.decide_map ..).trans decided, fun present => ?_⟩
      have alike : ∀ item ∈ items,
          clause.admits (some item) = predicate.test (scope.ofElement (.ofJson item)) := by
        intro item member
        obtain ⟨answer, also, admitted, tested, same⟩ := inner _ item (views.element item)
        rw [admitted, tested, same fun deeper asks => present deeper (.quantifier about listed member asks)]
      exact Except.ok.inj (served.symm.trans ((kind.decide_congr alike).trans decided))
    | _ => exact ⟨false, false, rfl, rfl, fun _ => rfl⟩

end AnswersAbout

theorem admits_exists (value : Json) (expected : Bool) :
    (single "$exists" (.bool expected)).admits (some value) = .ok expected := by
  have read : SelectorKey.ofName "$exists" = .test .presence := rfl
  exact Json.admits_test value (.bool expected) read

theorem test_presence_item (expected : Bool) {scope : Scope} {value : Json}
    (found : scope.item = some (.ofJson value)) :
    (Expression.presence .item expected).test scope = .ok ((!value.isNull) == expected) := by
  apply test_of_value?
  simp [value?, found, isField, Value.isNull_ofJson]

/-- Both sides answer, and alike if no null is asked about. -/
theorem AsksPresence.clause (asks : AsksPresence naming position predicate) (negated : Bool) :
    ∃ clause, predicate.clauses naming position none negated = .ok [clause] ∧
      AnswersAbout naming position predicate (predicate.polar negated).normalize clause := by
  induction asks generalizing negated with
  | presence expected =>
    refine ⟨negatedIf negated (single "$exists" (.bool expected)), rfl, ?_⟩
    have plain : AnswersAbout naming .element (.presence .item expected) (.presence .item expected)
        (single "$exists" (.bool expected)) := by
      intro scope value views
      refine ⟨expected, _, admits_exists value expected,
        test_presence_item expected (views.item rfl), fun present => ?_⟩
      simp [present value .presence]
    cases negated <;> exact plain.polar _
  | not _ ih =>
    obtain ⟨clause, found, answers⟩ := ih (!negated)
    refine ⟨clause, found, ?_⟩
    cases negated <;> exact answers.of_asksAbout fun _ _ => .not
  | connective op _ _ ofLeft ofRight =>
    obtain ⟨first, foundLeft, answersLeft⟩ := ofLeft false
    obtain ⟨second, foundRight, answersRight⟩ := ofRight false
    refine ⟨connect op negated [first, second], ?_, ?_⟩
    · rw [clauses_connective, foundLeft, foundRight]
      rfl
    · have plain := (answersLeft.of_asksAbout fun _ _ => .left op).connective op
        (answersRight.of_asksAbout fun _ _ => .right op)
      cases negated with
      | false => exact plain
      | true => exact plain.negation fun value => admits_connect_negated op [first, second] value
  | quantifier kind about _ ih =>
    obtain ⟨clause, found, answers⟩ := ih false
    refine ⟨_, by rw [clauses, about.target_eq, found]; rfl, ?_⟩
    have quantified := (answers.quantifier kind about).polar negated
    cases negated <;> exact quantified

/-- Where a null is asked about, a server and a client can be told apart: whether some element is missing a
server always denies, and a client affirms. -/
theorem AsksAbout.exists_apart {value item : Json}
    (asks : AsksAbout naming position predicate value item) (null : item.isNull) :
    ∃ other clause, AsksPresence naming position other ∧
      other.clauses naming position none false = .ok [clause] ∧
      (∀ any : Json, clause.admits (some any) = .ok false) ∧
      ∀ scope, Scope.Views scope naming position value → other.normalize.test scope = .ok true := by
  induction asks with
  | presence =>
    refine ⟨_, _, .presence false, rfl, fun any => admits_exists any false, fun scope views => ?_⟩
    refine (test_presence_item false (views.item rfl)).trans ?_
    rw [null]
    rfl
  | not _ ih | left _ _ ih | right _ _ ih => exact ih null
  | @quantifier position kind collection target predicate value items element item about listed member _
      ih =>
    obtain ⟨other, clause, inner, found, denies, affirms⟩ := ih null
    refine ⟨.quantifier .any collection other, target.condition "$elemMatch" clause,
      .quantifier .any about inner, by rw [clauses, about.target_eq, found]; rfl, fun any => ?_,
      fun scope views => ?_⟩
    · have read : SelectorKey.ofName "$elemMatch" = .quantifier .any := rfl
      rw [about.admits_condition]
      cases target.held any with
      | none => rfl
      | some held =>
        rw [Json.admits_quantifier held clause read]
        cases held.asArray? with
        | none => rfl
        | some others => exact anyItem_eq_false fun item _ => denies item
    · obtain ⟨_, _, answers⟩ := inner.clause false
      refine (test_quantifier .any other.normalize (about.value?_of_views views)).trans ?_
      rw [asList?_held, listed]
      exact (QuantifierKind.any.decide_map ..).trans
        (anyItem_of_mem (fun item => answers.tests (views.element item)) member
          (affirms _ (views.element element)))

/-- Both sides answer for a document, and alike if the predicate asks about no null. -/
theorem AsksPresence.answers (asks : AsksPresence naming .document predicate) (document : Json) :
    ∃ selector server client, predicate.normalize.selector naming = .ok selector ∧
      selector.selects document = .ok server ∧
      predicate.normalize.holds naming (.ofJson document) = .ok client ∧
      ((∀ item, AsksAbout naming .document predicate document item → item.isNull = false) →
        server = client) := by
  obtain ⟨clause, found, answers⟩ := asks.clause false
  obtain ⟨server, client, admitted, tested, same⟩ :=
    answers _ document (Scope.views_document naming document)
  refine ⟨clause, server, client, ?_, admitted, tested, same⟩
  rw [selector_normalize, selector, found]
  rfl

end Expression

/-- Whether a server selects a document by a predicate just if its normal form holds there. -/
def SelectsAlike (naming : FieldNaming) (predicate : Expression) (document : Json) : Prop :=
  ∃ selector answer, predicate.normalize.selector naming = .ok selector ∧
    selector.selects document = .ok answer ∧
    predicate.normalize.holds naming (.ofJson document) = .ok answer

open Expression

theorem not_selectsAlike {naming : FieldNaming} {predicate : Expression} {clause document : Json}
    (found : predicate.clauses naming .document none false = .ok [clause])
    (denies : clause.admits (some document) = .ok false)
    (affirms : predicate.normalize.test (.ofDocument naming (.ofJson document)) = .ok true) :
    ¬SelectsAlike naming predicate document := by
  rintro ⟨selector, answer, translated, selected, held⟩
  rw [selector_normalize, Expression.selector, found] at translated
  cases translated
  cases selected.symm.trans denies
  cases held.symm.trans affirms

/-- Predicates that ask of elements only whether they are there have an answer on both sides. The answers of one
agree on a document if it asks about no null there, and those of all agree just if none does. -/
theorem selectsAlike_iff_present (naming : FieldNaming) (document : Json) :
    (∀ predicate, AsksPresence naming .document predicate →
      ∃ selector server client, predicate.normalize.selector naming = .ok selector ∧
        selector.selects document = .ok server ∧
        predicate.normalize.holds naming (.ofJson document) = .ok client ∧
        ((∀ item, AsksAbout naming .document predicate document item → item.isNull = false) →
          server = client)) ∧
      ((∀ predicate, AsksPresence naming .document predicate → SelectsAlike naming predicate document) ↔
        ∀ predicate item, AsksPresence naming .document predicate →
          AsksAbout naming .document predicate document item → item.isNull = false) := by
  refine ⟨fun _ asks => asks.answers document, fun alike predicate item _ about => ?_,
    fun present predicate asks => ?_⟩
  · cases null : item.isNull with
    | false => rfl
    | true =>
      obtain ⟨other, clause, inner, found, denies, affirms⟩ := about.exists_apart null
      exact absurd (alike other inner) (not_selectsAlike found (denies document)
        (affirms _ (Scope.views_document naming document)))
  · obtain ⟨selector, server, client, translated, selected, held, same⟩ := asks.answers document
    refine ⟨selector, client, translated, ?_, held⟩
    rw [selected, same fun item about => present predicate item asks about]

/-- Tags that are all there, and are no nulls. -/
theorem selectsAlike_iff_present_tagged :
    let naming := FieldNaming.ofCase .unchanged
    let tagged : Expression := .quantifier .all (.field ⟨["tags"]⟩ .value) (.presence .item true)
    let document : Json := .object [("tags", .array [.string "a", .bool false])]
    SelectsAlike naming tagged document := by
  intro naming tagged document
  have about : IsTarget naming .document (.field ⟨["tags"]⟩ .value) _ := .field (by decide)
  obtain ⟨selector, server, client, translated, selected, held, same⟩ :=
    (selectsAlike_iff_present naming document).1 tagged (.quantifier .all about (.presence true))
  refine ⟨selector, client, translated, ?_, held⟩
  rw [selected, same]
  intro item asks
  dsimp only [tagged] at asks
  cases asks with
  | quantifier other listed member inner =>
    cases other with
    | field plain =>
      rw [Target.held, naming.wireKeys_resolve plain] at listed
      have tags : document.lookup? ["tags"] = some (.array [.string "a", .bool false]) := rfl
      cases listed.symm.trans tags
      cases inner
      rcases List.mem_cons.mp member with rfl | later
      · rfl
      · rw [List.mem_singleton.mp later]
        rfl

/-- A null is an element to a server and none to a client. -/
theorem selectsAlike_null :
    let naming := FieldNaming.ofCase .unchanged
    let tagged : Expression := .quantifier .any (.field ⟨["tags"]⟩ .value) (.presence .item true)
    let document : Json := .object [("_id", .string "a"), ("tags", .array [.null])]
    AsksPresence naming .document tagged ∧
      (∃ selector, tagged.normalize.selector naming = .ok selector ∧
        selector.selects document = .ok true) ∧
      tagged.normalize.holds naming (.ofJson document) = .ok false :=
  ⟨.quantifier .any (.field (by decide)) (.presence true), ⟨_, rfl, rfl⟩, rfl⟩

end DocQuery
