import DocQuery.Proofs.UniversalAnswers

/-! A predicate and the negation of it that is looked for among documents never hold of the same document.
Where flags are truth values and members to look for are there, one of the two holds. -/

namespace DocQuery

namespace Expression

/-- Wherever the first predicate holds the second one is found not to hold. -/
def Excludes (scope : Scope) (first second : Expression) : Prop :=
  first.test scope = .ok true → second.test scope = .ok false

/-- The predicates that a predicate joins or negates, outside of quantifiers. -/
def atoms : Expression → List Expression
  | .unary .not operand => operand.atoms
  | .binary (.connective _) left right => left.atoms ++ right.atoms
  | predicate => [predicate]

variable {scope : Scope} {first second : Expression}

theorem excludes_of_negated (opposite : second.test scope = (first.test scope).map (!·)) :
    Excludes scope first second := by
  intro holds
  rw [opposite, holds]
  rfl

theorem excludes_not (predicate : Expression) :
    Excludes scope predicate (.unary .not predicate) ∧ Excludes scope (.unary .not predicate) predicate := by
  have opposite := test_not predicate scope
  exact ⟨excludes_of_negated opposite, excludes_of_negated (by rw [opposite, map_not_map_not])⟩

theorem excludes_equalsFlag (path : FieldPath) (flag : Bool) :
    Excludes scope (equalsFlag (.field path .boolean) flag) (equalsFlag (.field path .boolean) !flag) := by
  intro holds
  rw [test_equalsFlag] at holds ⊢
  obtain ⟨found, read, equal⟩ := map_eq_ok.mp holds
  rw [read, map_ok]
  cases found with
  | none => cases equal
  | some value =>
    cases value with
    | bool held => cases held <;> cases flag <;> first | rfl | cases equal
    | _ => cases equal

theorem excludes_isIn (operand set : Expression) (excluded : Bool) :
    Excludes scope (.isIn operand set excluded) (.isIn operand set !excluded) := by
  by_cases absent : operand.value? scope = .ok none
  · intro holds
    simp [test, evaluate, value?, absent, Value.isTrue] at holds
  · exact excludes_of_negated (test_isIn_negated operand set excluded absent)

/-- The normal forms of a predicate and of its negation exclude each other. -/
theorem excludes_normalize_not (predicate : Expression) :
    Excludes scope predicate.normalize (Expression.unary .not predicate).normalize ∧
      Excludes scope (Expression.unary .not predicate).normalize predicate.normalize := by
  match predicate with
  | .field path .boolean => exact ⟨excludes_equalsFlag path true, excludes_equalsFlag path false⟩
  | .isIn operand set excluded =>
    have back : Excludes scope (.isIn operand set !excluded) (.isIn operand set !!excluded) :=
      excludes_isIn operand set !excluded
    rw [Bool.not_not] at back
    exact ⟨excludes_isIn operand set excluded, back⟩
  | .unary .not operand => exact (excludes_normalize_not operand).symm
  | .binary .. | .contains .. | .quantifier .. | .presence .. | .isType .. | .pattern ..
  | .unary .neg _ | .field _ .value | .item | .list _ | .size _ | .literal _ => exact excludes_not _
termination_by structural predicate

/-- A predicate excludes the negation of it that goes into conjunctions. -/
theorem excludes_negate (predicate : Expression) :
    Excludes scope predicate.normalize predicate.negate.normalize := by
  match predicate with
  | .binary (.connective .and) left right =>
    have ofLeft : Excludes scope left.normalize left.negate.normalize := excludes_negate left
    have ofRight : Excludes scope right.normalize right.negate.normalize := excludes_negate right
    intro holds
    change (Expression.binary (.connective .and) left.normalize right.normalize).test scope = _ at holds
    rw [test_connective] at holds
    obtain ⟨held, first, second⟩ := bind_eq_ok.mp holds
    cases held with
    | false => cases second
    | true => exact test_connective_of_answers (ofLeft first) (ofRight second)
  | .unary .not operand => exact (excludes_normalize_not operand).2
  | .literal value =>
    cases value with
    | bool held => exact excludes_of_negated rfl
    | _ => exact (excludes_not _).1
  | .field _ .boolean | .isIn .. | .binary (.connective .or) _ _ | .binary (.comparison _) _ _
  | .binary (.arithmetic _) _ _ | .contains .. | .quantifier .. | .presence .. | .isType ..
  | .pattern .. | .unary .neg _ | .field _ .value | .item | .list _ | .size _ =>
    exact (excludes_normalize_not _).1
termination_by structural predicate

theorem isDecided_of_atoms (predicate : Expression)
    (decided : ∀ atom ∈ predicate.atoms, atom.IsDecided scope) : predicate.IsDecided scope := by
  match predicate with
  | .unary .not operand => exact isDecided_of_atoms operand decided
  | .binary (.connective _) _ _ => exact True.intro
  | .field _ _ | .isIn .. | .binary (.comparison _) _ _ | .binary (.arithmetic _) _ _ | .contains ..
  | .quantifier .. | .presence .. | .isType .. | .pattern .. | .unary .neg _ | .item | .list _ | .size _
  | .literal _ => exact decided _ (List.mem_singleton_self _)
termination_by structural predicate

/-- A negation is exact if all that it comes to is decided. -/
theorem negatesExactly_of_atoms (predicate : Expression)
    (decided : ∀ atom ∈ predicate.atoms, atom.IsDecided scope) : predicate.NegatesExactly scope := by
  match predicate with
  | .binary (.connective .and) left right =>
    obtain ⟨ofLeft, ofRight⟩ := List.forall_mem_append.mp decided
    exact ⟨negatesExactly_of_atoms left ofLeft, negatesExactly_of_atoms right ofRight⟩
  | .binary (.connective .or) _ _ | .unary _ _ | .field _ _ | .isIn .. | .binary (.comparison _) _ _
  | .binary (.arithmetic _) _ _ | .contains .. | .quantifier .. | .presence .. | .isType .. | .pattern ..
  | .item | .list _ | .size _ | .literal _ =>
    exact (negatesExactly_iff rfl).mpr (isDecided_of_atoms _ decided)
termination_by structural predicate

end Expression

variable {naming : FieldNaming} {predicate : Expression} {documents : List Json}

/-- No document of the negation is found among documents of the predicate. -/
theorem runSteps_all_of_holds
    (holds : ∀ document ∈ documents, predicate.normalize.holds naming (.ofJson document) = .ok true) :
    runSteps naming [.all predicate] documents = .ok (.boolean true) := by
  have kept : keepMatching naming predicate.negate documents =
      .ok (documents.filter fun _ => false) :=
    keepItems_of_answers fun document member =>
      Expression.excludes_negate predicate (holds document member)
  rw [Execution.runSteps_singleton rfl, Step.apply, kept, List.filter_eq_nil_iff.mpr (by simp)]
  rfl

/-- A server that has all operations finds none either. -/
theorem execute_all_of_holds (portable : (Step.filter predicate).isPortable naming)
    (holds : ∀ document ∈ documents, predicate.normalize.holds naming (.ofJson document) = .ok true)
    (identities : ∀ document ∈ documents, (document.get? "_id").isSome) {store : Store}
    {database : String} (ready : store.failure = none)
    (held : store.databases.get? database = some documents) :
    (Compiler.execute ⟨naming, .standard, none⟩ store database
      (.ofSteps [.all predicate])).1.map QueryResult.output = .ok (.boolean true) := by
  obtain ⟨selectable⟩ := Step.keepsRows_of_isPortable portable
  obtain ⟨folded, folds, foldable, same⟩ := selectable.accepts_fold
  obtain ⟨request, requested, found⟩ := docs_matching foldable.negate (by decide : 1 < natBound64)
  have none : documents.filter (folded.negate.accepts naming) = [] := by
    refine List.filter_eq_nil_iff.mpr fun document member => ?_
    have identity := identities document member
    have accepted : folded.normalize.holds naming (.ofJson document) = .ok true := by
      rw [foldable.holds_eq identity, same document identity, Expression.accepts, holds document member]
    have excluded : folded.negate.normalize.holds naming (.ofJson document) = .ok false :=
      Expression.excludes_negate folded accepted
    rw [Expression.accepts, excluded]
    exact Bool.false_ne_true
  rw [Compiler.output_execute _ _ ready held, Compiler.compile_all naming folds, requested, map_ok,
    ok_bind, found _ _ identities, ok_bind, none, Execution.runSteps_singleton rfl]
  rfl

/-- A predicate and its negation never hold of the same document, and one of the two holds, or both fail
alike, where flags are truth values and members to look for are there. So if a predicate holds of all
documents, it is said to, on the client, and by a server for a predicate that both judge alike. -/
theorem negate_opposes (naming : FieldNaming) (predicate : Expression) :
    (∀ document : Value, predicate.normalize.holds naming document = .ok true →
      predicate.negate.normalize.holds naming document = .ok false) ∧
    (∀ document : Value,
      (∀ atom ∈ predicate.atoms, atom.IsDecided (.ofDocument naming document)) →
        predicate.negate.normalize.holds naming document =
          (predicate.normalize.holds naming document).map (!·)) ∧
    ∀ documents : List Json,
      (∀ document ∈ documents, predicate.normalize.holds naming (.ofJson document) = .ok true) →
        runSteps naming [.all predicate] documents = .ok (.boolean true) ∧
          ((Step.filter predicate).isPortable naming →
            (∀ document ∈ documents, (document.get? "_id").isSome) →
              ∀ (store : Store) (database : String), store.failure = none →
                store.databases.get? database = some documents →
                  (Compiler.execute ⟨naming, .standard, none⟩ store database
                    (.ofSteps [.all predicate])).1.map QueryResult.output = .ok (.boolean true)) := by
  refine ⟨fun document => Expression.excludes_negate predicate, ?_, ?_⟩
  · intro document decided
    exact Expression.test_negate predicate (Expression.negatesExactly_of_atoms predicate decided)
  · intro documents holds
    exact ⟨runSteps_all_of_holds holds, fun portable identities _ _ ready held =>
      execute_all_of_holds portable holds identities ready held⟩

/-- Luke is a Jedi who is not called Anakin. Han is no Jedi, and the negation holds of him. -/
theorem negate_opposes_luke :
    let naming := FieldNaming.ofCase .unchanged
    let predicate : Expression := .binary (.connective .and) (.field ⟨["isJedi"]⟩ .boolean)
      (.isIn (.field ⟨["name"]⟩ .value) (.literal (.list [.string "Anakin"])) true)
    let person (name : String) (jedi : Bool) : Json :=
      .object [("_id", .string name), ("name", .string name), ("isJedi", .bool jedi)]
    let luke := Value.ofJson (person "Luke" true)
    let han := Value.ofJson (person "Han" false)
    let store := Store.empty.withDatabase "people" [person "Luke" true]
    (predicate.normalize.holds naming luke = .ok true ∧
        predicate.negate.normalize.holds naming luke = .ok false) ∧
      (predicate.normalize.holds naming han = .ok false ∧
        predicate.negate.normalize.holds naming han = (Except.ok false).map (!·)) ∧
      runSteps naming [.all predicate] [person "Luke" true] = .ok (.boolean true) ∧
      (Compiler.execute ⟨naming, .standard, none⟩ store "people"
        (.ofSteps [.all predicate])).1.map QueryResult.output = .ok (.boolean true) := by
  intro naming predicate person luke han store
  obtain ⟨excludes, opposes, answers⟩ := negate_opposes naming predicate
  have jedi : predicate.normalize.holds naming luke = .ok true := by rfl
  have other : predicate.normalize.holds naming han = .ok false := by rfl
  have decided : ∀ atom ∈ predicate.atoms, atom.IsDecided (.ofDocument naming han) := by
    refine List.forall_mem_cons.mpr ⟨fun found reads => ⟨false, (Except.ok.inj reads).symm⟩,
      List.forall_mem_singleton.mpr ?_⟩
    intro absent
    cases absent
  obtain ⟨direct, executed⟩ := answers [person "Luke" true] (List.forall_mem_singleton.mpr jedi)
  exact ⟨⟨jedi, excludes luke jedi⟩, ⟨other, (opposes han decided).trans (congrArg _ other)⟩, direct,
    executed (by decide) (by decide) store "people" rfl rfl⟩

end DocQuery
