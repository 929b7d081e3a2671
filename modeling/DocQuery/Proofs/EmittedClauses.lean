import DocQuery.Proofs.FlatClauses

/-! The clause of a predicate, form by form. A predicate that stands alone has one clause, made of the clauses
of the predicates inside it; what holds of all clauses is shown along these forms. -/

namespace DocQuery

/-- Whether a target is not taken for an operator. -/
def Target.IsPlain (target : Target) : Prop :=
  ∀ name, target = .field name → name.toList.head? ≠ some '$'

namespace Expression

variable {naming : FieldNaming} {position : PredicateScope}

theorem isPlain_of_target {subject : Expression} {target : Target}
    (plain : ∀ path kind, subject = .field path kind → (naming.resolve path).toList.head? ≠ some '$')
    (named : subject.target naming position = .ok target) : target.IsPlain := by
  unfold Expression.target at named
  split at named
  case h_1 path kind =>
    cases named
    rintro _ ⟨⟩
    exact plain path kind rfl
  case h_2 =>
    cases position with
    | element =>
      cases named
      nofun
    | document => cases named
  all_goals cases named

/-- The clause of a comparison with a literal on its right. -/
inductive Compares (naming : FieldNaming) (position : PredicateScope) :
    Comparison → Expression → Value → Json → Prop where
  | remainder {dividend target} {divisor left : Int64}
      (named : dividend.target naming position = .ok target) (nonzero : divisor ≠ 0) :
      Compares naming position .eq
        (.binary (.arithmetic .mod) dividend (.literal (.int divisor))) (.int left)
        (target.condition "$mod" (.array [.integer divisor.toInt, .integer left.toInt]))
  | size {collection target} {count : Int64} (named : collection.target naming position = .ok target) :
      Compares naming position .eq (.size collection) (.int count)
        (target.condition "$size" (.integer count.toInt))
  | equality {left target value} (named : left.target naming position = .ok target) :
      Compares naming position .eq left value (target.equality value.toJson)
  | test {op left target value} (other : op ≠ .eq) (named : left.target naming position = .ok target) :
      Compares naming position op left value (target.condition op.operator value.toJson)

theorem compares_of_comparisonClause {op : Comparison} {left : Expression} {value : Value} {clause : Json}
    (made : comparisonClause naming position (.comparison op) left value = .ok clause) :
    Compares naming position op left value clause := by
  unfold comparisonClause at made
  split at made
  case h_1 dividend divisor =>
    split at made
    · cases made
    next equality =>
      obtain rfl := BinaryOp.comparison.inj (Decidable.not_not.mp equality)
      split at made
      case h_1 d =>
        split at made
        · cases made
        next nonzero =>
          split at made
          case h_1 r =>
            obtain ⟨target, named, made⟩ := bind_eq_ok.mp made
            cases made
            exact .remainder named nonzero
          case h_2 => cases made
      case h_2 => cases made
  case h_2 collection =>
    split at made
    · cases made
    next equality =>
      obtain rfl := BinaryOp.comparison.inj (Decidable.not_not.mp equality)
      split at made
      case h_1 count =>
        obtain ⟨target, named, made⟩ := bind_eq_ok.mp made
        cases made
        exact .size named
      case h_2 => cases made
  case h_3 =>
    obtain ⟨target, named, made⟩ := bind_eq_ok.mp made
    cases op with
    | eq =>
      cases made
      exact .equality named
    | _ =>
      cases made
      exact .test nofun named

/-- The clause of a predicate, or of its negation. -/
inductive Emits (naming : FieldNaming) : PredicateScope → Bool → Expression → Json → Prop where
  | connective {position negated left right first second} (op : Connective)
      (ofLeft : Emits naming position false left first)
      (ofRight : Emits naming position false right second) :
      Emits naming position negated (.binary (.connective op) left right)
        (connect op negated [first, second])
  | not {position negated operand clause} (inner : Emits naming position (!negated) operand clause) :
      Emits naming position negated (.unary .not operand) clause
  | quantifier {position negated collection target predicate clause} (kind : QuantifierKind)
      (named : collection.target naming position = .ok target)
      (inner : Emits naming .element false predicate clause) :
      Emits naming position negated (.quantifier kind collection predicate)
        (negatedIf negated (target.condition (QuantifierKind.operator kind) clause))
  | comparison {position negated op left value clause}
      (compares : Compares naming position op left value clause) :
      Emits naming position negated (.binary (.comparison op) left (.literal value))
        (negatedIf negated clause)
  | comparisonFlipped {position negated} {op : Comparison} {right value clause}
      (compares : Compares naming position op.flipped right value clause) :
      Emits naming position negated (.binary (.comparison op) (.literal value) right)
        (negatedIf negated clause)
  | isIn {position negated operand target set values} (excluded : Bool)
      (named : operand.target naming position = .ok target) (listed : set.literalList = .ok values) :
      Emits naming position negated (.isIn operand set excluded)
        (target.condition (if excluded != negated then "$nin" else "$in") (.array values))
  | contains {position negated collection target required values}
      (named : collection.target naming position = .ok target)
      (listed : required.literalList = .ok values) :
      Emits naming position negated (.contains collection required)
        (negatedIf negated (target.condition "$all" (.array values)))
  | presence {position negated operand target} (expected : Bool)
      (named : operand.target naming position = .ok target) :
      Emits naming position negated (.presence operand expected)
        (negatedIf negated (target.condition "$exists" (.bool expected)))
  | isType {position negated operand target} (type : JsonType)
      (named : operand.target naming position = .ok target) :
      Emits naming position negated (.isType operand type)
        (negatedIf negated (target.condition "$type" (.string type.name)))
  | pattern {position negated operand target} (source : String)
      (named : operand.target naming position = .ok target) :
      Emits naming position negated (.pattern operand source)
        (negatedIf negated (target.condition "$regex" (.string source)))
  | flag {position negated} (path : FieldPath) :
      Emits naming position negated (.field path .boolean)
        (Target.equality (.field (naming.resolve path)) (.bool !negated))
  | item {negated} :
      Emits naming .element negated .item (negatedIf negated (Target.equality .element (.bool true)))
  | truth {position negated} (b : Bool) :
      Emits naming position negated (.literal (.bool b)) (truthClause position (b != negated))

/-- A predicate that stands alone has one clause. -/
theorem emits_of_clauses (predicate : Expression) {position : PredicateScope} {negated : Bool}
    {found : List Json} (accepted : predicate.clauses naming position none negated = .ok found) :
    ∃ clause, found = [clause] ∧ Emits naming position negated predicate clause := by
  match predicate with
  | .binary (.connective op) left right =>
    rw [clauses_connective] at accepted
    obtain ⟨_, ofLeft, accepted⟩ := bind_eq_ok.mp accepted
    obtain ⟨_, ofRight, accepted⟩ := bind_eq_ok.mp accepted
    obtain ⟨first, rfl, emitsLeft⟩ := emits_of_clauses left ofLeft
    obtain ⟨second, rfl, emitsRight⟩ := emits_of_clauses right ofRight
    cases accepted
    exact ⟨_, rfl, .connective op emitsLeft emitsRight⟩
  | .unary .not operand =>
    obtain ⟨clause, rfl, inner⟩ := emits_of_clauses operand accepted
    exact ⟨clause, rfl, .not inner⟩
  | .quantifier kind collection predicate =>
    obtain ⟨target, named, accepted⟩ := bind_eq_ok.mp accepted
    obtain ⟨_, ofPredicate, accepted⟩ := bind_eq_ok.mp accepted
    obtain ⟨clause, rfl, inner⟩ := emits_of_clauses predicate ofPredicate
    cases accepted
    exact ⟨_, rfl, .quantifier kind named inner⟩
  | .binary (.comparison op) left right =>
    obtain ⟨clause, compared, accepted⟩ := bind_eq_ok.mp accepted
    cases accepted
    unfold compareClause at compared
    split at compared
    · exact ⟨_, rfl, .comparison (compares_of_comparisonClause compared)⟩
    · exact ⟨_, rfl, .comparisonFlipped (compares_of_comparisonClause compared)⟩
    · cases compared
  | .isIn operand set excluded =>
    obtain ⟨target, named, accepted⟩ := bind_eq_ok.mp accepted
    obtain ⟨values, listed, accepted⟩ := bind_eq_ok.mp accepted
    cases accepted
    exact ⟨_, rfl, .isIn excluded named listed⟩
  | .contains collection required =>
    obtain ⟨target, named, accepted⟩ := bind_eq_ok.mp accepted
    obtain ⟨values, listed, accepted⟩ := bind_eq_ok.mp accepted
    cases accepted
    exact ⟨_, rfl, .contains named listed⟩
  | .presence operand expected =>
    obtain ⟨target, named, accepted⟩ := bind_eq_ok.mp accepted
    cases accepted
    exact ⟨_, rfl, .presence expected named⟩
  | .isType operand type =>
    obtain ⟨target, named, accepted⟩ := bind_eq_ok.mp accepted
    cases accepted
    exact ⟨_, rfl, .isType type named⟩
  | .pattern operand source =>
    obtain ⟨target, named, accepted⟩ := bind_eq_ok.mp accepted
    cases accepted
    exact ⟨_, rfl, .pattern source named⟩
  | .field path .boolean =>
    cases accepted
    exact ⟨_, rfl, .flag path⟩
  | .item =>
    cases position with
    | document => cases accepted
    | element =>
      cases accepted
      exact ⟨_, rfl, .item⟩
  | .literal value =>
    cases value with
    | bool b =>
      cases accepted
      exact ⟨_, rfl, .truth b⟩
    | _ => cases accepted
  | .field _ .value | .binary (.arithmetic _) _ _ | .unary .neg _ | .list _ | .size _ => cases accepted
termination_by structural predicate

/-- The selector of a predicate is the clause of the predicate standing alone. -/
theorem emits_of_selector {predicate : Expression} {clause : Json}
    (made : predicate.selector naming = .ok clause) : Emits naming .document false predicate clause := by
  obtain ⟨found, accepted, made⟩ := bind_eq_ok.mp made
  obtain ⟨_, rfl, emits⟩ := emits_of_clauses predicate accepted
  cases made
  exact emits

end Expression
end DocQuery
