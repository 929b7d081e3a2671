import DocQuery.Proofs.DocumentValues
import DocQuery.Proofs.EmittedClauses
import DocQuery.Proofs.ExpressionParts
import DocQuery.Proofs.Failures
import DocQuery.Proofs.WireNames

/-! A server accepts every clause that is made of a predicate: it knows the operators in it and finds the
arguments that they expect. Only the number of items that an array is asked to have is not looked at when
the clause is made, and a server takes no negative one. -/

namespace DocQuery

/-- The answer of a server to a number of items that is no natural number. -/
def Error.sizeNotNatural : Error := .database (.badRequest "$size expects an integer")

variable {allowed : Error → Prop}

namespace Json

/-- Whether a server looks at a value under a condition and fails in the allowed ways only. -/
def Accepted (allowed : Error → Prop) (condition : Json) : Prop :=
  ∀ value : Json, FailsOnly allowed (condition.admits (some value))

variable {condition argument : Json} {conditions : List Json} {key : String}

/-- Nothing is asked of a missing value. -/
theorem Accepted.admits (accepted : condition.Accepted allowed) (value : Option Json) :
    FailsOnly allowed (condition.admits value) := by
  cases value with
  | some value => exact accepted value
  | none => cases condition <;> exact failsOnly_ok _

theorem accepted_matchAll : (Json.object []).Accepted allowed := fun _ => failsOnly_ok true

theorem Accepted.path (accepted : argument.Accepted allowed) (plain : key.toList.head? ≠ some '$') :
    (single key argument).Accepted allowed := by
  intro value
  rw [admits_path value argument (SelectorKey.ofName_of_head plain)]
  exact accepted.admits _

theorem accepted_test {test : ValueTest} (read : SelectorKey.ofName key = .test test)
    (taken : ∀ value, FailsOnly allowed (test.apply key argument value)) :
    (single key argument).Accepted allowed := by
  intro value
  rw [admits_test value argument read]
  exact taken value

theorem Accepted.quantifier {kind : QuantifierKind} (accepted : condition.Accepted allowed)
    (read : SelectorKey.ofName key = .quantifier kind) : (single key condition).Accepted allowed := by
  intro value
  rw [admits_quantifier value condition read]
  split
  · exact .decide kind fun item _ => accepted item
  · exact failsOnly_ok false

theorem Accepted.negatedIf (accepted : condition.Accepted allowed) (negated : Bool) :
    (Expression.negatedIf negated condition).Accepted allowed := by
  cases negated with
  | false => exact accepted
  | true =>
    intro value
    change FailsOnly allowed ((single "$not" condition).admits (some value))
    rw [admits_not, failsOnly_map]
    exact accepted value

theorem admitsEvery_accepted (accepted : ∀ condition ∈ conditions, condition.Accepted allowed)
    (value : Json) : FailsOnly allowed (admitsEvery conditions value) := by
  induction conditions with
  | nil => exact failsOnly_ok true
  | cons first rest ih =>
    obtain ⟨own, others⟩ := List.forall_mem_cons.mp accepted
    refine (own value).bind fun met _ => ?_
    cases met with
    | true => exact ih others
    | false => exact failsOnly_ok false

theorem admitsSome_accepted (accepted : ∀ condition ∈ conditions, condition.Accepted allowed)
    (value : Json) : FailsOnly allowed (admitsSome conditions value) := by
  induction conditions with
  | nil => exact failsOnly_ok false
  | cons first rest ih =>
    obtain ⟨own, others⟩ := List.forall_mem_cons.mp accepted
    refine (own value).bind fun met _ => ?_
    cases met with
    | true => exact failsOnly_ok true
    | false => exact ih others

theorem accepted_connect (accepted : ∀ condition ∈ conditions, condition.Accepted allowed)
    (op : Connective) (negated : Bool) : (Expression.connect op negated conditions).Accepted allowed := by
  have positive : (Expression.connect op false conditions).Accepted allowed := by
    intro value
    rw [Expression.admits_connect]
    cases op with
    | and => exact admitsEvery_accepted accepted value
    | or => exact admitsSome_accepted accepted value
  cases negated with
  | false => exact positive
  | true =>
    intro value
    rw [Expression.admits_connect_negated, failsOnly_map]
    exact positive value

theorem accepted_truthClause (scope : PredicateScope) (b : Bool) :
    (truthClause scope b).Accepted allowed := by
  cases b with
  | true => exact accepted_matchAll
  | false =>
    cases scope with
    | document =>
      refine Accepted.path (accepted_test rfl fun value => ?_) (by decide)
      exact failsOnly_ok false
    | element => exact accepted_matchAll.negatedIf true

end Json

namespace Target

variable {target : Target} {op : String} {argument : Json}

theorem IsPlain.condition (plain : target.IsPlain) (accepted : (single op argument).Accepted allowed) :
    (target.condition op argument).Accepted allowed := by
  cases target with
  | field name => exact accepted.path (plain name rfl)
  | element => exact accepted

theorem IsPlain.test {test : ValueTest} (plain : target.IsPlain)
    (read : SelectorKey.ofName op = .test test)
    (taken : ∀ value, FailsOnly allowed (test.apply op argument value)) :
    (target.condition op argument).Accepted allowed :=
  plain.condition (Json.accepted_test read taken)

theorem IsPlain.equality (plain : target.IsPlain) (value : Json) :
    (target.equality value).Accepted allowed := by
  have compared : (single "$eq" value).Accepted allowed :=
    Json.accepted_test rfl fun _ => failsOnly_ok _
  cases target with
  | element => exact compared
  | field name =>
    cases value with
    | object entries => exact compared.path (plain name rfl)
    | _ => exact Json.Accepted.path (fun _ => failsOnly_ok _) (plain name rfl)

end Target

namespace ValueTest

/-- The divisor of a remainder is not zero, so only the least integer fails. -/
theorem remainder_taken (overflow : allowed .remainderOverflow) {divisor : Int64} (left : Int64)
    (nonzero : divisor ≠ 0) (name : String) (value : Json) :
    FailsOnly allowed
      (remainder.apply name (.array [.integer divisor.toInt, .integer left.toInt]) value) := by
  rw [apply_remainder name value left nonzero, remainderTest]
  split
  · exact failsOnly_ok false
  · split
    · exact (failsOnly_error _).mpr overflow
    · exact failsOnly_ok _

theorem size_taken {count : Int64} (natural : count.toInt < 0 → allowed .sizeNotNatural) (value : Json) :
    FailsOnly allowed (size.apply "$size" (.integer count.toInt) value) := by
  by_cases negative : count.toInt < 0
  · have refused : (Json.integer count.toInt).asNat64? = none := if_neg (by omega)
    simp only [apply, refused]
    exact (failsOnly_error _).mpr (natural negative)
  · have bound := count.toInt_lt
    have word : (Json.integer count.toInt).asNat64? = some count.toInt.toNat :=
      if_pos (by simp only [natBound64]; omega)
    rw [apply_size _ _ word]
    exact failsOnly_ok _

theorem pattern_taken {source : String} (parses : (Pattern.parse? source).isSome) (name : String)
    (value : Json) : FailsOnly allowed (pattern.apply name (.string source) value) := by
  obtain ⟨compiled, parsed⟩ := Option.isSome_iff_exists.mp parses
  rw [apply_pattern _ _ parsed]
  exact failsOnly_ok _

end ValueTest

namespace Expression

def isSize : Expression → Bool
  | .size _ => true
  | _ => false

def isNegativeCount : Expression → Bool
  | .literal (.int count) => decide (count.toInt < 0)
  | _ => false

/-- Whether an expression asks for a negative number of items. -/
def comparesNegativeSize : Expression → Bool
  | .binary (.comparison .eq) left right =>
    left.isSize && right.isNegativeCount || left.isNegativeCount && right.isSize
  | _ => false

theorem comparesNegativeSize_flipped (op : Comparison) (left right : Expression) :
    (Expression.binary (.comparison op.flipped) right left).comparesNegativeSize =
      (Expression.binary (.comparison op) left right).comparesNegativeSize := by
  cases op with
  | eq => simp only [Comparison.flipped, comparesNegativeSize, Bool.or_comm, Bool.and_comm]
  | _ => rfl

/-- What is asked of each part of a predicate: its name is no operator, its pattern can be read, and it
compares no size with a negative number unless the failure is allowed. -/
structure Proper (naming : FieldNaming) (allowed : Error → Prop) (part : Expression) : Prop where
  name : ∀ path kind, part = .field path kind → (naming.resolve path).toList.head? ≠ some '$'
  pattern : ∀ operand source, part = .pattern operand source → (Pattern.parse? source).isSome
  size : part.comparesNegativeSize → allowed .sizeNotNatural

variable {naming : FieldNaming} {scope : PredicateScope} {predicate : Expression}

theorem Compares.accepted {op : Comparison} {left : Expression} {value : Value} {clause : Json}
    (overflow : allowed .remainderOverflow) (compares : Compares naming scope op left value clause)
    (proper : left.Everywhere (Proper naming allowed))
    (sizes : (Expression.binary (.comparison op) left (.literal value)).comparesNegativeSize →
      allowed .sizeNotNatural) : clause.Accepted allowed := by
  cases compares with
  | remainder named nonzero =>
    have plain := isPlain_of_target (proper.child (.head _) _ .whole).name named
    exact plain.test rfl (ValueTest.remainder_taken overflow _ nonzero "$mod")
  | size named =>
    have plain := isPlain_of_target (proper.child (.head _) _ .whole).name named
    refine plain.test rfl (ValueTest.size_taken fun negative => sizes ?_)
    simpa [comparesNegativeSize, isSize, isNegativeCount] using negative
  | equality named => exact (isPlain_of_target (proper _ .whole).name named).equality _
  | test other named =>
    have plain := isPlain_of_target (proper _ .whole).name named
    cases op with
    | eq => exact absurd rfl other
    | _ => exact plain.test rfl fun _ => failsOnly_ok _

theorem Emits.accepted (overflow : allowed .remainderOverflow) {negated : Bool} {clause : Json}
    (emits : Emits naming scope negated predicate clause)
    (proper : predicate.Everywhere (Proper naming allowed)) : clause.Accepted allowed := by
  induction emits with
  | connective op _ _ first second =>
    refine Json.accepted_connect (fun condition among => ?_) op _
    rcases List.mem_pair.mp among with rfl | rfl
    · exact first (proper.child (.head _))
    · exact second (proper.child (.tail _ (.head _)))
  | not _ ih => exact ih (proper.child (.head _))
  | quantifier kind named _ ih =>
    have plain := isPlain_of_target (proper.child (.head _) _ .whole).name named
    refine (plain.condition ?_).negatedIf _
    cases kind <;> exact (ih (proper.child (.tail _ (.head _)))).quantifier rfl
  | comparison compares =>
    exact (compares.accepted overflow (proper.child (.head _)) (proper _ .whole).size).negatedIf _
  | comparisonFlipped compares =>
    refine (compares.accepted overflow (proper.child (.tail _ (.head _))) ?_).negatedIf _
    rw [comparesNegativeSize_flipped]
    exact (proper _ .whole).size
  | @isIn _ negated _ _ _ _ excluded named listed =>
    have plain := isPlain_of_target (proper.child (.head _) _ .whole).name named
    cases excluded != negated <;> exact plain.test rfl fun _ => failsOnly_ok _
  | contains named listed =>
    have plain := isPlain_of_target (proper.child (.head _) _ .whole).name named
    refine (plain.test rfl fun value => ?_).negatedIf _
    rw [ValueTest.apply_holdsAll]
    exact failsOnly_ok _
  | presence expected named | isType type named =>
    have plain := isPlain_of_target (proper.child (.head _) _ .whole).name named
    exact (plain.test rfl fun _ => failsOnly_ok _).negatedIf _
  | pattern source named =>
    have plain := isPlain_of_target (proper.child (.head _) _ .whole).name named
    have parses := (proper _ .whole).pattern _ source rfl
    exact (plain.test rfl fun value => ValueTest.pattern_taken parses _ value).negatedIf _
  | flag path =>
    have plain : (Target.field (naming.resolve path)).IsPlain := by
      rintro _ ⟨⟩
      exact (proper _ .whole).name path .boolean rfl
    exact plain.equality _
  | item =>
    have plain : Target.element.IsPlain := nofun
    exact (plain.equality _).negatedIf _
  | truth b => exact Json.accepted_truthClause _ _

/-- The selector of a predicate is accepted. -/
theorem selector_accepted (overflow : allowed .remainderOverflow)
    (proper : predicate.Everywhere (Proper naming allowed)) {clause : Json}
    (made : predicate.selector naming = .ok clause) : clause.Accepted allowed :=
  (emits_of_selector made).accepted overflow proper

theorem proper_not (proper : predicate.Everywhere (Proper naming allowed)) :
    (Expression.unary .not predicate).Everywhere (Proper naming allowed) :=
  everywhere_iff.mpr ⟨⟨nofun, nofun, nofun⟩, List.forall_mem_singleton.mpr proper⟩

theorem proper_connective {left right : Expression} (op : Connective)
    (first : left.Everywhere (Proper naming allowed)) (second : right.Everywhere (Proper naming allowed)) :
    (Expression.binary (.connective op) left right).Everywhere (Proper naming allowed) :=
  everywhere_iff.mpr ⟨⟨nofun, nofun, nofun⟩, by simpa [children] using ⟨first, second⟩⟩

theorem proper_literal (value : Value) : (literal value).Everywhere (Proper naming allowed) :=
  everywhere_iff.mpr ⟨⟨nofun, nofun, nofun⟩, nofun⟩

theorem proper_negate (predicate : Expression) (proper : predicate.Everywhere (Proper naming allowed)) :
    predicate.negate.Everywhere (Proper naming allowed) := by
  match predicate with
  | .unary .not operand => exact proper.child (.head _)
  | .binary (.connective .and) left right =>
    have first := proper_negate left (proper.child (.head _))
    have second := proper_negate right (proper.child (.tail _ (.head _)))
    exact proper_connective .or first second
  | .isIn operand set excluded =>
    exact everywhere_iff.mpr ⟨⟨nofun, nofun, nofun⟩, (everywhere_iff.mp proper).2⟩
  | .field path .boolean =>
    change (equalsFlag (.field path .boolean) false).Everywhere (Proper naming allowed)
    refine everywhere_iff.mpr ⟨⟨nofun, nofun, nofun⟩, ?_⟩
    simpa [equalsFlag, children] using ⟨proper, proper_literal (.bool false)⟩
  | .literal value =>
    cases value with
    | bool b => exact proper_literal (.bool !b)
    | _ => exact proper_not proper
  | .binary (.connective .or) _ _ | .binary (.comparison _) _ _ | .binary (.arithmetic _) _ _
  | .unary .neg _ | .contains .. | .quantifier .. | .presence .. | .isType .. | .pattern ..
  | .field _ .value | .item | .list _ | .size _ => exact proper_not proper
termination_by structural predicate

end Expression
end DocQuery
