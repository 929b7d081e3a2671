import DocQuery.Expression.Normal
import DocQuery.Proofs.Outcomes
import DocQuery.Proofs.SelectorMeaning
import DocQuery.Request.Selector

/-! Operands of one connective are flattened on their way into an array, and clauses that are already
arrays are flattened there. The two undo each other, so the clauses of operands might as well be
formed one by one, and normalizing a predicate changes no clause. -/

namespace DocQuery

def Connective.key : Connective → String
  | .and => "$and"
  | .or => "$or"

/-- An array of operands is nothing but its members among further operands. -/
theorem spliced_single (key : String) (members : List Json) :
    spliced key [single key (.array members)] = members := by
  simp [spliced, single]

namespace Expression

theorem connect_congr (op : Connective) (negated : Bool) {first second : List Json}
    (same : spliced op.key first = spliced op.key second) :
    connect op negated first = connect op negated second := by
  cases op with
  | and => exact congrArg (fun members => negatedIf negated (single "$and" (.array members))) same
  | or =>
    cases negated with
    | false => exact congrArg (fun members => single "$or" (.array members)) same
    | true => exact congrArg (fun members => single "$nor" (.array members)) same

theorem spliced_connect (op : Connective) (clauses : List Json) :
    spliced op.key [connect op false clauses] = spliced op.key clauses := by
  cases op <;> exact spliced_single _ _

/-- The array of clauses under a connective asks what the clauses ask, one after the other. -/
theorem admits_connect (op : Connective) (clauses : List Json) (value : Json) :
    (connect op false clauses).admits (some value) =
      match op with
      | .and => Json.admitsEvery clauses value
      | .or => Json.admitsSome clauses value := by
  cases op with
  | and => rw [connect, negatedIf, if_neg (by decide), Json.admits_and, Json.admitsEvery_spliced]
  | or => rw [connect, Json.admits_or, Json.admitsSome_spliced]

theorem admits_connect_negated (op : Connective) (clauses : List Json) (value : Json) :
    (connect op true clauses).admits (some value) =
      ((connect op false clauses).admits (some value)).map (!·) := by
  cases op with
  | and => exact Json.admits_not value _
  | or => rw [connect, connect, Json.admits_nor, Json.admits_or]

variable (naming : FieldNaming) (position : PredicateScope)

/-- Flattened, the clauses of an operand are the same whether or not its own operands are listed. -/
theorem clauses_joining (predicate : Expression) (op : Connective) (negated : Bool) :
    (predicate.clauses naming position (some op) negated).map (spliced op.key) =
      (predicate.clauses naming position none negated).map (spliced op.key) := by
  match predicate with
  | .binary (.connective inner) left right =>
    simp only [clauses]
    simp only [map_bind]
    congr 1
    funext first
    congr 1
    funext second
    by_cases listed : negated = false ∧ op = inner
    · obtain ⟨rfl, rfl⟩ := listed
      simp [spliced_connect]
    · simp [listed]
  | .binary (.comparison _) _ _ | .binary (.arithmetic _) _ _ | .unary .neg _ | .unary .not _
  | .isIn .. | .contains .. | .quantifier .. | .presence .. | .isType .. | .pattern ..
  | .field _ .boolean | .field _ .value | .item | .list _ | .size _ => rfl
  | .literal value => cases value <;> rfl

/-- The clause of a connective comes from the clauses of its two operands. -/
theorem clauses_connective (op : Connective) (left right : Expression) (negated : Bool) :
    (Expression.binary (.connective op) left right).clauses naming position none negated =
      (left.clauses naming position none false >>= fun first =>
        right.clauses naming position none false >>= fun second =>
          .ok [connect op negated (first ++ second)]) := by
  have unlisted : (!negated && (none : Option Connective) == some op) = false := by simp
  rw [clauses]
  simp only [unlisted, Bool.false_eq_true, if_false, pure_eq_ok]
  rw [bind_congr_map (clauses_joining naming position left op false)]
  · congr 1
    funext first
    refine bind_congr_map (clauses_joining naming position right op false) fun a b same => ?_
    have equal : connect op negated (first ++ a) = connect op negated (first ++ b) :=
      connect_congr op negated (by rw [Json.spliced_append, Json.spliced_append, same])
    rw [equal]
  · intro a b same
    congr 1
    funext second
    have equal : connect op negated (a ++ second) = connect op negated (b ++ second) :=
      connect_congr op negated (by rw [Json.spliced_append, Json.spliced_append, same])
    rw [equal]

/-- A predicate, or the negation of it. -/
def polar (negated : Bool) (predicate : Expression) : Expression :=
  if negated then .unary .not predicate else predicate

/-- The normal form of a predicate, or of its negation, has the clauses of the predicate, or the
same failure. -/
theorem clauses_normalize (predicate : Expression) (position : PredicateScope) (negated : Bool) :
    (predicate.polar negated).normalize.clauses naming position none false =
      predicate.clauses naming position none negated := by
  match predicate with
  | .binary (.connective op) left right =>
    have first := clauses_normalize left position false
    have second := clauses_normalize right position false
    rw [clauses_connective, ← first, ← second, ← clauses_connective]
    cases negated <;> rfl
  | .quantifier kind collection predicate =>
    rw [clauses, ← clauses_normalize predicate .element false]
    cases negated <;> rfl
  | .unary .not operand =>
    cases negated with
    | false => exact clauses_normalize operand position true
    | true => exact clauses_normalize operand position false
  | .isIn operand set excluded => cases negated <;> cases excluded <;> rfl
  | .field path .boolean => cases negated <;> rfl
  | .binary (.comparison _) _ _ | .binary (.arithmetic _) _ _ | .unary .neg _
  | .contains .. | .presence .. | .isType .. | .pattern ..
  | .field _ .value | .item | .list _ | .size _ | .literal _ => cases negated <;> rfl
termination_by structural predicate

theorem selector_normalize (predicate : Expression) :
    predicate.normalize.selector naming = predicate.selector naming := by
  have same := clauses_normalize naming predicate .document false
  exact congrArg (fun found => found >>= _) same

end Expression
end DocQuery
