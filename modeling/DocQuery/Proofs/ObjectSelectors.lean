import DocQuery.Proofs.EmittedClauses
import DocQuery.Proofs.ExpressionParts

/-! A selector is an object, unless a field has the name of the conjunction. The clause that compares such a
field with a list is taken for a conjunction, and the items of the list for its clauses. -/

namespace DocQuery

/-- Whether all that a clause gives to a conjunction around it are objects. -/
def Json.JoinsObjects (clause : Json) : Prop :=
  ∀ member ∈ spliced "$and" [clause], ∃ entries, member = .object entries

namespace Json

variable {clause argument : Json} {key : String}

theorem joinsObjects_single (apart : key ≠ "$and" ∨ ∀ members, argument ≠ .array members) :
    (single key argument).JoinsObjects := by
  intro member among
  obtain ⟨members, same, _⟩ | flat := spliced_singleton "$and" (single key argument)
  · simp only [single, object.injEq, List.cons.injEq, Prod.mk.injEq, and_true] at same
    exact (apart.elim (· same.1) (· members same.2)).elim
  · rw [flat] at among
    exact ⟨_, List.mem_singleton.mp among⟩

theorem JoinsObjects.negatedIf (joins : clause.JoinsObjects) (negated : Bool) :
    (Expression.negatedIf negated clause).JoinsObjects := by
  cases negated with
  | false => exact joins
  | true => exact joinsObjects_single (.inl (by decide))

theorem joinsObjects_condition (target : Target) {op : String} (other : op ≠ "$and") (argument : Json) :
    (target.condition op argument).JoinsObjects := by
  cases target with
  | field name => exact joinsObjects_single (.inr nofun)
  | element => exact joinsObjects_single (.inl other)

theorem joinsObjects_equality {target : Target} (other : target ≠ .field "$and") (value : Json) :
    (target.equality value).JoinsObjects := by
  cases target with
  | element => exact joinsObjects_single (.inl (by decide))
  | field name =>
    cases value with
    | object entries => exact joinsObjects_single (.inr nofun)
    | _ => exact joinsObjects_single (.inl fun same => other (congrArg _ same))

theorem joinsObjects_truthClause (scope : PredicateScope) (b : Bool) : (truthClause scope b).JoinsObjects := by
  cases b with
  | true => exact List.forall_mem_singleton.mpr ⟨[], rfl⟩
  | false =>
    cases scope with
    | document => exact joinsObjects_single (.inr nofun)
    | element => exact joinsObjects_single (.inl (by decide))

end Json

section Clauses

variable {clauses : List Json} (joins : ∀ clause ∈ clauses, clause.JoinsObjects)
include joins

theorem spliced_joinsObjects : ∀ member ∈ spliced "$and" clauses, ∃ entries, member = .object entries := by
  intro member among
  obtain ⟨clause, there, inside⟩ := List.mem_flatMap.mp among
  exact joins clause there member (List.mem_flatMap.mpr ⟨clause, .head _, inside⟩)

theorem connect_joinsObjects (op : Connective) (negated : Bool) :
    (Expression.connect op negated clauses).JoinsObjects := by
  cases op with
  | and =>
    refine Json.JoinsObjects.negatedIf (fun member among => ?_) negated
    rw [spliced_single] at among
    exact spliced_joinsObjects joins member among
  | or => cases negated <;> exact Json.joinsObjects_single (.inl (by decide))

theorem exists_conjunction : ∃ entries, conjunction clauses = .object entries := by
  have flat := spliced_joinsObjects joins
  have kept : ∀ member ∈ if 1 < (spliced "$and" clauses).length then
      (spliced "$and" clauses).filter (!isMatchAll ·) else spliced "$and" clauses,
      ∃ entries, member = .object entries := by
    intro member among
    split at among
    · exact flat member (List.mem_filter.mp among).1
    · exact flat member among
  unfold conjunction
  simp only
  generalize (if 1 < (spliced "$and" clauses).length then _ else _ : List Json) = members at kept ⊢
  obtain _ | ⟨first, _ | ⟨second, rest⟩⟩ := members
  · exact ⟨_, rfl⟩
  · exact kept first (.head _)
  · exact ⟨_, rfl⟩

end Clauses

namespace Expression

variable {naming : FieldNaming} {position : PredicateScope} {clause : Json}

/-- Whether an expression, if it is a field, has another name than the conjunction. -/
def NamesNoConjunction (naming : FieldNaming) (part : Expression) : Prop :=
  ∀ path kind, part = .field path kind → naming.resolve path ≠ "$and"

theorem target_ne_conjunction {subject : Expression} {target : Target}
    (other : subject.NamesNoConjunction naming) (named : subject.target naming position = .ok target) :
    target ≠ .field "$and" := by
  unfold Expression.target at named
  split at named
  case h_1 path kind =>
    cases named
    exact fun same => other path kind rfl (Target.field.inj same)
  case h_2 =>
    cases position with
    | element =>
      cases named
      nofun
    | document => cases named
  all_goals cases named

theorem Comparison.operator_ne (op : Comparison) : op.operator ≠ "$and" := by
  cases op <;> decide

theorem Compares.joinsObjects {op : Comparison} {left : Expression} {value : Value}
    (compares : Compares naming position op left value clause) (other : left.NamesNoConjunction naming) :
    clause.JoinsObjects := by
  cases compares with
  | remainder | size => exact Json.joinsObjects_condition _ (by decide) _
  | test => exact Json.joinsObjects_condition _ (Comparison.operator_ne op) _
  | equality named => exact Json.joinsObjects_equality (target_ne_conjunction other named) _

theorem Emits.joinsObjects {negated : Bool} {predicate : Expression}
    (emits : Emits naming position negated predicate clause)
    (other : predicate.Everywhere (NamesNoConjunction naming)) : clause.JoinsObjects := by
  induction emits with
  | connective op _ _ first second =>
    refine connect_joinsObjects (fun clause among => ?_) op _
    rcases List.mem_pair.mp among with rfl | rfl
    · exact first (other.child (.head _))
    · exact second (other.child (.tail _ (.head _)))
  | not _ ih => exact ih (other.child (.head _))
  | quantifier kind =>
    exact (Json.joinsObjects_condition _ (by cases kind <;> decide) _).negatedIf _
  | comparison compares => exact (compares.joinsObjects (other.child (.head _) _ .whole)).negatedIf _
  | comparisonFlipped compares =>
    exact (compares.joinsObjects (other.child (.tail _ (.head _)) _ .whole)).negatedIf _
  | @isIn _ negated _ _ _ _ excluded =>
    cases excluded != negated <;> exact Json.joinsObjects_condition _ (by decide) _
  | contains | presence | isType | pattern => exact (Json.joinsObjects_condition _ (by decide) _).negatedIf _
  | flag path =>
    refine Json.joinsObjects_equality (fun same => ?_) _
    exact other _ .whole path .boolean rfl (Target.field.inj same)
  | item =>
    have element : Target.element ≠ .field "$and" := by decide
    exact (Json.joinsObjects_equality element _).negatedIf _
  | truth b => exact Json.joinsObjects_truthClause _ _

theorem joinsObjects_of_selector {predicate : Expression} (made : predicate.selector naming = .ok clause)
    (other : predicate.Everywhere (NamesNoConjunction naming)) : clause.JoinsObjects :=
  (emits_of_selector made).joinsObjects other

end Expression
end DocQuery
