import DocQuery.Proofs.DocumentValues
import DocQuery.Proofs.Outcomes
import DocQuery.Request.Selector
import DocQuery.Store.Selector

/-! What the combinations of clauses mean to a server: lists of clauses hold one after the other,
and flattening them or dropping clauses that match everything changes no answer and no failure. -/

namespace DocQuery

namespace ValueTest

variable (name : String) (value : Json)

theorem apply_size {argument : Json} {count : Nat} (word : argument.asNat64? = some count) :
    size.apply name argument value =
      .ok (value.asArray?.any fun items => items.length % natBound64 == count) := by
  simp only [apply, word]
  cases value <;> rfl

theorem apply_pattern {source : String} {compiled : Pattern}
    (parsed : Pattern.parse? source = some compiled) :
    pattern.apply name (.string source) value =
      .ok (value.asString?.any compiled.occursIn) := by
  simp only [apply, parsed]
  cases value <;> rfl

theorem apply_remainder {divisor : Int64} (left : Int64) (nonzero : divisor ≠ 0) :
    remainder.apply name (.array [.integer divisor.toInt, .integer left.toInt]) value =
      remainderTest divisor.toInt left.toInt value := by
  have proper : divisor.toInt ≠ 0 := fun zero => nonzero (Int64.toInt_inj.mp zero)
  simp only [apply, Json.asInt64?, Value.fitsInt64_toInt, if_true, if_neg proper]

theorem apply_holdsAll (needles : List Json) :
    holdsAll.apply name (.array needles) value =
      .ok (value.asArray?.any fun items =>
        Value.holdsAll (items.map Value.ofJson) (needles.map Value.ofJson)) := by
  cases value <;> rfl

end ValueTest

namespace Json

variable (value : Json)

theorem admits_and (conditions : List Json) :
    (single "$and" (.array conditions)).admits (some value) = admitsEvery conditions value :=
  bind_answer _

theorem admits_or (conditions : List Json) :
    (single "$or" (.array conditions)).admits (some value) = admitsSome conditions value :=
  bind_answer _

theorem admits_nor (conditions : List Json) :
    (single "$nor" (.array conditions)).admits (some value) =
      (admitsSome conditions value).map (!·) :=
  bind_answer _

theorem admits_not (condition : Json) :
    (single "$not" condition).admits (some value) = (condition.admits (some value)).map (!·) :=
  bind_answer _

theorem admits_path {key : String} {keys : List String} (argument : Json)
    (read : SelectorKey.ofName key = .path keys) :
    (single key argument).admits (some value) = argument.admits (value.lookup? keys) := by
  change (admitsEntries [(key, argument)] value) = _
  rw [admitsEntries, read]
  exact bind_answer _

theorem admits_test {key : String} {test : ValueTest} (argument : Json)
    (read : SelectorKey.ofName key = .test test) :
    (single key argument).admits (some value) = test.apply key argument value := by
  change (admitsEntries [(key, argument)] value) = _
  rw [admitsEntries, read]
  exact bind_answer _

theorem admits_quantifier {key : String} {kind : QuantifierKind} (argument : Json)
    (read : SelectorKey.ofName key = .quantifier kind) :
    (single key argument).admits (some value) =
      match value.asArray? with
      | some items => kind.decide (fun item => argument.admits (some item)) items
      | none => .ok false := by
  change (admitsEntries [(key, argument)] value) = _
  rw [admitsEntries, read]
  cases value with
  | array items => exact bind_answer _
  | _ => rfl

theorem admitsEvery_append (first second : List Json) :
    admitsEvery (first ++ second) value =
      admitsEvery first value >>= fun held =>
        if held then admitsEvery second value else .ok false := by
  induction first with
  | nil => rfl
  | cons condition rest ih =>
    simp only [List.cons_append, admitsEvery, ih]
    rcases condition.admits (some value) with failure | _ | _ <;> rfl

theorem admitsSome_append (first second : List Json) :
    admitsSome (first ++ second) value =
      admitsSome first value >>= fun held =>
        if held then .ok true else admitsSome second value := by
  induction first with
  | nil => rfl
  | cons condition rest ih =>
    simp only [List.cons_append, admitsSome, ih]
    rcases condition.admits (some value) with failure | _ | _ <;> rfl

theorem admitsEvery_singleton (condition : Json) :
    admitsEvery [condition] value = condition.admits (some value) :=
  bind_answer _

theorem admitsSome_singleton (condition : Json) :
    admitsSome [condition] value = condition.admits (some value) :=
  bind_answer _

/-- What one clause turns into when clauses are flattened. -/
theorem spliced_singleton (key : String) (clause : Json) :
    (∃ members, clause = single key (.array members) ∧ spliced key [clause] = members) ∨
      spliced key [clause] = [clause] := by
  simp only [spliced, List.flatMap_cons, List.flatMap_nil, List.append_nil]
  split
  next name members =>
    by_cases same : name = key
    · subst same
      exact Or.inl ⟨members, rfl, if_pos rfl⟩
    · exact Or.inr (if_neg same)
  next => exact Or.inr rfl

theorem spliced_append (key : String) (first second : List Json) :
    spliced key (first ++ second) = spliced key first ++ spliced key second :=
  List.flatMap_append

theorem admitsEvery_spliced (clauses : List Json) :
    admitsEvery (spliced "$and" clauses) value = admitsEvery clauses value := by
  induction clauses with
  | nil => rfl
  | cons clause rest ih =>
    rw [← List.singleton_append, spliced_append, admitsEvery_append, admitsEvery_append, ih]
    congr 1
    obtain ⟨members, rfl, flat⟩ | flat := spliced_singleton "$and" clause
    · rw [flat, admitsEvery_singleton, admits_and]
    · rw [flat]

theorem admitsSome_spliced (clauses : List Json) :
    admitsSome (spliced "$or" clauses) value = admitsSome clauses value := by
  induction clauses with
  | nil => rfl
  | cons clause rest ih =>
    rw [← List.singleton_append, spliced_append, admitsSome_append, admitsSome_append, ih]
    congr 1
    obtain ⟨members, rfl, flat⟩ | flat := spliced_singleton "$or" clause
    · rw [flat, admitsSome_singleton, admits_or]
    · rw [flat]

/-- Clauses that match everything can be left out of a conjunction. -/
theorem admitsEvery_filter (clauses : List Json) :
    admitsEvery (clauses.filter (!isMatchAll ·)) value = admitsEvery clauses value := by
  induction clauses with
  | nil => rfl
  | cons clause rest ih =>
    by_cases all : isMatchAll clause
    · have empty : clause = .object [] := by
        unfold isMatchAll at all
        split at all
        · rfl
        · contradiction
      subst empty
      simp only [all, List.filter_cons, Bool.not_true, Bool.false_eq_true, if_false, ih]
      rfl
    · simp [all, admitsEvery, ih]

theorem admits_conjunction (clauses : List Json) :
    (conjunction clauses).admits (some value) = admitsEvery clauses value := by
  have kept : admitsEvery (if 1 < (spliced "$and" clauses).length then
      (spliced "$and" clauses).filter (!isMatchAll ·) else spliced "$and" clauses) value =
      admitsEvery clauses value := by
    split
    · rw [admitsEvery_filter, admitsEvery_spliced]
    · exact admitsEvery_spliced value clauses
  unfold conjunction
  simp only
  split
  next empty => rw [empty] at kept; exact kept
  next term lone => rw [lone, admitsEvery_singleton] at kept; exact kept
  next => rw [admits_and]; exact kept

end Json
end DocQuery
