import DocQuery.Proofs.DocumentValues
import DocQuery.Value.Arithmetic

/-! Arithmetic on integers of 64 bits is exact or fails. A result that does not fit is an overflow, with one
exception: the quotient of the least integer and minus one does not fit, and wraps around. -/

namespace DocQuery

/-- The exact result of an operation on integers, if there is one: nothing can be divided by zero. A quotient
truncates towards zero, and a remainder has the sign of the dividend. -/
def ArithmeticOp.result? (op : ArithmeticOp) (a b : Int) : Option Int :=
  match op with
  | .add => some (a + b)
  | .sub => some (a - b)
  | .mul => some (a * b)
  | .div => if b = 0 then none else some (a.tdiv b)
  | .mod => if b = 0 then none else some (a.tmod b)

namespace Value

/-- An outcome is the exact result as an integer of 64 bits, or a failure where there is none that fits. The
failure says which of the two it is. -/
structure IsExact (op : ArithmeticOp) (result : Option Int) (outcome : Except ArithmeticError Value) :
    Prop where
  ok : ∀ value, outcome = .ok value → ∃ word : Int64, value = .int word ∧ result = some word.toInt
  fails_iff : (∃ failure, outcome = .error failure) ↔ ∀ i, result = some i → fitsInt64 i = false
  failure : ∀ failure, outcome = .error failure →
    failure = if result = none then .divisionByZero else .overflow op

variable {op : ArithmeticOp}

theorem isExact_word {result : Int} {word : Int64} (same : word.toInt = result) :
    IsExact op (some result) (.ok (.int word)) := by
  subst same
  refine ⟨?_, ⟨?_, ?_⟩, ?_⟩
  · rintro value ⟨⟩
    exact ⟨word, rfl, rfl⟩
  · rintro ⟨failure, ⟨⟩⟩
  · intro outside
    have fits := fitsInt64_toInt word
    rw [outside word.toInt rfl] at fits
    cases fits
  · rintro failure ⟨⟩

theorem isExact_error {result : Option Int} (outside : ∀ i, result = some i → fitsInt64 i = false) :
    IsExact op result (.error (if result = none then .divisionByZero else .overflow op)) := by
  refine ⟨?_, ⟨?_, ?_⟩, ?_⟩
  · rintro value ⟨⟩
  · intro _
    exact outside
  · intro _
    exact ⟨_, rfl⟩
  · rintro failure ⟨⟩
    rfl

/-- What is checked for 64 bits is exact. -/
theorem isExact_checked (result : Int) : IsExact op (some result) (checked op result) := by
  unfold checked
  by_cases fits : fitsInt64 result
  · rw [if_pos fits]
    exact isExact_word (toInt_ofInt_of_fitsInt64 fits)
  · rw [if_neg fits]
    apply isExact_error
    rintro i ⟨⟩
    simpa using fits

/-- A division, whatever it gives where the divisor is another one than zero. -/
theorem isExact_divided {b : Int64} {result : Int} {word : Int64} (same : b ≠ 0 → word.toInt = result) :
    IsExact op (if b.toInt = 0 then none else some result)
      (if b = 0 then .error .divisionByZero else .ok (.int word)) := by
  by_cases zero : b = 0
  · subst zero
    apply isExact_error
    rintro i ⟨⟩
  · have other : b.toInt ≠ 0 := fun impossible => zero (Int64.toInt_inj.mp impossible)
    rw [if_neg other, if_neg zero]
    exact isExact_word (same zero)

theorem arithmetic_isExact {a b : Int64} (fits : op = .div → a = Int64.minValue → b ≠ -1) :
    IsExact op (op.result? a.toInt b.toInt) (arithmetic op (.int a) (.int b)) := by
  cases op with
  | add | sub | mul => exact isExact_checked _
  | div =>
    refine isExact_divided fun _ => ?_
    by_cases least : a = Int64.minValue
    · exact Int64.toInt_div_of_ne_right a b (fits rfl least)
    · exact Int64.toInt_div_of_ne_left a b least
  | mod => exact isExact_divided fun _ => Int64.toInt_mod a b

/-- The least integer is not the exact quotient of itself and minus one. -/
theorem not_isExact_wrapped :
    ¬IsExact .div (ArithmeticOp.div.result? Int64.minValue.toInt (-1 : Int64).toInt)
      (.ok (.int Int64.minValue)) := by
  intro isExact
  obtain ⟨word, same, quotient⟩ := isExact.ok (.int Int64.minValue) rfl
  cases same
  cases quotient

/-- Arithmetic on integers of 64 bits is exact for every operation and all operands but one pair: dividing the
least integer by minus one gives the least integer, where the exact quotient does not fit. Its negation,
which is the same number, is exact as all negations are. -/
theorem arithmetic_isExact_iff (op : ArithmeticOp) (a b : Int64) :
    let outcome := arithmetic op (.int a) (.int b)
    let wraps := op = .div ∧ a = Int64.minValue ∧ b = -1
    (IsExact op (op.result? a.toInt b.toInt) outcome ↔ ¬wraps) ∧
      (wraps → outcome = .ok (.int Int64.minValue)) ∧
      IsExact .sub (some (-a.toInt)) (neg (.int a)) := by
  intro outcome wraps
  have wrapped : wraps → outcome = .ok (.int Int64.minValue) := by
    rintro ⟨rfl, rfl, rfl⟩
    rfl
  refine ⟨⟨?_, ?_⟩, wrapped, isExact_checked (-a.toInt)⟩
  · intro isExact exception
    rw [wrapped exception] at isExact
    obtain ⟨rfl, rfl, rfl⟩ := exception
    exact not_isExact_wrapped isExact
  · intro other
    exact arithmetic_isExact fun divides least negative => other ⟨divides, least, negative⟩

/-- The quotient of the least integer and minus one is no overflow, though it lies one beyond 64 bits. -/
theorem div_least_wraps :
    ArithmeticOp.div.result? Int64.minValue.toInt (-1 : Int64).toInt = some 0x8000000000000000 ∧
      fitsInt64 0x8000000000000000 = false ∧
      arithmetic .div (.int Int64.minValue) (.int (-1)) = .ok (.int Int64.minValue) ∧
      neg (.int Int64.minValue) = .error (.overflow .sub) :=
  ⟨rfl, rfl, rfl, rfl⟩

end Value
end DocQuery
