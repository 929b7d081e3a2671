import DocQuery.Proofs.ExecutionStates
import DocQuery.Proofs.ExtremeValues
import DocQuery.Proofs.RunningTotals
import Mathlib.Tactic.ByContra

/-! Sums and averages of integers. A sum is exact or overflows, and it overflows as soon as a total on the way
does, so it may depend on the order of the documents even if the total fits. -/

namespace DocQuery

namespace Json

/-- Whether a document holds an integer of 64 bits at a path, or null, or nothing. -/
def HoldsInteger (path : List String) (document : Json) : Prop :=
  ∀ value, document.lookup? path = some value → value.isNull ∨ value.asInt64?.isSome

/-- The integer that a document adds to a sum. -/
def addend (path : List String) (document : Json) : Int :=
  ((document.lookup? path).bind asInt64?).getD 0

variable {path : List String} {document : Json}

theorem fits_addend (path : List String) (document : Json) : fitsInt64 (document.addend path) := by
  unfold addend
  cases found : (document.lookup? path).bind asInt64? with
  | none => rfl
  | some i =>
    obtain ⟨value, _, whole⟩ := Option.bind_eq_some_iff.mp found
    exact (asInt64?_eq_some.mp whole).2

/-- Either a document has a value that counts, which is what it adds, or it adds nothing. -/
theorem HoldsInteger.valueAt? (holds : document.HoldsInteger path) :
    (∃ word : Int64, document.valueAt? path = some (.int word) ∧ document.addend path = word.toInt) ∨
      document.valueAt? path = none ∧ document.addend path = 0 := by
  unfold Json.valueAt? addend
  cases found : document.lookup? path with
  | none => exact .inr ⟨rfl, rfl⟩
  | some value =>
    obtain null | whole := holds value found
    · cases value with
      | null => exact .inr ⟨rfl, rfl⟩
      | _ => cases null
    · obtain ⟨i, same⟩ := Option.isSome_iff_exists.mp whole
      obtain ⟨rfl, fits⟩ := asInt64?_eq_some.mp same
      refine .inl ⟨Int64.ofInt i, ?_, ?_⟩
      · rw [Option.map_some, Value.ofJson, if_pos fits]
        rfl
      · rw [Option.bind_some, same, Option.getD_some, Value.toInt_ofInt_of_fitsInt64 fits]

end Json

/-- The failure of a sum in which a total on the way does not fit. -/
def sumOverflow : Error := .query (.arithmetic (.overflow .add))

theorem Value.addToTotal_int (total word : Int64) :
    addToTotal (.int total) (.int word) =
      if fitsInt64 (total.toInt + word.toInt) then .ok (.int (Int64.ofInt (total.toInt + word.toInt)))
      else .error sumOverflow := by
  change ofArithmetic (checked .add (total.toInt + word.toInt)) = _
  unfold checked
  split <;> rfl

section Documents

variable {path : List String} {documents others : List Json}

/-- Adding up goes on exactly as long as the totals on the way fit. -/
theorem addUp (whole : ∀ document ∈ documents, document.HoldsInteger path) (start : Int64) :
    let total := start.toInt + totalWeight (Json.addend path) documents
    let added := (documents.filterMap (Json.valueAt? path)).foldlM Value.addToTotal (.int start)
    (StaysWithin (Json.addend path) start.toInt documents → added = .ok (.int (Int64.ofInt total))) ∧
      (¬StaysWithin (Json.addend path) start.toInt documents → added = .error sumOverflow) := by
  induction documents generalizing start with
  | nil =>
    refine ⟨fun _ => ?_, fun leaves => ?_⟩
    · simp
    · exact absurd (staysWithin_nil.mpr (Value.fitsInt64_toInt start)) leaves
  | cons document rest ih =>
    obtain ⟨holds, further⟩ := List.forall_mem_cons.mp whole
    obtain ⟨word, found, adds⟩ | ⟨found, adds⟩ := holds.valueAt?
    · simp only [List.filterMap_cons, found, List.foldlM_cons, staysWithin_cons, totalWeight_cons, adds,
        Value.fitsInt64_toInt, true_and, Value.addToTotal_int]
      by_cases fits : fitsInt64 (start.toInt + word.toInt)
      · have next := ih further (Int64.ofInt (start.toInt + word.toInt))
        rw [Value.toInt_ofInt_of_fitsInt64 fits] at next
        rw [if_pos fits, ← Int.add_assoc]
        exact next
      · rw [if_neg fits]
        exact ⟨fun within => absurd within.fits_start fits, fun _ => rfl⟩
    · simp only [List.filterMap_cons, found, staysWithin_cons, totalWeight_cons, adds,
        Value.fitsInt64_toInt, true_and, Int.add_zero, Int.zero_add]
      exact ih further start

/-- The number of documents with a value that counts does not depend on their order. -/
theorem length_fieldValues_perm (field : String) (order : documents.Perm others) :
    (fieldValues field documents).length = (fieldValues field others).length := by
  rw [fieldValues_eq, fieldValues_eq]
  exact (order.filterMap _).length_eq

theorem holdsInteger_perm (order : documents.Perm others)
    (whole : ∀ document ∈ documents, document.HoldsInteger path) :
    ∀ document ∈ others, document.HoldsInteger path :=
  fun document among => whole document (order.mem_iff.mpr among)

variable {field : String} (whole : ∀ document ∈ documents, document.HoldsInteger (wireKeys field))
include whole

theorem sum_of_staysWithin (within : StaysWithin (Json.addend (wireKeys field)) 0 documents) :
    Value.sum (fieldValues field documents) =
      .ok (.int (Int64.ofInt (totalWeight (Json.addend (wireKeys field)) documents))) := by
  have added := (addUp whole 0).1 within
  rw [← fieldValues_eq] at added
  rw [Value.sum, added]
  simp

theorem sum_of_overflow (leaves : ¬StaysWithin (Json.addend (wireKeys field)) 0 documents) :
    Value.sum (fieldValues field documents) = .error sumOverflow := by
  have added := (addUp whole 0).2 leaves
  rwa [← fieldValues_eq] at added

end Documents

/-- What comes of a total that has been reached, and of the number of values in it. -/
def AggregateFunction.ofTotal (total : Int) (count : Nat) : AggregateFunction → Except Error Output
  | .average =>
    if count = 0 then .error .noElements
    else .ok (.scalar (Value.float ((Binary64.ofInt total).div (.ofInt count))).toJson)
  | _ => .ok (.scalar (.integer total))

namespace AggregateFunction

variable {function : AggregateFunction} {field : String} {documents : List Json}

/-- Whether a function adds up the values of a field. -/
def addsUp : AggregateFunction → Bool
  | .sum | .average => true
  | _ => false

theorem ofTotal_ne (total : Int) (count : Nat) : function.ofTotal total count ≠ .error sumOverflow := by
  intro same
  cases function with
  | average =>
    by_cases empty : count = 0
    · rw [ofTotal, if_pos empty] at same
      cases same
    · rw [ofTotal, if_neg empty] at same
      cases same
  | _ => cases same

variable (adds : function.addsUp) (whole : ∀ document ∈ documents, document.HoldsInteger (wireKeys field))
include adds whole

theorem aggregate_of_staysWithin (within : StaysWithin (Json.addend (wireKeys field)) 0 documents) :
    function.aggregate field documents =
      function.ofTotal (totalWeight (Json.addend (wireKeys field)) documents)
        (fieldValues field documents).length := by
  have summed := sum_of_staysWithin whole within
  have fits := within.fits_total
  rw [Int.zero_add] at fits
  cases function with
  | sum =>
    rw [aggregate, apply, summed, ok_bind, Value.toJson, Value.toInt_ofInt_of_fitsInt64 fits]
    rfl
  | average =>
    rw [aggregate, apply, Value.average, summed, ofTotal]
    cases fieldValues field documents with
    | nil => rfl
    | cons value rest =>
      simp only [List.isEmpty_cons, List.length_cons, ok_bind, Value.asFloat?,
        Value.toInt_ofInt_of_fitsInt64 fits]
      rfl
  | min | max => cases adds

theorem aggregate_of_overflow (leaves : ¬StaysWithin (Json.addend (wireKeys field)) 0 documents) :
    function.aggregate field documents = .error sumOverflow := by
  have summed := sum_of_overflow whole leaves
  cases function with
  | sum =>
    rw [aggregate, apply, summed]
    rfl
  | average =>
    rw [aggregate, apply, Value.average, summed]
    cases values : fieldValues field documents with
    | nil =>
      rw [values] at summed
      cases summed
    | cons value rest => rfl
  | min | max => cases adds

/-- Two orders of which neither overflows come to the same. -/
theorem aggregate_perm {others : List Json} (order : documents.Perm others)
    (first : StaysWithin (Json.addend (wireKeys field)) 0 documents)
    (second : StaysWithin (Json.addend (wireKeys field)) 0 others) :
    function.aggregate field others = function.aggregate field documents := by
  rw [aggregate_of_staysWithin adds whole first,
    aggregate_of_staysWithin adds (holdsInteger_perm order whole) second,
    totalWeight_perm order, length_fieldValues_perm field order]

theorem aggregate_eq_overflow :
    function.aggregate field documents = .error sumOverflow ↔
      ¬StaysWithin (Json.addend (wireKeys field)) 0 documents := by
  refine ⟨fun failed within => ?_, aggregate_of_overflow adds whole⟩
  rw [aggregate_of_staysWithin adds whole within] at failed
  exact ofTotal_ne _ _ failed

/-- The order does not matter exactly if the documents together do not fit, or all that is positive and all
that is negative fit by themselves. -/
theorem aggregate_perm_iff :
    (∀ others, documents.Perm others → function.aggregate field others = function.aggregate field documents) ↔
      (fitsInt64 (totalWeight (Json.addend (wireKeys field)) documents) →
        fitsInt64 (totalWeight (Json.addend (wireKeys field))
          (documents.filter (Json.addend (wireKeys field) · < 0))) ∧
        fitsInt64 (totalWeight (Json.addend (wireKeys field))
          (documents.filter (0 < Json.addend (wireKeys field) ·)))) := by
  constructor
  · intro same fits
    rw [← Int.zero_add (totalWeight _ _)] at fits
    obtain ⟨fitting, reordered, within⟩ :=
      exists_order_within (fun document _ => Json.fits_addend (wireKeys field) document) rfl fits
    apply every_order_within_iff.mp
    -- One order reaches the total, so none overflows, whatever it begins with.
    intro others order
    by_contra leaves
    have failed := aggregate_of_overflow adds (holdsInteger_perm order whole) leaves
    rw [same others order, ← same fitting reordered] at failed
    exact (aggregate_eq_overflow adds (holdsInteger_perm reordered whole)).mp failed within
  · intro halves others order
    by_cases fits : fitsInt64 (totalWeight (Json.addend (wireKeys field)) documents)
    · have every := every_order_within_iff.mpr (halves fits)
      exact aggregate_perm adds whole order (every documents (.refl documents)) (every others order)
    · rw [aggregate_of_overflow adds whole (not_staysWithin_of_perm fits (.refl documents)),
        aggregate_of_overflow adds (holdsInteger_perm order whole) (not_staysWithin_of_perm fits order)]

end AggregateFunction

/-- A sum of integers is the exact total if every total on the way fits in 64 bits, as it does if all that is
positive and all that is negative fit by themselves. If one does not fit, sum and average overflow. Orders
of the same documents that do not overflow come to the same, and some order reaches a total that fits. So
the order makes no difference exactly if the documents together do not fit, when all orders overflow, or
if both halves fit. -/
theorem runSteps_total (naming : FieldNaming) (field : FieldPath) (documents : List Json)
    (whole : ∀ document ∈ documents, document.HoldsInteger (wireKeys (naming.resolve field))) :
    let addend := Json.addend (wireKeys (naming.resolve field))
    let total := totalWeight addend
    let run (function : AggregateFunction) := runSteps naming [.aggregate function field]
    let halvesFit := fitsInt64 (total (documents.filter (addend · < 0))) ∧
      fitsInt64 (total (documents.filter (0 < addend ·)))
    (StaysWithin addend 0 documents → run .sum documents = .ok (.scalar (.integer (total documents)))) ∧
      (halvesFit → StaysWithin addend 0 documents) ∧
      (fitsInt64 (total documents) → ∃ others, documents.Perm others ∧ StaysWithin addend 0 others) ∧
      ∀ function : AggregateFunction, function.addsUp →
        (run function documents = .error sumOverflow ↔ ¬StaysWithin addend 0 documents) ∧
        (∀ others, documents.Perm others → StaysWithin addend 0 documents → StaysWithin addend 0 others →
          run function others = run function documents) ∧
        ((∀ others, documents.Perm others → run function others = run function documents) ↔
          (fitsInt64 (total documents) → halvesFit)) := by
  intro addend total run halvesFit
  have aggregates : ∀ function list, run function list = function.aggregate (naming.resolve field) list :=
    fun function list => Execution.runSteps_singleton rfl list
  refine ⟨fun within => ?_, fun halves => staysWithin_of_halves halves.1 halves.2, fun fits => ?_,
    fun function adds => ?_⟩
  · rw [aggregates]
    exact AggregateFunction.aggregate_of_staysWithin rfl whole within
  · exact exists_order_within (fun document _ => Json.fits_addend _ document) rfl (by simpa using fits)
  · simp only [aggregates]
    exact ⟨AggregateFunction.aggregate_eq_overflow adds whole,
      fun others order => AggregateFunction.aggregate_perm adds whole order,
      AggregateFunction.aggregate_perm_iff adds whole⟩

/-- Ages of which one is missing and one is null, in any order. -/
theorem runSteps_total_ages :
    let aged (age : Json) : Json := .object [("age", age)]
    let documents := [aged (.integer 19), aged .null, .object [], aged (.integer (-7))]
    (∀ document ∈ documents, document.HoldsInteger ["age"]) ∧
      ∀ others, documents.Perm others →
        runSteps (.ofCase .unchanged) [.aggregate .sum ⟨["age"]⟩] others = .ok (.scalar (.integer 12)) := by
  intro aged documents
  have whole : ∀ document ∈ documents, document.HoldsInteger ["age"] := by
    simp only [documents, List.forall_mem_cons]
    refine ⟨?_, ?_, ?_, ?_, List.forall_mem_nil _⟩
    · rintro value ⟨⟩
      exact .inr rfl
    · rintro value ⟨⟩
      exact .inl rfl
    · rintro value ⟨⟩
    · rintro value ⟨⟩
      exact .inr rfl
  have keys : wireKeys ((FieldNaming.ofCase .unchanged).resolve ⟨["age"]⟩) = ["age"] := rfl
  obtain ⟨reached, halves, _, orders⟩ :=
    runSteps_total (.ofCase .unchanged) ⟨["age"]⟩ documents (by rwa [keys])
  refine ⟨whole, fun others order => ?_⟩
  have same := (orders .sum rfl).2.2.mpr (fun _ => by decide) others order
  exact same.trans (reached (halves (by decide)))

/-- A total that fits, which is not reached if the greatest number comes first. -/
theorem runSteps_total_unreached :
    let aged (age : Int) : Json := .object [("age", .integer age)]
    let sum := runSteps (.ofCase .unchanged) [.aggregate .sum ⟨["age"]⟩]
    let greatest := 0x7fffffffffffffff
    fitsInt64 (greatest + 1 - 1) ∧
      sum [aged greatest, aged 1, aged (-1)] = .error sumOverflow ∧
      sum [aged 1, aged (-1), aged greatest] = .ok (.scalar (.integer greatest)) :=
  ⟨rfl, rfl, rfl⟩

end DocQuery
