import DocQuery.Proofs.CollationOrder
import DocQuery.Proofs.RoundedNumbers

/-!
Integers beside floats. Two integers compare as they are, but an integer compares with a float by the
number it is rounded to. Rounding keeps the order, so no two numbers change places; an integer can only
come to equal the float that it is rounded to.
-/

namespace DocQuery.Value

/-- Whether a value is the number of an integer: an integer itself, or a float that is one. -/
def Denotes : Value → Int → Prop
  | .int i, n => i.toInt = n
  | .float x, n => x.isFinite = true ∧ x.units = n * Binary64.one
  | _, _ => False

/-- An integer beside a float that it is rounded to and that is another number. -/
def Blurred : Value → Value → Prop
  | .int i, .float x | .float x, .int i =>
    (Binary64.ofInt i.toInt).units = x.units ∧ x.units ≠ i.toInt * Binary64.one
  | _, _ => False

theorem compareFloats_of_units {x y : Binary64} (real : x.isNaN = false) (other : y.isNaN = false) :
    compareFloats x y = compare x.units y.units := by
  simp [compareFloats, Binary64.compare?, real, other]

variable {a b c : Value} {m n k : Int}

/-- Every number has a float to compare with, the one that its integer is rounded to. -/
theorem Denotes.asFloat? (number : a.Denotes m) :
    ∃ x, a.asFloat? = some x ∧ x.isNaN = false ∧ x.units = (Binary64.ofInt m).units := by
  cases a with
  | int i => exact ⟨_, rfl, Binary64.isNaN_ofMagnitude .., by rw [show i.toInt = m from number]⟩
  | float x =>
    obtain ⟨finite, exact⟩ := number
    refine ⟨x, rfl, Binary64.isNaN_of_isFinite finite, ?_⟩
    rw [exact, Binary64.units_ofInt_of_units_eq finite exact]
  | _ => exact number.elim

theorem asInt?_isSome_iff : a.asInt?.isSome ↔ ∃ i, a = .int i := by
  cases a <;> simp [asInt?]

theorem collate_eq_compare (first : a.Denotes m) (second : b.Denotes n)
    (integers : a.asInt?.isSome ∧ b.asInt?.isSome) : collate a b = compare m n := by
  obtain ⟨i, rfl⟩ := asInt?_isSome_iff.mp integers.1
  obtain ⟨j, rfl⟩ := asInt?_isSome_iff.mp integers.2
  rw [collate, show i.toInt = m from first, show j.toInt = n from second]

theorem collate_of_asFloat? {x y : Binary64} (here : a.asFloat? = some x) (there : b.asFloat? = some y)
    (mixed : ¬(a.asInt?.isSome ∧ b.asInt?.isSome)) : collate a b = compareFloats x y := by
  cases a <;> cases b <;> simp_all [asInt?, Value.asFloat?, collate]

theorem collate_eq_compare_units (first : a.Denotes m) (second : b.Denotes n)
    (mixed : ¬(a.asInt?.isSome ∧ b.asInt?.isSome)) :
    collate a b = compare (Binary64.ofInt m).units (Binary64.ofInt n).units := by
  obtain ⟨x, here, real, same⟩ := first.asFloat?
  obtain ⟨y, there, other, equal⟩ := second.asFloat?
  rw [← same, ← equal, ← compareFloats_of_units real other, collate_of_asFloat? here there mixed]

theorem blurred_iff (first : a.Denotes m) (second : b.Denotes n) :
    Blurred a b ↔ ¬(a.asInt?.isSome ∧ b.asInt?.isSome) ∧
      (Binary64.ofInt m).units = (Binary64.ofInt n).units ∧ m ≠ n := by
  have floats {x : Binary64} {n : Int} (number : (Value.float x).Denotes n) :
      (Binary64.ofInt n).units = n * Binary64.one :=
    Binary64.units_ofInt_of_units_eq number.1 number.2
  cases a with
  | int i =>
    cases b with
    | int j => exact iff_of_false id fun blurred => blurred.1 ⟨rfl, rfl⟩
    | float x =>
      rw [Blurred, floats second, second.2, show i.toInt = m from first, and_iff_right (nomatch ·.2),
        ne_comm, ne_eq, Binary64.mul_one_inj]
    | _ => exact second.elim
  | float x =>
    cases b with
    | int j =>
      rw [Blurred, floats first, first.2, show j.toInt = n from second, and_iff_right (nomatch ·.1),
        eq_comm, ne_eq, Binary64.mul_one_inj]
    | float y =>
      rw [floats first, floats second, Binary64.mul_one_inj]
      exact iff_of_false id fun blurred => blurred.2.2 blurred.2.1
    | _ => exact second.elim
  | _ => exact first.elim

theorem compare_units (m n : Int) : compare (Binary64.ofInt m).units (Binary64.ofInt n).units =
    if (Binary64.ofInt m).units = (Binary64.ofInt n).units then .eq else compare m n := by
  split
  case isTrue same => simp [same]
  case isFalse apart =>
    rcases Int.lt_trichotomy m n with less | rfl | more
    · have order := Binary64.units_ofInt_mono (Int.le_of_lt less)
      rw [Int.compare_eq_lt.mpr less, Int.compare_eq_lt]
      omega
    · exact absurd rfl apart
    · have order := Binary64.units_ofInt_mono (Int.le_of_lt more)
      rw [Int.compare_eq_gt.mpr more, Int.compare_eq_gt]
      omega

theorem collate_eq_of_blurred (first : a.Denotes m) (second : b.Denotes n) (blurred : Blurred a b) :
    collate a b = .eq := by
  obtain ⟨mixed, same, _⟩ := (blurred_iff first second).mp blurred
  rw [collate_eq_compare_units first second mixed, compare_units, if_pos same]

theorem collate_eq_of_not_blurred (first : a.Denotes m) (second : b.Denotes n)
    (clear : ¬Blurred a b) : collate a b = compare m n := by
  by_cases integers : a.asInt?.isSome ∧ b.asInt?.isSome
  · exact collate_eq_compare first second integers
  · rw [collate_eq_compare_units first second integers, compare_units]
    split
    case isTrue same =>
      by_cases equal : m = n
      · simp [equal]
      · exact absurd ((blurred_iff first second).mpr ⟨integers, same, equal⟩) clear
    case isFalse => rfl

theorem ne_of_blurred (first : a.Denotes m) (second : b.Denotes n) (blurred : Blurred a b) : m ≠ n :=
  ((blurred_iff first second).mp blurred).2.2

theorem not_blurred_of_le (first : a.Denotes m) (second : b.Denotes n)
    (small : m.natAbs ≤ 2 * Binary64.exponentBit) (short : n.natAbs ≤ 2 * Binary64.exponentBit) :
    ¬Blurred a b := by
  rw [blurred_iff first second, Binary64.units_ofInt_of_le small, Binary64.units_ofInt_of_le short,
    Binary64.mul_one_inj]
  exact fun blurred => blurred.2.2 blurred.2.1

theorem units_le_of_isLE (first : a.Denotes m) (second : b.Denotes n) (low : (collate a b).isLE) :
    (Binary64.ofInt m).units ≤ (Binary64.ofInt n).units := by
  by_cases integers : a.asInt?.isSome ∧ b.asInt?.isSome
  · rw [collate_eq_compare first second integers] at low
    exact Binary64.units_ofInt_mono (Int.isLE_compare.mp low)
  · rw [collate_eq_compare_units first second integers] at low
    exact Int.isLE_compare.mp low

/-- Order passes from number to number, but not through a float from an integer to a smaller one. -/
theorem isLE_trans_iff (first : a.Denotes m) (second : b.Denotes n) (third : c.Denotes k)
    (low : (collate a b).isLE) (high : (collate b c).isLE) :
    (collate a c).isLE ↔
      ¬∃ i x j, a = .int i ∧ b = .float x ∧ c = .int j ∧ j.toInt < i.toInt := by
  by_cases integers : a.asInt?.isSome ∧ c.asInt?.isSome
  · obtain ⟨i, rfl⟩ := asInt?_isSome_iff.mp integers.1
    obtain ⟨j, rfl⟩ := asInt?_isSome_iff.mp integers.2
    cases b with
    | int l =>
      simp only [collate, Int.isLE_compare] at low high ⊢
      simpa using Int.le_trans low high
    | float x => simp [collate, Int.isLE_compare]
    | _ => exact second.elim
  · have order := Int.le_trans (units_le_of_isLE first second low) (units_le_of_isLE second third high)
    rw [collate_eq_compare_units first third integers, Int.isLE_compare]
    refine iff_of_true order ?_
    rintro ⟨i, x, j, rfl, _, rfl, _⟩
    exact integers ⟨rfl, rfl⟩

/-- Integers and floats that are integers compare as integers, but for an integer beside the float that it is
rounded to, which are equal. There are none of up to 53 bits, and only a float between two integers that both
are rounded to it can make them seem in order when they are not. -/
theorem collate_denoted (first : a.Denotes m) (second : b.Denotes n) (third : c.Denotes k) :
    (collate a b = compare m n ↔ ¬Blurred a b) ∧
      (a.collatesEqual b ↔ m = n ∨ Blurred a b) ∧
      (m.natAbs ≤ 2 * Binary64.exponentBit → n.natAbs ≤ 2 * Binary64.exponentBit → ¬Blurred a b) ∧
      ((collate a b).isLE → (collate b c).isLE →
        ((collate a c).isLE ↔
          ¬∃ i x j, a = .int i ∧ b = .float x ∧ c = .int j ∧ j.toInt < i.toInt)) := by
  refine ⟨⟨?_, collate_eq_of_not_blurred first second⟩, ?_, not_blurred_of_le first second,
    isLE_trans_iff first second third⟩
  · intro ordered blurred
    rw [collate_eq_of_blurred first second blurred, eq_comm, Int.compare_eq_eq] at ordered
    exact ne_of_blurred first second blurred ordered
  · rw [collatesEqual, beq_iff_eq]
    by_cases blurred : Blurred a b
    · simp [blurred, collate_eq_of_blurred first second blurred]
    · simp [blurred, collate_eq_of_not_blurred first second blurred]

/-- Two integers of 53 bits and the float between them keep their order. -/
theorem collate_denoted_small :
    let x : Value := .float (.ofInt 3)
    (collate (.int 2) x = compare 2 3 ∧ ¬(Value.int 2).collatesEqual x) ∧
      (collate (.int 2) (.int 4)).isLE := by
  intro x
  have float : x.Denotes 3 := ⟨by decide +kernel, by decide +kernel⟩
  obtain ⟨ordered, equal, small, chain⟩ :=
    collate_denoted (a := .int 2) (b := x) (c := .int 4) (m := 2) (n := 3) (k := 4) rfl float rfl
  have clear : ¬Blurred (.int 2) x := small (by decide) (by decide)
  have here : collate (.int 2) x = compare 2 3 := ordered.mpr clear
  refine ⟨⟨here, fun same => ?_⟩, ?_⟩
  · rcases equal.mp same with impossible | blurred
    · cases impossible
    · exact clear blurred
  · refine (chain (by rw [here]; rfl) ?_).mpr ?_
    · decide +kernel
    · rintro ⟨i, _, j, here, _, there, less⟩
      cases here
      cases there
      exact absurd less (by decide)

/-- The least integer that is no float equals the one before it as a float, which breaks the order. -/
theorem collate_denoted_rounded :
    let i : Value := .int 9007199254740993
    let x : Value := .float (.ofInt 9007199254740992)
    let j : Value := .int 9007199254740992
    (i.Denotes 9007199254740993 ∧ x.Denotes 9007199254740992 ∧ j.Denotes 9007199254740992) ∧
      (collate i x = .eq ∧ compare (9007199254740993 : Int) 9007199254740992 = .gt) ∧
      (collate i x).isLE ∧ (collate x j).isLE ∧ ¬(collate i j).isLE :=
  ⟨⟨rfl, ⟨by decide +kernel, by decide +kernel⟩, rfl⟩, ⟨by decide +kernel, by decide +kernel⟩,
    by decide +kernel, by decide +kernel, by decide +kernel⟩

end DocQuery.Value
