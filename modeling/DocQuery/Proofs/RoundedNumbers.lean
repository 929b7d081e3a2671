import DocQuery.Binary64.Basic
import DocQuery.WordRange
import Mathlib.Order.Monotone.Basic

/-!
Rounding to binary64. The magnitudes lie in the order of their bits, the number nearest to a
magnitude is itself, and rounding keeps order. So integers far from zero can meet in one number,
but none passes another, and those of up to 53 bits stay as they are.
-/

namespace DocQuery.Binary64

/-- The multiple of `2 ^ -1074` that the bits of a magnitude stand for. -/
def unitsOf (bits : Nat) : Nat :=
  if bits / exponentBit = 0 then bits % exponentBit
  else (exponentBit + bits % exponentBit) * Nat.pow 2 (bits / exponentBit - 1)

theorem magnitudeUnits_eq (x : Binary64) : x.magnitudeUnits = unitsOf x.magnitudeBits := by
  simp only [magnitudeUnits, significandAndScale, unitsOf]
  split <;> simp

/-- A significand fills its 53 bits, but on the lowest scale; or it is the next scale's lowest. -/
def IsSignificand (scale significand : Nat) : Prop :=
  (scale = 0 ∨ exponentBit ≤ significand) ∧ significand ≤ 2 * exponentBit

theorem unitsOf_scaled {scale significand : Nat} (fits : IsSignificand scale significand) :
    unitsOf (scale * exponentBit + significand) = significand * Nat.pow 2 scale := by
  obtain ⟨full, bounded⟩ := fits
  have exponent : (scale * exponentBit + significand) / exponentBit
      = scale + significand / exponentBit := by
    rw [Nat.mul_comm, Nat.mul_add_div (by decide)]
  have fraction : (scale * exponentBit + significand) % exponentBit = significand % exponentBit := by
    rw [Nat.mul_comm, Nat.mul_add_mod]
  simp only [unitsOf, exponent, fraction, Nat.pow_eq]
  by_cases small : significand < exponentBit
  · have lowest : scale = 0 := full.resolve_right (Nat.not_le.mpr small)
    simp [lowest, Nat.div_eq_of_lt small, Nat.mod_eq_of_lt small]
  · by_cases carried : significand = 2 * exponentBit
    · have shift : scale + 2 - 1 = scale + 1 := rfl
      simp only [carried, Nat.mul_div_cancel 2 (by decide : 0 < exponentBit), Nat.mul_mod_left, shift]
      rw [if_neg (by omega), Nat.add_zero, Nat.pow_succ', ← Nat.mul_assoc, Nat.mul_comm exponentBit]
    · obtain ⟨quotient, remainder⟩ : significand / exponentBit = 1
          ∧ exponentBit + significand % exponentBit = significand := by
        simp only [exponentBit] at *
        omega
      rw [quotient, remainder, if_neg (by omega), Nat.add_sub_cancel]

theorem exists_scaled (bits : Nat) : ∃ scale significand,
    bits = scale * exponentBit + significand ∧ (scale = 0 ∨ exponentBit ≤ significand)
      ∧ significand < 2 * exponentBit := by
  refine ⟨bits / exponentBit - 1, bits - (bits / exponentBit - 1) * exponentBit, ?_⟩
  simp only [exponentBit]
  omega

theorem strictMono_unitsOf : StrictMono unitsOf := by
  refine strictMono_nat_of_lt_succ fun bits => ?_
  obtain ⟨scale, significand, rfl, full, bounded⟩ := exists_scaled bits
  rw [Nat.add_assoc, unitsOf_scaled ⟨full, Nat.le_of_lt bounded⟩,
    unitsOf_scaled ⟨full.imp_right Nat.le_succ_of_le, bounded⟩]
  exact Nat.mul_lt_mul_of_pos_right (Nat.lt_succ_self _) (Nat.two_pow_pos scale)

/-- Every multiple of a power of two with at most 53 bits is some magnitude. -/
theorem exists_unitsOf_eq {significand : Nat} (bounded : significand ≤ 2 * exponentBit) (scale : Nat) :
    ∃ bits ≤ scale * exponentBit + significand, unitsOf bits = significand * Nat.pow 2 scale := by
  induction scale generalizing significand with
  | zero => exact ⟨_, Nat.le_refl _, unitsOf_scaled ⟨.inl rfl, bounded⟩⟩
  | succ scale ih =>
    by_cases full : exponentBit ≤ significand
    · exact ⟨_, Nat.le_refl _, unitsOf_scaled ⟨.inr full, bounded⟩⟩
    · have wider : significand * 2 ≤ 2 * exponentBit := by omega
      obtain ⟨bits, low, same⟩ := ih wider
      refine ⟨bits, ?_, ?_⟩
      · rw [Nat.succ_mul]
        omega
      · rw [same, Nat.mul_assoc, Nat.pow_eq, Nat.pow_eq, Nat.pow_succ']

theorem divideToEven_le (numerator denominator : Nat) :
    divideToEven numerator denominator ≤ numerator / denominator + 1 := by
  simp only [divideToEven]
  split <;> omega

theorem le_divideToEven (numerator denominator : Nat) :
    numerator / denominator ≤ divideToEven numerator denominator := by
  simp only [divideToEven]
  split <;> omega

theorem divideToEven_mono {low high : Nat} (ascending : low ≤ high) (denominator : Nat) :
    divideToEven low denominator ≤ divideToEven high denominator := by
  rcases Nat.lt_or_eq_of_le (Nat.div_le_div_right (c := denominator) ascending) with less | same
  · calc divideToEven low denominator ≤ low / denominator + 1 := divideToEven_le ..
      _ ≤ high / denominator := less
      _ ≤ divideToEven high denominator := le_divideToEven ..
  · have remainders : low % denominator ≤ high % denominator := by
      have first := Nat.div_add_mod low denominator
      have second := Nat.div_add_mod high denominator
      rw [same] at first
      omega
    simp only [divideToEven, same]
    split <;> split <;> omega

theorem divideToEven_mul (quotient : Nat) {denominator : Nat} (positive : 0 < denominator) :
    divideToEven (quotient * denominator) denominator = quotient := by
  simp [divideToEven, Nat.mul_div_cancel _ positive, Nat.ne_of_gt positive]

/-- The bits of the magnitude nearest to a multiple of `2 ^ -1074`, were there no infinity. -/
def nearestBits (magnitude : Nat) : Nat :=
  (magnitude.log2 - 52) * exponentBit + divideToEven magnitude (Nat.pow 2 (magnitude.log2 - 52))

theorem isSignificand_nearest (magnitude : Nat) : IsSignificand (magnitude.log2 - 52)
    (divideToEven magnitude (Nat.pow 2 (magnitude.log2 - 52))) := by
  simp only [IsSignificand, Nat.pow_eq]
  constructor
  · by_cases lowest : magnitude.log2 ≤ 52
    · exact .inl (Nat.sub_eq_zero_of_le lowest)
    · right
      have positive : magnitude ≠ 0 := fun zero => lowest (by simp [zero])
      refine Nat.le_trans ?_ (le_divideToEven ..)
      rw [Nat.le_div_iff_mul_le (Nat.two_pow_pos _)]
      calc exponentBit * 2 ^ (magnitude.log2 - 52) = 2 ^ (52 + (magnitude.log2 - 52)) :=
            (Nat.pow_add 2 52 _).symm
        _ = 2 ^ magnitude.log2 := by rw [Nat.add_sub_of_le (by omega)]
        _ ≤ magnitude := Nat.log2_self_le positive
  · refine Nat.le_trans (divideToEven_le ..) ?_
    rw [Nat.succ_le_iff, Nat.div_lt_iff_lt_mul (Nat.two_pow_pos _)]
    calc magnitude < 2 ^ (magnitude.log2 + 1) := Nat.lt_log2_self
      _ ≤ 2 ^ (53 + (magnitude.log2 - 52)) := Nat.pow_le_pow_right (by omega) (by omega)
      _ = 2 * exponentBit * 2 ^ (magnitude.log2 - 52) := Nat.pow_add ..

/-- A magnitude is nearest to itself. -/
theorem nearestBits_unitsOf (bits : Nat) : nearestBits (unitsOf bits) = bits := by
  obtain ⟨scale, significand, rfl, full, bounded⟩ := exists_scaled bits
  have kept : (significand * 2 ^ scale).log2 - 52 = scale := by
    by_cases zero : significand = 0
    · simp_all [exponentBit]
    · have positive : significand * 2 ^ scale ≠ 0 :=
        Nat.mul_ne_zero zero (Nat.ne_of_gt (Nat.two_pow_pos scale))
      have upper : (significand * 2 ^ scale).log2 < 53 + scale := by
        rw [Nat.log2_lt positive, Nat.pow_add]
        exact Nat.mul_lt_mul_of_pos_right bounded (Nat.two_pow_pos scale)
      rcases full with rfl | full
      · omega
      · have lower : 52 + scale ≤ (significand * 2 ^ scale).log2 := by
          rw [Nat.le_log2 positive, Nat.pow_add]
          exact Nat.mul_le_mul_right _ full
        omega
  simp only [unitsOf_scaled ⟨full, Nat.le_of_lt bounded⟩, nearestBits, Nat.pow_eq, kept,
    divideToEven_mul _ (Nat.two_pow_pos scale)]

theorem nearestBits_mono : Monotone nearestBits := by
  intro low high ascending
  rcases Nat.eq_zero_or_pos low with rfl | positive
  · exact Nat.zero_le _
  have logs : low.log2 ≤ high.log2 := by
    rw [Nat.le_log2 (by omega)]
    exact (Nat.log2_self_le (by omega)).trans ascending
  simp only [nearestBits]
  rcases Nat.lt_or_eq_of_le (Nat.sub_le_sub_right logs 52) with apart | same
  · -- A scale ends where the next one starts.
    have below := (isSignificand_nearest low).2
    have above := (isSignificand_nearest high).1.resolve_left (by omega)
    have steps := Nat.mul_le_mul_right exponentBit (Nat.succ_le_of_lt apart)
    rw [Nat.succ_mul] at steps
    omega
  · rw [same]
    exact Nat.add_le_add_left (divideToEven_mono ascending _) _

theorem toNat_bits_ofMagnitude (negative : Bool) (magnitude : Nat) :
    (ofMagnitude negative magnitude).bits.toNat =
      (if negative then signBit else 0) + min (nearestBits magnitude) infinityBits := by
  have bounded := Nat.min_le_right (nearestBits magnitude) infinityBits
  have sign : (if negative then signBit else 0) ≤ signBit := by
    cases negative <;> simp
  rw [ofMagnitude, ofBits, UInt64.toNat_ofNat']
  refine Nat.mod_eq_of_lt (Nat.lt_of_le_of_lt (Nat.add_le_add sign bounded) ?_)
  decide

theorem magnitudeBits_ofMagnitude (negative : Bool) (magnitude : Nat) :
    (ofMagnitude negative magnitude).magnitudeBits = min (nearestBits magnitude) infinityBits := by
  have bounded : min (nearestBits magnitude) infinityBits < signBit :=
    Nat.lt_of_le_of_lt (Nat.min_le_right ..) (by decide)
  rw [magnitudeBits, toNat_bits_ofMagnitude]
  cases negative <;> simp [Nat.mod_eq_of_lt bounded]

theorem isNegative_ofMagnitude (negative : Bool) (magnitude : Nat) :
    (ofMagnitude negative magnitude).isNegative = negative := by
  have bounded : min (nearestBits magnitude) infinityBits < signBit :=
    Nat.lt_of_le_of_lt (Nat.min_le_right ..) (by decide)
  rw [isNegative, toNat_bits_ofMagnitude]
  cases negative <;> simp [Nat.not_le_of_lt bounded]

theorem isNaN_ofMagnitude (negative : Bool) (magnitude : Nat) :
    (ofMagnitude negative magnitude).isNaN = false := by
  rw [isNaN, magnitudeBits_ofMagnitude]
  exact decide_eq_false (Nat.not_lt.mpr (Nat.min_le_right ..))

theorem isNaN_of_isFinite {x : Binary64} (finite : x.isFinite) : x.isNaN = false := by
  simp only [isFinite, decide_eq_true_eq] at finite
  exact decide_eq_false (Nat.lt_asymm finite)

/-- The magnitude that a multiple of `2 ^ -1074` is rounded to. -/
def nearestUnits (magnitude : Nat) : Nat := unitsOf (min (nearestBits magnitude) infinityBits)

theorem nearestUnits_mono : Monotone nearestUnits := fun _ _ ascending =>
  strictMono_unitsOf.monotone <| Nat.le_min.mpr
    ⟨(Nat.min_le_left ..).trans (nearestBits_mono ascending), Nat.min_le_right ..⟩

theorem nearestUnits_unitsOf {bits : Nat} (bounded : bits ≤ infinityBits) :
    nearestUnits (unitsOf bits) = unitsOf bits := by
  rw [nearestUnits, nearestBits_unitsOf, Nat.min_eq_left bounded]

theorem units_ofInt (i : Int) : (ofInt i).units =
    if i < 0 then -(nearestUnits (i.natAbs * one) : Int) else nearestUnits (i.natAbs * one) := by
  simp [units, magnitudeUnits_eq, ofInt, magnitudeBits_ofMagnitude, isNegative_ofMagnitude,
    nearestUnits]

/-- Rounding keeps the order of integers. -/
theorem units_ofInt_mono {i j : Int} (ascending : i ≤ j) : (ofInt i).units ≤ (ofInt j).units := by
  rw [units_ofInt, units_ofInt]
  split <;> split
  case isTrue.isTrue =>
    exact Int.neg_le_neg (Int.ofNat_le.mpr (nearestUnits_mono (Nat.mul_le_mul_right one (by omega))))
  case isTrue.isFalse => omega
  case isFalse.isTrue => omega
  case isFalse.isFalse =>
    exact Int.ofNat_le.mpr (nearestUnits_mono (Nat.mul_le_mul_right one (by omega)))

/-- An integer whose magnitude some bits stand for is not changed by rounding. -/
theorem units_ofInt_of_unitsOf {i : Int} {bits : Nat} (bounded : bits ≤ infinityBits)
    (exact : unitsOf bits = i.natAbs * one) : (ofInt i).units = i * one := by
  rw [units_ofInt, ← exact, nearestUnits_unitsOf bounded, exact, Int.natCast_mul]
  split
  case isTrue negative => rw [← Int.neg_mul, Int.ofNat_natAbs_of_nonpos (by omega), Int.neg_neg]
  case isFalse positive => rw [Int.natAbs_of_nonneg (by omega)]

theorem units_ofInt_of_units_eq {x : Binary64} {n : Int} (finite : x.isFinite)
    (exact : x.units = n * one) : (ofInt n).units = n * one := by
  have bounded : x.magnitudeBits < infinityBits := by simpa [isFinite] using finite
  refine units_ofInt_of_unitsOf (Nat.le_of_lt bounded) ?_
  have magnitude : x.units.natAbs = x.magnitudeUnits := by
    rw [units]
    split <;> simp
  rw [← magnitudeUnits_eq, ← magnitude, exact, Int.natAbs_mul, Int.natAbs_natCast]

/-- One is a power of two. It is not named here, for it is too large to be computed with. -/
theorem exists_one_eq : ∃ scale ≤ 1074, one = Nat.pow 2 scale :=
  ⟨1074, Nat.le_refl _, by unfold one; rfl⟩

theorem mul_one_inj {m n : Int} : m * one = n * one ↔ m = n := by
  obtain ⟨scale, _, unit⟩ := exists_one_eq
  refine Int.mul_eq_mul_right_iff (Int.ofNat_ne_zero.mpr ?_)
  exact unit ▸ Nat.ne_of_gt (Nat.two_pow_pos scale)

/-- Integers of up to 53 bits are numbers. -/
theorem units_ofInt_of_le {i : Int} (small : i.natAbs ≤ 2 * exponentBit) :
    (ofInt i).units = i * one := by
  obtain ⟨scale, low, unit⟩ := exists_one_eq
  obtain ⟨bits, bounded, same⟩ := exists_unitsOf_eq small scale
  refine units_ofInt_of_unitsOf (Nat.le_trans bounded ?_) (by rw [same, unit])
  simp only [infinityBits, exponentBit] at small ⊢
  omega

theorem isFinite_ofInt {i : Int} (small : i.natAbs < natBound64) : (ofInt i).isFinite = true := by
  obtain ⟨scale, low, unit⟩ := exists_one_eq
  obtain ⟨bits, bounded, same⟩ := exists_unitsOf_eq (Nat.le_refl (2 * exponentBit)) (11 + scale)
  have below : i.natAbs * one ≤ unitsOf bits := by
    rw [same, unit, Nat.pow_eq, Nat.pow_eq, Nat.pow_add, ← Nat.mul_assoc]
    refine Nat.mul_le_mul_right _ (Nat.le_of_lt ?_)
    simpa only [natBound64, exponentBit] using small
  have nearest : nearestBits (i.natAbs * one) ≤ bits :=
    nearestBits_unitsOf bits ▸ nearestBits_mono below
  have finite : bits < infinityBits := by
    simp only [infinityBits, exponentBit] at bounded ⊢
    omega
  rw [isFinite, ofInt, magnitudeBits_ofMagnitude, decide_eq_true_eq]
  exact Nat.lt_of_le_of_lt ((Nat.min_le_left ..).trans nearest) finite

end DocQuery.Binary64
