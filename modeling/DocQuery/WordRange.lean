/-!
The integers that machine words hold. Counts and integers of documents are kept exactly within these
ranges.
-/

namespace DocQuery

/-- The least integer of 64 bits with a sign. -/
def leastInt64 : Int := -0x8000000000000000

/-- Whether an integer fits in 64 bits with a sign. -/
def fitsInt64 (i : Int) : Bool := decide (leastInt64 ≤ i) && decide (i < -leastInt64)

theorem fitsInt64_iff {i : Int} : fitsInt64 i = true ↔ leastInt64 ≤ i ∧ i < -leastInt64 := by
  simp only [fitsInt64, Bool.and_eq_true, decide_eq_true_eq]

theorem fitsInt64_of_between {low i high : Int} (least : fitsInt64 low) (greatest : fitsInt64 high)
    (above : low ≤ i) (below : i ≤ high) : fitsInt64 i := by
  rw [fitsInt64_iff] at least greatest ⊢
  omega

/-- The natural numbers of 64 bits lie below. -/
def natBound64 : Nat := 0x10000000000000000

theorem toNat_lt_natBound64 (word : UInt64) : word.toNat < natBound64 := word.toNat_lt

theorem toNat_ofNat_of_lt {count : Nat} (bounded : count < natBound64) :
    (UInt64.ofNat count).toNat = count :=
  UInt64.toNat_ofNat_of_lt' bounded

/-- The natural numbers of 32 bits lie below. -/
def natBound32 : Nat := 0x100000000

end DocQuery
