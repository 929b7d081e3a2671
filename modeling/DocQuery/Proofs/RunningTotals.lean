import DocQuery.WordRange

/-! Totals of weighed items. Items are added up one by one, and every total on the way has to fit in 64 bits.
Items that fit together stay within 64 bits in some order, and they do in every order exactly if all that
is positive and all that is negative fit by themselves. -/

namespace DocQuery

section Weights

variable {α : Type} (weight : α → Int)

/-- What items weigh together. -/
def totalWeight (items : List α) : Int := items.foldr (weight · + ·) 0

/-- Every total on the way from a start through items fits in 64 bits. -/
def StaysWithin (start : Int) (items : List α) : Prop :=
  ∀ part, part <+: items → fitsInt64 (start + totalWeight weight part)

@[simp] theorem totalWeight_nil : totalWeight weight [] = 0 := rfl

@[simp] theorem totalWeight_cons (item : α) (rest : List α) :
    totalWeight weight (item :: rest) = weight item + totalWeight weight rest := rfl

variable {weight} {start : Int} {items others : List α}

theorem totalWeight_perm (same : items.Perm others) : totalWeight weight items = totalWeight weight others :=
  same.foldr_eq' (fun one _ other _ rest => Int.add_left_comm (weight other) (weight one) rest) 0

theorem StaysWithin.fits_start (within : StaysWithin weight start items) : fitsInt64 start := by
  simpa using within [] List.nil_prefix

theorem StaysWithin.fits_total (within : StaysWithin weight start items) :
    fitsInt64 (start + totalWeight weight items) := within items (List.prefix_refl items)

/-- Items that do not fit together leave the range in every order. -/
theorem not_staysWithin_of_perm (outside : ¬fitsInt64 (totalWeight weight items)) (order : items.Perm others) :
    ¬StaysWithin weight 0 others := by
  intro within
  have total := within.fits_total
  rw [Int.zero_add, ← totalWeight_perm order] at total
  exact outside total

theorem staysWithin_nil : StaysWithin weight start [] ↔ fitsInt64 start := by
  refine ⟨StaysWithin.fits_start, fun fits part first => ?_⟩
  rw [List.prefix_nil.mp first]
  simpa using fits

theorem staysWithin_cons {item : α} {rest : List α} :
    StaysWithin weight start (item :: rest) ↔
      fitsInt64 start ∧ StaysWithin weight (start + weight item) rest := by
  constructor
  · intro within
    refine ⟨within.fits_start, fun part first => ?_⟩
    have longer := within (item :: part) (List.cons_prefix_cons.mpr ⟨rfl, first⟩)
    rwa [totalWeight_cons, ← Int.add_assoc] at longer
  · rintro ⟨fits, within⟩ part first
    obtain rfl | ⟨later, rfl, begins⟩ := List.prefix_cons_iff.mp first
    · simpa using fits
    · rw [totalWeight_cons, ← Int.add_assoc]
      exact within later begins

theorem totalWeight_filter_cons (selected : α → Bool) (item : α) (rest : List α) :
    totalWeight weight ((item :: rest).filter selected) =
      (if selected item then weight item else 0) + totalWeight weight (rest.filter selected) := by
  rw [List.filter_cons]
  split <;> simp

/-- No part of items weighs more than all positive weights, or less than all negative ones. -/
theorem totalWeight_sublist (weight : α → Int) {part : List α} (within : part.Sublist items) :
    totalWeight weight (items.filter (weight · < 0)) ≤ totalWeight weight part ∧
      totalWeight weight part ≤ totalWeight weight (items.filter (0 < weight ·)) := by
  induction within with
  | slnil => simp
  | cons item _ ih | cons_cons item _ ih =>
    obtain ⟨low, high⟩ := ih
    simp only [totalWeight_filter_cons, totalWeight_cons, decide_eq_true_eq]
    constructor <;> split <;> omega

theorem staysWithin_of_halves (negative : fitsInt64 (totalWeight weight (items.filter (weight · < 0))))
    (positive : fitsInt64 (totalWeight weight (items.filter (0 < weight ·)))) :
    StaysWithin weight 0 items := by
  intro part first
  obtain ⟨low, high⟩ := totalWeight_sublist weight first.sublist
  rw [Int.zero_add]
  exact fitsInt64_of_between negative positive low high

/-- What is selected can come first, and then its total is one on the way. -/
theorem fits_of_every_order (every : ∀ others, items.Perm others → StaysWithin weight 0 others)
    (selected : α → Bool) : fitsInt64 (totalWeight weight (items.filter selected)) := by
  have order : (items.filter selected ++ items.filter (!selected ·)).Perm items :=
    List.filter_append_perm selected items
  have first := every _ order.symm (items.filter selected) (List.prefix_append ..)
  rwa [Int.zero_add] at first

/-- Every order stays within 64 bits exactly if all that is negative and all that is positive fit. -/
theorem every_order_within_iff :
    (∀ others, items.Perm others → StaysWithin weight 0 others) ↔
      fitsInt64 (totalWeight weight (items.filter (weight · < 0))) ∧
        fitsInt64 (totalWeight weight (items.filter (0 < weight ·))) := by
  constructor
  · intro every
    exact ⟨fits_of_every_order every _, fits_of_every_order every _⟩
  · rintro ⟨negative, positive⟩ others order
    rw [totalWeight_perm (order.filter _)] at negative positive
    exact staysWithin_of_halves negative positive

theorem le_totalWeight (all : ∀ item ∈ items, 0 < weight item) {item : α} (among : item ∈ items) :
    weight item ≤ totalWeight weight items := by
  have alone := (totalWeight_sublist weight (List.singleton_sublist.mpr among)).2
  rw [List.filter_eq_self.mpr fun other there => decide_eq_true (all other there)] at alone
  simpa using alone

theorem totalWeight_le (all : ∀ item ∈ items, weight item < 0) {item : α} (among : item ∈ items) :
    totalWeight weight items ≤ weight item := by
  have alone := (totalWeight_sublist weight (List.singleton_sublist.mpr among)).1
  rw [List.filter_eq_self.mpr fun other there => decide_eq_true (all other there)] at alone
  simpa using alone

/-- Some item can come next if all items together fit. -/
theorem exists_next_within (nonempty : items ≠ []) (each : ∀ item ∈ items, fitsInt64 (weight item))
    (fits : fitsInt64 start) (total : fitsInt64 (start + totalWeight weight items)) :
    ∃ item ∈ items, fitsInt64 (start + weight item) := by
  obtain ⟨first, member⟩ := List.exists_mem_of_ne_nil items nonempty
  by_cases side : 0 ≤ start
  · by_cases back : ∃ item ∈ items, weight item ≤ 0
    · obtain ⟨item, among, negative⟩ := back
      exact ⟨item, among, fitsInt64_of_between (each item among) fits (by omega) (by omega)⟩
    · have positive : ∀ item ∈ items, 0 < weight item := by simpa using back
      have bound := le_totalWeight positive member
      have above := positive first member
      exact ⟨first, member, fitsInt64_of_between fits total (by omega) (by omega)⟩
  · by_cases forth : ∃ item ∈ items, 0 ≤ weight item
    · obtain ⟨item, among, positive⟩ := forth
      exact ⟨item, among, fitsInt64_of_between fits (each item among) (by omega) (by omega)⟩
    · have negative : ∀ item ∈ items, weight item < 0 := by simpa using forth
      have bound := totalWeight_le negative member
      have below := negative first member
      exact ⟨first, member, fitsInt64_of_between total fits (by omega) (by omega)⟩

/-- Items that fit together can be put in an order in which every total on the way fits. -/
theorem exists_order_within (each : ∀ item ∈ items, fitsInt64 (weight item)) (fits : fitsInt64 start)
    (total : fitsInt64 (start + totalWeight weight items)) :
    ∃ others, items.Perm others ∧ StaysWithin weight start others := by
  induction count : items.length generalizing items start with
  | zero =>
    obtain rfl := List.length_eq_zero_iff.mp count
    exact ⟨[], .refl [], staysWithin_nil.mpr fits⟩
  | succ length ih =>
    have nonempty : items ≠ [] := by
      rintro rfl
      cases count
    obtain ⟨item, among, next⟩ := exists_next_within nonempty each fits total
    obtain ⟨before, after, rfl⟩ := List.append_of_mem among
    have order : (before ++ item :: after).Perm (item :: (before ++ after)) := List.perm_middle
    rw [totalWeight_perm order, totalWeight_cons, ← Int.add_assoc] at total
    obtain ⟨others, rest, within⟩ := ih
      (fun other there => each other (order.mem_iff.mpr (List.mem_cons_of_mem item there))) next total
      (by simpa [order.length_eq] using count)
    exact ⟨item :: others, order.trans (rest.cons item), staysWithin_cons.mpr ⟨fits, within⟩⟩

end Weights

end DocQuery
