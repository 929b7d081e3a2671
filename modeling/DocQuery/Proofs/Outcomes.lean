import DocQuery.Search

/-! Computations that may fail: when a sequence of them succeeds, and what searching a list with a
test comes to when the test always has an answer. -/

namespace DocQuery

variable {ε α β : Type}

@[simp] theorem ok_bind (value : α) (next : α → Except ε β) :
    (Except.ok value >>= next) = next value := rfl

@[simp] theorem error_bind (failure : ε) (next : α → Except ε β) :
    (Except.error failure >>= next) = .error failure := rfl

@[simp] theorem pure_eq_ok (value : α) : (pure value : Except ε α) = .ok value := rfl

@[simp] theorem map_ok (change : α → β) (value : α) :
    (Except.ok value : Except ε α).map change = .ok (change value) := rfl

@[simp] theorem map_error (change : α → β) (failure : ε) :
    (Except.error failure : Except ε α).map change = .error failure := rfl

theorem map_bind {γ : Type} (first : Except ε α) (next : α → Except ε β) (change : β → γ) :
    (first >>= next).map change = first >>= fun value => (next value).map change := by
  cases first <;> rfl

theorem bind_eq_ok {first : Except ε α} {next : α → Except ε β} {result : β} :
    (first >>= next) = .ok result ↔ ∃ value, first = .ok value ∧ next value = .ok result := by
  cases first with
  | ok value => simp
  | error failure => simp

theorem map_eq_ok {first : Except ε α} {change : α → β} {result : β} :
    first.map change = .ok result ↔ ∃ value, first = .ok value ∧ change value = result := by
  cases first <;> simp

theorem map_eq_error {first : Except ε α} {change : α → β} {failure : ε} :
    first.map change = .error failure ↔ first = .error failure := by
  cases first <;> simp

/-- A sequence depends only on what it makes of the first outcome. -/
theorem bind_congr_map {first second : Except ε α} {change : α → β} {γ : Type}
    {next : α → Except ε γ} (same : first.map change = second.map change)
    (congr : ∀ a b, change a = change b → next a = next b) :
    (first >>= next) = (second >>= next) := by
  cases first with
  | error failure => cases second <;> cases same; rfl
  | ok a =>
    cases second with
    | error failure => cases same
    | ok b => exact congr a b (Except.ok.inj same)

/-- Asking whether a test holds is the test. -/
theorem bind_answer (test : Except ε Bool) :
    (test >>= fun held => if held then Except.ok true else Except.ok false) = test := by
  rcases test with failure | _ | _ <;> rfl

theorem mapM_eq_self {change : α → Except ε α} {items : List α}
    (each : ∀ item ∈ items, change item = .ok item) : items.mapM change = .ok items := by
  induction items with
  | nil => rfl
  | cons item rest ih =>
    rw [List.mapM_cons, each item (by simp), ih fun other among => each other (by simp [among])]
    rfl

/-- What each change keeps, changing all items keeps. -/
theorem map_of_mapM {γ : Type} {change : α → Except ε β} {before : α → γ} {after : β → γ}
    (kept : ∀ item result, change item = .ok result → after result = before item)
    {items : List α} {results : List β} (changed : items.mapM change = .ok results) :
    results.map after = items.map before := by
  induction items generalizing results with
  | nil => cases changed; rfl
  | cons item rest ih =>
    rw [List.mapM_cons] at changed
    obtain ⟨first, own, further⟩ := bind_eq_ok.mp changed
    obtain ⟨others, remaining, made⟩ := bind_eq_ok.mp further
    cases made
    rw [List.map_cons, List.map_cons, kept item first own, ih remaining]

/-- What changing all items gives, changing one of them gives. -/
theorem exists_of_mem_mapM {change : α → Except ε β} {items : List α} {results : List β} {result : β}
    (changed : items.mapM change = .ok results) (among : result ∈ results) :
    ∃ item ∈ items, change item = .ok result := by
  induction items generalizing results with
  | nil => cases changed; cases among
  | cons item rest ih =>
    rw [List.mapM_cons] at changed
    obtain ⟨first, own, further⟩ := bind_eq_ok.mp changed
    obtain ⟨others, remaining, made⟩ := bind_eq_ok.mp further
    cases made
    rcases List.mem_cons.mp among with rfl | later
    · exact ⟨item, .head _, own⟩
    · obtain ⟨source, there, own⟩ := ih remaining later
      exact ⟨source, .tail _ there, own⟩

/-- Changing all items fails exactly if changing one of them does. -/
theorem mapM_fails_iff {change : α → Except ε β} {items : List α} :
    (∃ failure, items.mapM change = .error failure) ↔
      ∃ item ∈ items, ∃ failure, change item = .error failure := by
  induction items with
  | nil => simp
  | cons item rest ih =>
    simp only [List.mapM_cons, List.mem_cons, exists_eq_or_imp, ← ih]
    cases change item with
    | error failure => simp
    | ok first => cases rest.mapM change <;> simp

theorem forM_eq_ok {test : α → Except ε Unit} {items : List α} :
    forM items test = .ok () ↔ ∀ item ∈ items, test item = .ok () := by
  induction items with
  | nil => simp
  | cons item rest ih =>
    rw [List.forM_cons, List.forall_mem_cons, ← ih]
    cases test item <;> simp

/-- What each step of a fold keeps, the fold keeps. -/
theorem foldlM_keeps {Holds : β → Prop} {advance : β → α → Except ε β}
    (kept : ∀ state item next, Holds state → advance state item = .ok next → Holds next)
    {items : List α} {first last : β} (start : Holds first)
    (folded : items.foldlM advance first = .ok last) : Holds last := by
  induction items generalizing first with
  | nil =>
    cases folded
    exact start
  | cons item rest ih =>
    rw [List.foldlM_cons] at folded
    obtain ⟨next, advanced, remaining⟩ := bind_eq_ok.mp folded
    exact ih (kept first item next start advanced) remaining

theorem anyItem_map (change : β → α) (test : α → Except Error Bool) (items : List β) :
    anyItem test (items.map change) = anyItem (fun item => test (change item)) items := by
  induction items with
  | nil => rfl
  | cons item rest ih => simp only [List.map_cons, anyItem, ih]

theorem everyItem_map (change : β → α) (test : α → Except Error Bool) (items : List β) :
    everyItem test (items.map change) = everyItem (fun item => test (change item)) items := by
  induction items with
  | nil => rfl
  | cons item rest ih => simp only [List.map_cons, everyItem, ih]

theorem anyItem_answers {test : α → Except Error Bool} (answers : ∀ item, ∃ held, test item = .ok held)
    (items : List α) : ∃ held, anyItem test items = .ok held := by
  induction items with
  | nil => exact ⟨false, rfl⟩
  | cons item rest ih =>
    obtain ⟨held, first⟩ := answers item
    cases held with
    | true => exact ⟨true, by simp [anyItem, first]⟩
    | false => simpa [anyItem, first] using ih

theorem everyItem_answers {test : α → Except Error Bool}
    (answers : ∀ item, ∃ held, test item = .ok held) (items : List α) :
    ∃ held, everyItem test items = .ok held := by
  induction items with
  | nil => exact ⟨true, rfl⟩
  | cons item rest ih =>
    obtain ⟨held, first⟩ := answers item
    cases held with
    | true => simpa [everyItem, first] using ih
    | false => exact ⟨false, by simp [everyItem, first]⟩

namespace QuantifierKind

theorem decide_map (kind : QuantifierKind) (change : β → α) (test : α → Except Error Bool)
    (items : List β) :
    kind.decide test (items.map change) = kind.decide (fun item => test (change item)) items := by
  cases kind with
  | any => exact anyItem_map change test items
  | all =>
    cases items with
    | nil => rfl
    | cons item rest => exact everyItem_map change test (item :: rest)

theorem decide_answers (kind : QuantifierKind) {test : α → Except Error Bool}
    (answers : ∀ item, ∃ held, test item = .ok held) (items : List α) :
    ∃ held, kind.decide test items = .ok held := by
  cases kind with
  | any => exact anyItem_answers answers items
  | all =>
    cases items with
    | nil => exact ⟨false, rfl⟩
    | cons item rest => exact everyItem_answers answers (item :: rest)

end QuantifierKind

theorem keepItems_map (change : β → α) (test : α → Except Error Bool) (items : List β) :
    keepItems test (items.map change) =
      (keepItems (fun item => test (change item)) items).map (List.map change) := by
  induction items with
  | nil => rfl
  | cons item rest ih =>
    simp only [List.map_cons, keepItems, ih]
    rcases test (change item) with failure | _ | _
    · rfl
    · rfl
    · cases keepItems (fun item => test (change item)) rest <;> rfl

/-- Keeping items by a test that always has an answer is filtering. -/
theorem keepItems_of_answers {test : α → Except Error Bool} {keep : α → Bool} {items : List α}
    (answers : ∀ item ∈ items, test item = .ok (keep item)) :
    keepItems test items = .ok (items.filter keep) := by
  induction items with
  | nil => rfl
  | cons item rest ih =>
    have tail := ih fun other member => answers other (by simp [member])
    cases held : keep item <;> simp [keepItems, answers item (by simp), tail, held]

theorem keepItems_answers {test : α → Except Error Bool} {items : List α}
    (answers : ∀ item ∈ items, ∃ held, test item = .ok held) :
    ∃ kept, keepItems test items = .ok kept := by
  induction items with
  | nil => exact ⟨[], rfl⟩
  | cons item rest ih =>
    obtain ⟨⟨held, first⟩, others⟩ := List.forall_mem_cons.mp answers
    obtain ⟨kept, tail⟩ := ih others
    cases held <;> simp [keepItems, first, tail]

theorem keepItems_of_all {test : α → Except Error Bool} {items : List α}
    (passes : ∀ item ∈ items, test item = .ok true) : keepItems test items = .ok items := by
  have kept : keepItems test items = .ok (items.filter fun _ => true) := keepItems_of_answers passes
  rwa [List.filter_eq_self.mpr fun _ _ => rfl] at kept

/-- Items that a test turns down at once might as well be left out before. -/
theorem keepItems_filter {test other : α → Except Error Bool} {keep : α → Bool} {items : List α}
    (guarded : ∀ item ∈ items, test item = if keep item then other item else .ok false) :
    keepItems test items = keepItems other (items.filter keep) := by
  induction items with
  | nil => rfl
  | cons item rest ih =>
    have tail := ih fun other member => guarded other (by simp [member])
    have first := guarded item (by simp)
    cases kept : keep item <;> simp [keepItems, first, tail, kept]

/-- Keeping items by two tests, of which the second always has an answer, is filtering what the first
keeps. -/
theorem keepItems_both {first both : α → Except Error Bool} {keep : α → Bool} {items : List α}
    (joined : ∀ item ∈ items, both item =
      first item >>= fun held => if held then .ok (keep item) else .ok false) :
    keepItems both items = (keepItems first items).map (·.filter keep) := by
  induction items with
  | nil => rfl
  | cons item rest ih =>
    have tail := ih fun other member => joined other (by simp [member])
    simp only [keepItems, joined item (by simp), tail]
    rcases first item with failure | _ | _
    · rfl
    · rfl
    · cases kept : keep item <;> rcases keepItems first rest with failure | others <;> simp [kept]

end DocQuery
