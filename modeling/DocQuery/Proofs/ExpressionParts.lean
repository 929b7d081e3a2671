import DocQuery.Proofs.FoldedExpressions
import Mathlib.Data.List.Basic

/-! What holds of all parts of an expression. Folding brings in no parts but literals: every other part
of what it makes is what it has made of a part of the same form. -/

namespace DocQuery.Expression

variable {expression folded part : Expression}

theorem PartOf.whole_or_below (inside : PartOf expression part) :
    part = expression ∨ ∃ child ∈ expression.children, PartOf child part := by
  induction inside with
  | whole => exact .inl rfl
  | child _ among ih =>
    rcases ih with rfl | ⟨first, there, inside⟩
    · exact .inr ⟨_, among, .whole⟩
    · exact .inr ⟨first, there, inside.child among⟩

def Everywhere (Holds : Expression → Prop) (expression : Expression) : Prop :=
  ∀ part, PartOf expression part → Holds part

theorem everywhere_iff {Holds : Expression → Prop} :
    expression.Everywhere Holds ↔
      Holds expression ∧ ∀ child ∈ expression.children, child.Everywhere Holds := by
  constructor
  · intro everywhere
    exact ⟨everywhere expression .whole,
      fun child among part inside => everywhere part ((PartOf.whole.child among).trans inside)⟩
  · rintro ⟨here, below⟩ part inside
    rcases inside.whole_or_below with rfl | ⟨child, among, inside⟩
    · exact here
    · exact below child among part inside

theorem Everywhere.child {Holds : Expression → Prop} {child : Expression}
    (everywhere : expression.Everywhere Holds) (among : child ∈ expression.children) :
    child.Everywhere Holds :=
  (everywhere_iff.mp everywhere).2 child among

theorem exists_of_mem_foldItems {items results : List Expression} (folds : foldItems items = .ok results)
    (among : part ∈ results) : ∃ origin ∈ items, origin.fold = .ok part := by
  induction items generalizing results with
  | nil =>
    cases folds
    cases among
  | cons first rest ih =>
    obtain ⟨head, ofFirst, further⟩ := bind_eq_ok.mp folds
    obtain ⟨tail, ofRest, made⟩ := bind_eq_ok.mp further
    cases made
    rcases List.mem_cons.mp among with rfl | later
    · exact ⟨first, .head _, ofFirst⟩
    · obtain ⟨origin, there, folds⟩ := ih ofRest later
      exact ⟨origin, .tail _ there, folds⟩

theorem FoldedParts.exists_child {child : Expression} (parts : FoldedParts expression folded)
    (among : child ∈ folded.children) :
    ∃ origin ∈ expression.children, origin.fold = .ok child := by
  cases parts with
  | field | item => cases among
  | list ofItems => exact exists_of_mem_foldItems ofItems among
  | binary _ first second | isIn _ first second | contains first second | quantifier _ first second =>
    rcases List.mem_pair.mp among with rfl | rfl
    · exact ⟨_, List.mem_pair.mpr (.inl rfl), first⟩
    · exact ⟨_, List.mem_pair.mpr (.inr rfl), second⟩
  | unary _ only | presence _ only | isType _ only | size only | pattern _ only =>
    rcases List.mem_singleton.mp among with rfl
    exact ⟨_, List.mem_singleton_self _, only⟩

/-- Every part of a folded expression is a folded part. -/
theorem PartOf.exists_fold (folds : expression.fold = .ok folded) (inside : PartOf folded part) :
    ∃ origin, PartOf expression origin ∧ origin.fold = .ok part := by
  induction inside with
  | whole => exact ⟨expression, .whole, folds⟩
  | child _ among ih =>
    obtain ⟨origin, inside, folds⟩ := ih
    by_cases constant : origin.isConstant
    · obtain ⟨value, _, rfl⟩ := fold_of_isConstant constant folds
      cases among
    · obtain ⟨source, there, folds⟩ := (foldedParts_of_fold constant folds).exists_child among
      exact ⟨source, inside.child there, folds⟩

theorem foldedParts_of_not_isLiteral (folds : expression.fold = .ok folded)
    (compound : folded.isLiteral = false) : FoldedParts expression folded := by
  refine foldedParts_of_fold (fun constant => ?_) folds
  obtain ⟨value, _, rfl⟩ := fold_of_isConstant constant folds
  cases compound

/-- The fields in a folded expression are fields of the expression. -/
theorem PartOf.field_of_fold {path : FieldPath} {kind : FieldKind} (folds : expression.fold = .ok folded)
    (inside : PartOf folded (.field path kind)) : PartOf expression (.field path kind) := by
  obtain ⟨origin, inside, folds⟩ := inside.exists_fold folds
  cases foldedParts_of_not_isLiteral folds rfl
  exact inside

/-- The patterns in a folded expression are patterns of the expression. -/
theorem PartOf.pattern_of_fold {operand : Expression} {source : String}
    (folds : expression.fold = .ok folded) (inside : PartOf folded (.pattern operand source)) :
    ∃ origin, PartOf expression (.pattern origin source) := by
  obtain ⟨origin, inside, folds⟩ := inside.exists_fold folds
  cases foldedParts_of_not_isLiteral folds rfl
  exact ⟨_, inside⟩

end DocQuery.Expression
