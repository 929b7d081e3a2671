import DocQuery.Proofs.DraftRows
import DocQuery.Proofs.OptimizedRows

/-! Where steps may stand. Further fields to sort by need a first one before them: the client checks
that for all its steps, the server for its own. So a chain that is cut in two is in order if both
parts are, and the second part sorts in the same way whatever the first has done. -/

namespace DocQuery

theorem checkSteps_append (ordered : Bool) (first second : List Step) :
    checkSteps ordered (first ++ second) =
      (checkSteps ordered first >>= fun _ =>
        checkSteps (ordered || first.any Step.isOrderBy) second) := by
  induction first generalizing ordered with
  | nil => simp [checkSteps]
  | cons step rest ih =>
    simp only [List.cons_append, checkSteps, List.any_cons]
    split
    · rfl
    · cases step with
      | orderBy => simp [ih, Step.isOrderBy]
      | thenBy => cases ordered <;> simp [ih, Step.isOrderBy]
      | _ => simp [ih, Step.isOrderBy]

theorem checkSteps_ordered {steps : List Step} (checked : checkSteps false steps = .ok ())
    (ordered : Bool) : checkSteps ordered steps = .ok () := by
  cases ordered with
  | false => exact checked
  | true =>
    induction steps with
    | nil => rfl
    | cons step rest ih =>
      cases step with
      | thenBy => cases checked
      | _ => first | exact checked | exact ih checked

/-- The documents after steps that are in order depend on the documents before them only. -/
theorem Rows.foldl_documents (naming : FieldNaming) {steps : List Step} {ordered : Bool}
    (checked : checkSteps ordered steps = .ok ()) {rows others : Rows}
    (documents : rows.documents = others.documents)
    (sorted : ordered → rows.sortKeys = others.sortKeys) :
    (steps.foldl (fun rows step => rows.advance naming step) rows).documents =
      (steps.foldl (fun rows step => rows.advance naming step) others).documents := by
  induction steps generalizing ordered rows others with
  | nil => exact documents
  | cons step rest ih =>
    simp only [checkSteps] at checked
    split at checked
    · cases checked
    cases step with
    | orderBy field order =>
      -- The first field to sort by takes the place of all that there were.
      refine ih checked ?_ fun _ => rfl
      exact congrArg (sortDocuments [⟨wireKeys (naming.resolve field), order⟩]) documents
    | thenBy field order =>
      cases ordered with
      | false => cases checked
      | true =>
        have keys := congrArg (· ++ [⟨wireKeys (naming.resolve field), order⟩]) (sorted rfl)
        refine ih checked ?_ fun _ => keys
        change sortDocuments (rows.sortKeys ++ _) rows.documents = sortDocuments _ others.documents
        rw [sorted rfl, documents]
        rfl
    | _ => exact ih checked (by simp only [advance, Step.rows, documents]) sorted

namespace RequestDraft

variable {naming : FieldNaming} {chain : List Step} {draft : RequestDraft}

/-- A draft is made only of steps that are in order. -/
theorem checkSteps_of_ofChain (isChain : IsRowChain naming chain)
    (drafted : ofChain naming chain = .ok draft) : checkSteps false chain.reverse = .ok () := by
  have body : ∀ {chain : List Step} {draft : RequestDraft},
      (∀ step ∈ chain, step.KeepsRows naming) → ofChain naming chain = .ok draft →
        checkSteps false chain.reverse = .ok () ∧ (draft.sort ≠ [] → chain.any Step.isOrderBy) := by
    intro chain draft keeps drafted
    refine ofChain_induction (motive := fun chain draft => checkSteps false chain.reverse = .ok () ∧
      (draft.sort ≠ [] → chain.any Step.isOrderBy)) ⟨rfl, nofun⟩ ?_ keeps drafted
    intro step input before next ⟨checked, ordered⟩ added
    rw [List.reverse_cons, checkSteps_append, checked, ok_bind, Bool.false_or, List.any_reverse,
      List.any_cons]
    cases added with
    | filter selectable translated unpaginated =>
      exact ⟨rfl, by simpa [Step.isOrderBy] using ordered⟩
    | orderBy unpaginated => exact ⟨rfl, fun _ => rfl⟩
    | thenBy unpaginated sorted =>
      rw [ordered sorted]
      exact ⟨rfl, fun _ => rfl⟩
    | skip => exact ⟨rfl, by simpa [Step.isOrderBy, addSkip] using ordered⟩
    | take word => exact ⟨rfl, by simpa [Step.isOrderBy, addLimit] using ordered⟩
  cases isChain with
  | body keeps => exact (body keeps drafted).1
  | project fields keeps =>
    obtain ⟨before, ofBody, _⟩ := bind_eq_ok.mp drafted
    rw [List.reverse_cons, checkSteps_append, (body keeps ofBody).1]
    rfl

end RequestDraft
end DocQuery
