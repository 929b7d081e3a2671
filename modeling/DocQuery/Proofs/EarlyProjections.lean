import DocQuery.Proofs.ExecutionStates
import DocQuery.Proofs.ProjectedDocuments
import DocQuery.Proofs.ReadFields
import DocQuery.Proofs.WirePaths

/-! Projecting before or after other steps. Steps that choose and order documents depend on the fields that
they read and on nothing else, so they may be carried out on changed documents as well, as long as the change
leaves these fields. A projection leaves the fields that it keeps, nested and overlapping ones too. -/

namespace DocQuery

/-- Whether a change of documents leaves what is at the end of a path. -/
def LeavesPath (change : Json → Json) (path : List String) : Prop :=
  ∀ document, (change document).lookup? path = document.lookup? path

/-- Whether a change of documents leaves a field, both where expressions look for it and where its wire name
leads. -/
structure LeavesField (naming : FieldNaming) (change : Json → Json) (path : FieldPath) : Prop where
  read : LeavesPath change (naming.wireSegments path)
  sorted : LeavesPath change (wireKeys (naming.resolve path))

namespace Step

/-- Whether a step chooses and orders documents and leaves them as they are. -/
def arranges : Step → Bool
  | .filter _ | .orderBy .. | .thenBy .. | .skip _ | .take _ => true
  | _ => false

/-- The fields of documents that such a step reads. -/
def documentPaths : Step → List FieldPath
  | .filter predicate => predicate.documentPaths
  | .orderBy field _ | .thenBy field _ => [field]
  | _ => []

end Step

/-- What a change of documents makes of an output. -/
def Output.mapDocuments (change : Json → Json) : Output → Output
  | .documents items => .documents (items.map change)
  | output => output

section Change

variable {naming : FieldNaming} {change : Json → Json} {step : Step} {steps : List Step}
  {keys : List SortKey} {documents : List Json}

theorem keepMatching_map {predicate : Expression}
    (leaves : ∀ path ∈ predicate.documentPaths, LeavesField naming change path) (documents : List Json) :
    keepMatching naming predicate (documents.map change) =
      (keepMatching naming predicate documents).map (List.map change) := by
  have same : ∀ document, predicate.normalize.holds naming (.ofJson (change document)) =
      predicate.normalize.holds naming (.ofJson document) := by
    intro document
    apply Expression.holds_normalize_congr
    intro path reads
    exact (leaves path reads).read document
  rw [keepMatching, keepItems_map, funext same, keepMatching]

theorem compareAll_of_leavesPath (kept : ∀ key ∈ keys, LeavesPath change key.path) (a b : Json) :
    SortKey.compareAll keys (change a) (change b) = SortKey.compareAll keys a b := by
  induction keys with
  | nil => rfl
  | cons key rest ih =>
    obtain ⟨own, others⟩ := List.forall_mem_cons.mp kept
    simp only [SortKey.compareAll, SortKey.compare, own a, own b, ih others]

theorem sortDocuments_map (kept : ∀ key ∈ keys, LeavesPath change key.path) (documents : List Json) :
    sortDocuments keys (documents.map change) = (sortDocuments keys documents).map change :=
  sortBy_map change fun a _ b _ => compareAll_of_leavesPath kept a b

namespace Step

theorem leavesPath_sortKeys (leaves : ∀ path ∈ step.documentPaths, LeavesField naming change path)
    (kept : ∀ key ∈ keys, LeavesPath change key.path) :
    ∀ key ∈ step.sortKeys naming keys, LeavesPath change key.path := by
  cases step with
  | orderBy field order =>
    intro key member
    obtain rfl := List.mem_singleton.mp member
    exact (leaves field List.mem_cons_self).sorted
  | thenBy field order =>
    refine List.forall_mem_append.mpr ⟨kept, fun key member => ?_⟩
    obtain rfl := List.mem_singleton.mp member
    exact (leaves field List.mem_cons_self).sorted
  | _ => exact kept

/-- A step does with changed documents what it does with the documents themselves. -/
theorem apply_map (arranges : step.arranges)
    (leaves : ∀ path ∈ step.documentPaths, LeavesField naming change path)
    (kept : ∀ key ∈ keys, LeavesPath change key.path) (documents : List Json) :
    step.apply naming keys (documents.map change) =
      (step.apply naming keys documents).map (Output.mapDocuments change) := by
  cases step with
  | filter predicate =>
    rw [apply, apply, keepMatching_map leaves]
    cases keepMatching naming predicate documents <;> rfl
  | orderBy | thenBy => rw [apply, apply, sortDocuments_map kept]; rfl
  | skip count => rw [apply, apply, ← List.map_drop]; rfl
  | take count => rw [apply, apply, ← List.map_take]; rfl
  | _ => cases arranges

theorem apply_documents (arranges : step.arranges) {output : Output}
    (applied : step.apply naming keys documents = .ok output) : ∃ arranged, output = .documents arranged := by
  cases step with
  | filter predicate =>
    obtain ⟨arranged, _, made⟩ := bind_eq_ok.mp applied
    cases made
    exact ⟨arranged, rfl⟩
  | orderBy | thenBy | skip | take =>
    cases applied
    exact ⟨_, rfl⟩
  | _ => cases arranges

end Step

namespace Execution

/-- Steps in a row do with changed documents what they do with the documents themselves. -/
theorem finish_map (arranges : ∀ step ∈ steps, step.arranges)
    (leaves : ∀ step ∈ steps, ∀ path ∈ step.documentPaths, LeavesField naming change path)
    (kept : ∀ key ∈ keys, LeavesPath change key.path) (documents : List Json) :
    finish naming steps ⟨.documents (documents.map change), keys⟩ =
      (finish naming steps ⟨.documents documents, keys⟩).map (Output.mapDocuments change) := by
  induction steps generalizing keys documents with
  | nil => rfl
  | cons step rest ih =>
    obtain ⟨arrangesFirst, arrangesRest⟩ := List.forall_mem_cons.mp arranges
    obtain ⟨leavesFirst, leavesRest⟩ := List.forall_mem_cons.mp leaves
    have sorted := Step.leavesPath_sortKeys leavesFirst kept
    rw [finish_cons, finish_cons, advance_documents_eq, advance_documents_eq,
      Step.apply_map arrangesFirst leavesFirst sorted]
    cases applied : step.apply naming (step.sortKeys naming keys) documents with
    | error failure => rfl
    | ok output =>
      obtain ⟨arranged, rfl⟩ := Step.apply_documents arrangesFirst applied
      exact ih arrangesRest leavesRest sorted arranged

end Execution
end Change

section Projection

variable {naming : FieldNaming} {fields : List FieldPath} {steps : List Step}

/-- The part of a document that a projection keeps. -/
def keptPart (naming : FieldNaming) (fields : List FieldPath) (document : Json) : Json :=
  document.project (fields.map fun field => wireKeys (naming.resolve field))

theorem leavesField_keptPart {path : FieldPath} (member : path ∈ fields) (nonempty : path.isEmpty = false)
    (follows : naming.followsSegments path) : LeavesField naming (keptPart naming fields) path := by
  have sorted : LeavesPath (keptPart naming fields) (wireKeys (naming.resolve path)) := by
    intro document
    apply Json.lookup?_project _ (wireKeys_ne_nil _) (List.prefix_refl _)
    exact List.mem_map.mpr ⟨path, member, rfl⟩
  refine ⟨?_, sorted⟩
  rw [← (naming.wireKeys_resolve_iff nonempty).mpr follows]
  exact sorted

/-- A projection at the end takes what the steps before it have left. -/
theorem Execution.finish_append_project (arranges : ∀ step ∈ steps, step.arranges) (keys : List SortKey)
    (documents : List Json) :
    finish naming (steps ++ [.project fields]) ⟨.documents documents, keys⟩ =
      (finish naming steps ⟨.documents documents, keys⟩).map
        (Output.mapDocuments (keptPart naming fields)) := by
  induction steps generalizing keys documents with
  | nil => rfl
  | cons step rest ih =>
    obtain ⟨first, others⟩ := List.forall_mem_cons.mp arranges
    rw [List.cons_append, finish_cons, finish_cons, advance_documents_eq]
    cases applied : step.apply naming (step.sortKeys naming keys) documents with
    | error failure => rfl
    | ok output =>
      obtain ⟨arranged, rfl⟩ := Step.apply_documents first applied
      exact ih others _ arranged

/-- A projection may come first or last, with the same documents or the same failure, if the steps choose and
order documents and read only fields that the projection keeps, each where its wire name leads: no name of
the whole path takes the place of its segments, and no segment has a dot in its own. -/
theorem runSteps_project_first (arranges : ∀ step ∈ steps, step.arranges)
    (reads : ∀ step ∈ steps, ∀ path ∈ step.documentPaths,
      path ∈ fields ∧ path.isEmpty = false ∧ naming.followsSegments path)
    (documents : List Json) :
    runSteps naming (.project fields :: steps) documents =
      runSteps naming (steps ++ [.project fields]) documents := by
  have leaves : ∀ step ∈ steps, ∀ path ∈ step.documentPaths,
      LeavesField naming (keptPart naming fields) path := by
    intro step among path read
    obtain ⟨member, nonempty, follows⟩ := reads step among path read
    exact leavesField_keptPart member nonempty follows
  have placedFirst : checkSteps false (.project fields :: steps) = checkSteps false steps := rfl
  have placedLast : checkSteps false (steps ++ [.project fields]) = checkSteps false steps := by
    rw [checkSteps_append]
    cases checkSteps false steps <;> rfl
  have first : Execution.finish naming (.project fields :: steps) (.ofDocuments documents) =
      Execution.finish naming steps ⟨.documents (documents.map (keptPart naming fields)), []⟩ := rfl
  rw [Execution.runSteps_eq_bind, Execution.runSteps_eq_bind, placedFirst, placedLast, first,
    Execution.finish_map arranges leaves (List.forall_mem_nil _)]
  exact congrArg _ (funext fun _ => (Execution.finish_append_project arranges [] documents).symm)

/-- An owner as a whole and the surname inside, which has a name of its own on the wire. The predicate reads
the owner, the sort the surname and then the age. -/
theorem runSteps_project_first_owners :
    let naming := (FieldNaming.ofCase .unchanged).withOverride "Surname" "last_name"
    let owner : FieldPath := ⟨["Owner"]⟩
    let surname : FieldPath := ⟨["Owner", "Surname"]⟩
    let age : FieldPath := ⟨["Age"]⟩
    let fields := [owner, surname, age]
    let steps : List Step := [.filter (.presence (.field owner .value) true), .orderBy surname .ascending,
      .thenBy age .descending, .skip 1, .take 1]
    let older : Json := .object [("Rank", .integer 1), ("Age", .integer 57),
      ("Owner", .object [("Name", .string "Anakin"), ("last_name", .string "Skywalker")])]
    let younger : Json := .object [("Rank", .integer 2), ("Age", .integer 19),
      ("Owner", .object [("Name", .string "Luke"), ("last_name", .string "Skywalker")])]
    (∀ step ∈ steps, step.arranges) ∧ (∀ step ∈ steps, ∀ path ∈ step.documentPaths, path ∈ fields) ∧
      (∀ path ∈ fields, path.isEmpty = false ∧
        (path.segments.length ≤ 1 ∨ naming.override? path.render = none) ∧
          ∀ name ∈ naming.wireSegments path, '.' ∉ name.toList) ∧
      runSteps naming (.project fields :: steps) [younger, older] =
        runSteps naming (steps ++ [.project fields]) [younger, older] ∧
      runSteps naming (.project fields :: steps) [younger, older] =
        .ok (.documents [.object [
          ("Owner", .object [("Name", .string "Luke"), ("last_name", .string "Skywalker")]),
          ("Age", .integer 19)]]) := by
  intro naming owner surname age fields steps older younger
  have arranges : ∀ step ∈ steps, step.arranges := by decide
  have reads : ∀ step ∈ steps, ∀ path ∈ step.documentPaths, path ∈ fields := by decide
  have named : ∀ path ∈ fields, path.isEmpty = false ∧
      (path.segments.length ≤ 1 ∨ naming.override? path.render = none) ∧
        ∀ name ∈ naming.wireSegments path, '.' ∉ name.toList := by decide
  refine ⟨arranges, reads, named, runSteps_project_first arranges ?_ _, ?_⟩
  · intro step among path read
    have member := reads step among path read
    obtain ⟨nonempty, direct, dotless⟩ := named path member
    exact ⟨member, nonempty, naming.followsSegments_of_dotless nonempty direct dotless⟩
  · subst steps fields older younger naming owner surname age
    rfl

end Projection

end DocQuery
