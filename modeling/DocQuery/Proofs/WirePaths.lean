import DocQuery.Expression.Evaluation
import DocQuery.Proofs.DocumentValues
import DocQuery.Proofs.WireNames

/-! Where a path leads. A request writes the wire name of a whole path and reads it key by key; an expression
follows the path segment by segment and never asks for the name of the whole. The two lead to the same
place in every document exactly if the wire name comes apart into the names of the segments. -/

namespace DocQuery

namespace Json

/-- The document that has nothing but a path, with null at its end. -/
def ofPath : List String → Json
  | [] => .null
  | key :: rest => .object [(key, ofPath rest)]

theorem lookup?_ofPath (keys others : List String) :
    (ofPath keys).lookup? others = some .null ↔ others = keys := by
  induction keys generalizing others with
  | nil => cases others <;> simp [ofPath, lookup?, get?]
  | cons key rest ih =>
    cases others with
    | nil => simp [ofPath, lookup?]
    | cons other further =>
      by_cases same : key = other
      · subst same
        simp [ofPath, lookup?, get?, Entries.get?, ih]
      · simp [ofPath, lookup?, get?, Entries.get?, same, Ne.symm same]

end Json

theorem Value.ofJson_eq_null {document : Json} : ofJson document = .null ↔ document = .null := by
  cases document with
  | integer i => simp only [ofJson]; split <;> simp
  | _ => simp [ofJson]

namespace FieldNaming

variable (naming : FieldNaming) {path : FieldPath}

/-- Whether the wire name of a path comes apart into the names of its segments. An override of the whole
path has to spell them out; without one no name may hide a dot. -/
def followsSegments (path : FieldPath) : Bool :=
  match naming.override? path.render with
  | some wire => wireKeys wire == naming.wireSegments path
  | none => (naming.wireSegments path).all fun name => !name.toList.contains '.'

theorem wireKeys_resolve_iff (nonempty : path.isEmpty = false) :
    wireKeys (naming.resolve path) = naming.wireSegments path ↔ naming.followsSegments path := by
  unfold followsSegments resolve
  cases naming.override? path.render with
  | some wire => simp
  | none =>
    simp only [Option.getD_none, List.all_eq_true, Bool.not_eq_true', List.contains_eq_mem,
      decide_eq_false_iff_not]
    constructor
    · intro split name member
      rw [← split] at member
      exact dotless_of_mem_wireKeys member
    · apply wireKeys_intercalate
      simpa [wireSegments, FieldPath.isEmpty] using nonempty

/-- Names without dots are enough for a path that has no other name as a whole. -/
theorem followsSegments_of_dotless (nonempty : path.isEmpty = false)
    (direct : path.segments.length ≤ 1 ∨ naming.override? path.render = none)
    (dotless : ∀ name ∈ naming.wireSegments path, '.' ∉ name.toList) : naming.followsSegments path := by
  rw [← naming.wireKeys_resolve_iff nonempty, naming.resolve_eq_intercalate nonempty direct]
  apply wireKeys_intercalate _ _ dotless
  simpa [wireSegments, FieldPath.isEmpty] using nonempty

end FieldNaming

/-- An expression follows the names of the segments, one after the other. -/
theorem Expression.value?_field_eq {naming : FieldNaming} (path : FieldPath) (kind : FieldKind)
    {scope : Scope} {document : Json} (named : scope.naming = some naming)
    (held : scope.document = some (.ofJson document)) :
    (Expression.field path kind).value? scope =
      .ok ((document.lookup? (naming.wireSegments path)).map Value.ofJson) := by
  rw [Expression.value?, Scope.lookup?, named]
  simp only [held, Option.bind_some, Value.lookup?_ofJson, FieldNaming.wireSegments]

/-- An expression finds a field where its wire name leads, in every document and every element of a
quantifier, exactly if that name comes apart into the names of the segments. -/
theorem value?_field_eq_lookup?_iff (naming : FieldNaming) (path : FieldPath)
    (nonempty : path.isEmpty = false) :
    (∀ (kind : FieldKind) (scope : Scope) (document : Json), scope.naming = some naming →
        scope.document = some (.ofJson document) → (Expression.field path kind).value? scope =
          .ok ((document.lookup? (wireKeys (naming.resolve path))).map Value.ofJson)) ↔
      naming.followsSegments path := by
  rw [← naming.wireKeys_resolve_iff nonempty]
  constructor
  · intro agrees
    -- The document that has nothing but the wire path tells the two apart.
    let document := Json.ofPath (wireKeys (naming.resolve path))
    let scope := Scope.ofDocument naming (.ofJson document)
    have direct := Expression.value?_field_eq path .value (rfl : scope.naming = some naming) rfl
    have whole := agrees .value scope document rfl rfl
    rw [(Json.lookup?_ofPath _ _).mpr rfl, direct] at whole
    obtain ⟨item, led, null⟩ := Option.map_eq_some_iff.mp (Except.ok.inj whole)
    rw [Value.ofJson, Value.ofJson_eq_null] at null
    subst null
    exact ((Json.lookup?_ofPath _ _).mp led).symm
  · intro same kind scope document named held
    rw [same]
    exact Expression.value?_field_eq path kind named held

/-- A member keeps its name of its own wherever it appears. -/
theorem value?_field_eq_lookup?_surname :
    let naming := (FieldNaming.ofCase .unchanged).withOverride "Surname" "last_name"
    let path : FieldPath := ⟨["Owner", "Surname"]⟩
    let document : Json := .object [("Owner", .object [("last_name", .string "Skywalker")])]
    path.isEmpty = false ∧ (Expression.field path .value).value? (.ofDocument naming (.ofJson document)) =
      .ok ((document.lookup? (wireKeys (naming.resolve path))).map Value.ofJson) := by
  intro naming path document
  have follows : naming.followsSegments path := by decide
  exact ⟨rfl, (value?_field_eq_lookup?_iff naming path rfl).mpr follows .value _ document rfl rfl⟩

/-- A name for a whole path: the server reads the model of a vehicle there, an expression does not. -/
theorem value?_field_of_override :
    let naming := (FieldNaming.ofCase .unchanged).withOverride "Vehicle.Model" "ride"
    let path : FieldPath := ⟨["Vehicle", "Model"]⟩
    let document : Json := .object [("ride", .string "X-wing")]
    (Expression.field path .value).value? (.ofDocument naming (.ofJson document)) = .ok none ∧
      (document.lookup? (wireKeys (naming.resolve path))).map Value.ofJson = some (.string "X-wing") :=
  ⟨rfl, rfl⟩

end DocQuery
