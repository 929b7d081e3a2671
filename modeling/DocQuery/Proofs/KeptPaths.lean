import DocQuery.Proofs.DraftAnswers
import DocQuery.Proofs.ProjectedDocuments
import Mathlib.Data.List.Basic

/-! Which paths a projection keeps: those of the listed ones that lead somewhere in the document, with all
that is further down and the objects on the way, and no others. The order of the list, repeated paths and paths
that go on from others make no difference to what is found. -/

namespace DocQuery

namespace Json

variable {document : Json} {paths : List (List String)}

/-- A path that leads somewhere leads through its beginnings. -/
theorem isSome_lookup?_of_prefix {path before : List String} (found : (document.lookup? path).isSome)
    (begins : before <+: path) : (document.lookup? before).isSome := by
  obtain ⟨rest, rfl⟩ := begins
  rw [lookup?_append] at found
  exact Option.isSome_of_isSome_bind found

/-- Whether one of two paths goes on from the other. -/
def Aligned (path other : List String) : Prop := path <+: other ∨ other <+: path

theorem Aligned.cons {path other : List String} (key : String) (aligned : Aligned path other) :
    Aligned (key :: path) (key :: other) := by
  simpa [Aligned, List.cons_prefix_cons] using aligned

/-- A value that is put at the end of a path changes nothing off the path. -/
theorem lookup?_insertPath_of_not_aligned (value : Json) {path other : List String} (entries : Entries Json)
    (apart : ¬Aligned path other) :
    (Json.object (insertPath value path entries)).lookup? other = (Json.object entries).lookup? other := by
  induction path generalizing other entries with
  | nil => exact absurd (.inl List.nil_prefix) apart
  | cons key rest ih =>
    cases other with
    | nil => exact absurd (.inr List.nil_prefix) apart
    | cons name below =>
      by_cases same : key = name
      · -- The paths part further down, if what is put there gets there at all.
        subst same
        have deeper : ¬Aligned rest below := fun aligned => apart (aligned.cons key)
        rw [lookup?, lookup?, get?, get?, get?_insertPath_self]
        cases rest with
        | nil => exact absurd (.inl List.nil_prefix) deeper
        | cons next rest =>
          cases inside : entries.get? key with
          | none =>
            rw [Option.bind_some, ih [] deeper]
            cases below with
            | nil => exact absurd (.inr List.nil_prefix) deeper
            | cons => rfl
          | some old =>
            cases old with
            | object inner => exact ih inner deeper
            | _ => rfl
      · rw [lookup?, lookup?, get?, get?, get?_insertPath value key rest entries same]

/-- Nothing is kept off the listed paths that lead somewhere. -/
theorem lookup?_project_of_not_aligned {other : List String} (nonempty : other ≠ [])
    (apart : ∀ path ∈ paths, (document.lookup? path).isSome → ¬Aligned path other) :
    (document.project paths).lookup? other = none := by
  have loop : ∀ kept : Entries Json, (Json.object (paths.foldl document.keepPath kept)).lookup? other =
      (Json.object kept).lookup? other := by
    induction paths with
    | nil => exact fun _ => rfl
    | cons path rest ih =>
      intro kept
      obtain ⟨here, later⟩ := List.forall_mem_cons.mp apart
      rw [List.foldl_cons, ih later, keepPath]
      split
      next value found => exact lookup?_insertPath_of_not_aligned value kept (here (by rw [found]; rfl))
      next => rfl
  obtain ⟨key, rest, rfl⟩ := List.exists_cons_of_ne_nil nonempty
  exact loop []

/-- A path leads somewhere in a projection exactly if it does so in the document and is on the way to a listed
path that leads somewhere, or goes on from one. -/
theorem isSome_lookup?_project_iff {path : List String} (nonempty : path ≠ [])
    (proper : ∀ listed ∈ paths, listed ≠ []) :
    ((document.project paths).lookup? path).isSome ↔ (document.lookup? path).isSome ∧
      ∃ listed ∈ paths, (document.lookup? listed).isSome ∧ Aligned listed path := by
  constructor
  · intro found
    obtain ⟨value, reached⟩ := Option.isSome_iff_exists.mp found
    obtain ⟨key, rest, rfl⟩ := List.exists_cons_of_ne_nil nonempty
    obtain ⟨held, there, -⟩ := (keeps_project document paths).within key rest value reached
    refine ⟨by rw [there]; rfl, ?_⟩
    by_cases asked : ∃ listed ∈ paths, (document.lookup? listed).isSome ∧ Aligned listed (key :: rest)
    · exact asked
    · have off := lookup?_project_of_not_aligned nonempty fun listed among leads aligned =>
        asked ⟨listed, among, leads, aligned⟩
      rw [off] at found
      cases found
  · rintro ⟨held, listed, among, leads, onward | before⟩
    · rwa [lookup?_project among (proper listed among) onward]
    · rw [← lookup?_project among (proper listed among) (List.prefix_refl _)] at leads
      exact isSome_lookup?_of_prefix leads before

/-- A projection depends on what the listed paths lead to and on nothing else. -/
theorem project_congr {other : Json}
    (same : ∀ path ∈ paths, path ≠ [] → document.lookup? path = other.lookup? path) :
    document.project paths = other.project paths := by
  have steps : ∀ kept, ∀ path ∈ paths, document.keepPath kept path = other.keepPath kept path := by
    intro kept path among
    by_cases empty : path = []
    · subst empty
      rfl
    · rw [keepPath, keepPath, same path among empty]
  exact congrArg Json.object (List.foldl_ext _ _ [] steps)

theorem project_project (document : Json) (paths : List (List String)) :
    (document.project paths).project paths = document.project paths :=
  project_congr (keeps_project document paths).same

/-- Whether a value can be put at the end of a path: whatever there is on the way is an object. -/
def LeavesRoom (part : Json) (path : List String) : Prop :=
  ∀ before rest value, before ++ rest = path → rest ≠ [] → part.lookup? before = some value →
    value.IsObject

theorem leavesRoom_nil (part : Json) : part.LeavesRoom [] := by
  intro before rest value whole further
  exact absurd (List.append_eq_nil_iff.mp whole).2 further

theorem leavesRoom_cons {entries : Entries Json} {key : String} {path : List String} :
    (Json.object entries).LeavesRoom (key :: path) ↔
      ∀ child, entries.get? key = some child → child.LeavesRoom path := by
  constructor
  · intro room child held before rest value whole further reached
    refine room (key :: before) rest value (congrArg (key :: ·) whole) further ?_
    rw [lookup?, get?, held]
    exact reached
  · intro room before rest value whole further reached
    cases before with
    | nil => exact ⟨entries, (Option.some.inj reached).symm⟩
    | cons name before =>
      obtain ⟨rfl, onward⟩ := List.cons.inj whole
      obtain ⟨child, held, below⟩ := Option.bind_eq_some_iff.mp reached
      exact room child held before rest value onward further below

theorem leavesRoom_empty (path : List String) : (Json.object []).LeavesRoom path := by
  cases path with
  | nil => exact leavesRoom_nil _
  | cons key rest =>
    rw [leavesRoom_cons]
    intro child held
    cases held

theorem LeavesRoom.isObject {part : Json} {path : List String} (room : part.LeavesRoom path)
    (further : path ≠ []) : part.IsObject :=
  room [] path part rfl further rfl

/-- A value arrives at the end of a path exactly if there is room for it. -/
theorem lookup?_insertPath_iff (value : Json) {path : List String} (entries : Entries Json)
    (nonempty : path ≠ []) :
    (Json.object (insertPath value path entries)).lookup? path = some value ↔
      (Json.object entries).LeavesRoom path := by
  induction path generalizing entries with
  | nil => contradiction
  | cons key rest ih =>
    rw [leavesRoom_cons, lookup?, get?, get?_insertPath_self]
    cases rest with
    | nil => exact iff_of_true rfl fun child _ => child.leavesRoom_nil
    | cons next rest =>
      have further : next :: rest ≠ [] := List.cons_ne_nil next rest
      cases inside : entries.get? key with
      | none => simpa using (ih [] further).mpr (leavesRoom_empty _)
      | some old =>
        cases old with
        | object inner => simpa using ih inner further
        | _ =>
          -- What is there already is no object and stays, so the value is dropped.
          constructor
          · intro reached
            cases reached
          · intro room
            obtain ⟨inner, object⟩ := (room _ rfl).isObject further
            cases object

/-- A listed path that leads somewhere finds room in what the paths before it have kept. -/
theorem leavesRoom_project (earlier : List (List String)) {path : List String} (nonempty : path ≠ [])
    (leads : (document.lookup? path).isSome) : (document.project earlier).LeavesRoom path := by
  obtain ⟨value, found⟩ := Option.isSome_iff_exists.mp leads
  have within := (keeps_project document earlier).within
  exact (lookup?_insertPath_iff value _ nonempty).mp (lookup?_insertPath nonempty found within)

end Json

theorem FieldNaming.resolve_singleton (name : String) :
    (FieldNaming.ofCase .unchanged).resolve ⟨[name]⟩ = name := by
  have kept : PropertyCase.unchanged.apply name = name := by
    unfold PropertyCase.apply
    split <;> rfl
  change ".".intercalate [PropertyCase.unchanged.apply name] = name
  rw [String.intercalate_singleton, kept]

namespace Json

/-- A projection keeps what is listed and nothing else, whatever is listed and in whichever order. A listed
field leads to the same value as in the document, or nowhere in both. Whatever is found is there in the
document, as the same value or as an object of which only a part is kept, and it lies on one way with a listed
field. No value is lost: at its turn every listed field finds nothing but objects before it. A document that
has been projected is left as it is, and a projecting step and a request with these fields give the same. -/
theorem project_keeps_exactly (document : Json) (fields : List String) :
    let paths := fields.map wireKeys
    let kept := document.project paths
    (∀ field ∈ fields, kept.lookup? (wireKeys field) = document.lookup? (wireKeys field)) ∧
    (∀ field value, kept.lookup? (wireKeys field) = some value →
      ∃ held, document.lookup? (wireKeys field) = some held ∧
        (value = held ∨ value.IsObject ∧ held.IsObject)) ∧
    (∀ field, (kept.lookup? (wireKeys field)).isSome ↔ (document.lookup? (wireKeys field)).isSome ∧
      ∃ listed ∈ fields, (document.lookup? (wireKeys listed)).isSome ∧
        Aligned (wireKeys listed) (wireKeys field)) ∧
    (∀ earlier field, earlier ++ [field] <+: fields → (document.lookup? (wireKeys field)).isSome →
      (document.project (earlier.map wireKeys)).LeavesRoom (wireKeys field) ∧
      (document.project ((earlier ++ [field]).map wireKeys)).lookup? (wireKeys field) =
        document.lookup? (wireKeys field)) ∧
    kept.project paths = kept ∧
    (∃ (naming : FieldNaming) (members : List FieldPath), members.map naming.resolve = fields) ∧
    ∀ (naming : FieldNaming) (members : List FieldPath) (keys : List SortKey) (request : FindRequest)
      (documents : List Json), members.map naming.resolve = fields →
      request.get? "fields" = some (.array (fields.map .string)) →
        (Step.project members).apply naming keys documents = .ok (.documents (documents.map (·.project paths))) ∧
        request.projected documents = documents.map (·.project paths) := by
  intro paths kept
  have listed : ∀ (names : List String), ∀ field ∈ names,
      (document.project (names.map wireKeys)).lookup? (wireKeys field) = document.lookup? (wireKeys field) := by
    intro names field among
    exact lookup?_project (List.mem_map_of_mem among) (wireKeys_ne_nil field) (List.prefix_refl _)
  have proper : ∀ path ∈ paths, path ≠ [] := List.forall_mem_map.mpr fun field _ => wireKeys_ne_nil field
  refine ⟨listed fields, ?held, ?asked, ?room, project_project document paths, ?reached, ?agree⟩
  case held =>
    intro field value found
    obtain ⟨key, rest, keys⟩ := List.exists_cons_of_ne_nil (wireKeys_ne_nil field)
    rw [keys] at found ⊢
    exact (keeps_project document paths).within key rest value found
  case asked =>
    intro field
    rw [isSome_lookup?_project_iff (wireKeys_ne_nil field) proper]
    simp [paths]
  case room =>
    intro earlier field _ leads
    exact ⟨leavesRoom_project _ (wireKeys_ne_nil field) leads, listed (earlier ++ [field]) field (by simp)⟩
  case reached =>
    refine ⟨.ofCase .unchanged, fields.map fun name => ⟨[name]⟩, ?_⟩
    simp [Function.comp_def, FieldNaming.resolve_singleton]
  case agree =>
    rintro naming members keys request documents rfl held
    have paths_eq : paths = members.map fun member => wireKeys (naming.resolve member) := List.map_map
    refine ⟨?_, RequestDraft.projected_of_names held documents⟩
    rw [Step.apply, paths_eq]

/-- A name of which first a part is kept and then the whole; the home has no moon to keep. -/
theorem project_keeps_exactly_luke :
    let name : Json := .object [("first", .string "Luke"), ("last", .string "Skywalker")]
    let document : Json := .object [("age", .integer 19), ("name", name), ("home", .string "Tatooine")]
    let fields := ["name.last", "home.moon", "name", "name.last"]
    let kept := document.project (fields.map wireKeys)
    let members : List FieldPath := [⟨["name", "last"]⟩, ⟨["home", "moon"]⟩, ⟨["name"]⟩, ⟨["name", "last"]⟩]
    let request : FindRequest := ⟨[("fields", .array (fields.map .string))]⟩
    ("home.moon" ∈ fields ∧ kept.lookup? (wireKeys "home.moon") = none) ∧
    (kept.lookup? (wireKeys "name.first") = some (.string "Luke") ∧
      (document.lookup? (wireKeys "name.first")).isSome) ∧
    (["name.last", "home.moon"] ++ ["name"] <+: fields ∧ (document.lookup? (wireKeys "name")).isSome ∧
      (document.project (["name.last", "home.moon"].map wireKeys)).LeavesRoom (wireKeys "name")) ∧
    members.map (FieldNaming.ofCase .unchanged).resolve = fields ∧
    request.get? "fields" = some (.array (fields.map .string)) ∧
    request.projected [document] = [.object [("name", name)]] := by
  intro name document fields kept members request
  obtain ⟨listed, held, _, room, _, _, agree⟩ := project_keeps_exactly document fields
  have moon : "home.moon" ∈ fields := by decide
  have found : kept.lookup? (wireKeys "name.first") = some (.string "Luke") := by rfl
  have turn : ["name.last", "home.moon"] ++ ["name"] <+: fields := ⟨["name.last"], rfl⟩
  have leads : (document.lookup? (wireKeys "name")).isSome := by rfl
  have named : members.map (FieldNaming.ofCase .unchanged).resolve = fields := by rfl
  have names : request.get? "fields" = some (.array (fields.map .string)) := by rfl
  refine ⟨⟨moon, (listed _ moon).trans rfl⟩, ⟨found, ?_⟩, ⟨turn, leads, (room _ _ turn leads).1⟩, named, names, ?_⟩
  · obtain ⟨part, there, _⟩ := held _ _ found
    exact Option.isSome_iff_exists.mpr ⟨part, there⟩
  · exact (agree _ members [] request [document] named names).2

end Json
end DocQuery
