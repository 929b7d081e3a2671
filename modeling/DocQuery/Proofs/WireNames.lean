import DocQuery.Naming
import DocQuery.Store.Selector

/-! The keys that the wire name of a path leads through are the wire names of its segments, as long
as no override names the whole path and no segment hides a dot. -/

namespace DocQuery

theorem splitDots_eq_splitOn (text : List Char) : splitDots text = text.splitOn '.' := by
  induction text with
  | nil => rfl
  | cons c rest ih =>
    rw [splitDots, List.splitOn_cons_eq_if_modifyHead, ih]
    by_cases dot : c = '.'
    · simp [dot]
    · have pieces := List.splitOn_ne_nil '.' rest
      obtain ⟨piece, others, split⟩ := List.exists_cons_of_ne_nil pieces
      simp [dot, split]

/-- Joining names with dots and taking them apart again gives the names. -/
theorem wireKeys_intercalate (names : List String) (nonempty : names ≠ [])
    (dotless : ∀ name ∈ names, '.' ∉ name.toList) :
    wireKeys (".".intercalate names) = names := by
  have pieces : splitDots (".".intercalate names).toList = names.map String.toList := by
    rw [String.toList_intercalate, splitDots_eq_splitOn]
    apply List.splitOn_intercalate
    · simpa using dotless
    · simpa using nonempty
  simp only [wireKeys, pieces, List.map_map]
  simp [Function.comp_def]

theorem dotless_of_mem_splitDots {text piece : List Char} (member : piece ∈ splitDots text) :
    '.' ∉ piece := by
  induction text generalizing piece with
  | nil =>
    cases List.mem_singleton.mp member
    exact List.not_mem_nil
  | cons c rest ih =>
    unfold splitDots at member
    by_cases dot : c = '.'
    · rw [if_pos dot] at member
      obtain rfl | later := List.mem_cons.mp member
      · exact List.not_mem_nil
      · exact ih later
    · rw [if_neg dot] at member
      cases pieces : splitDots rest with
      | nil =>
        rw [pieces] at member
        cases List.mem_singleton.mp member
        simpa using Ne.symm dot
      | cons first others =>
        rw [pieces] at member ih
        obtain rfl | later := List.mem_cons.mp member
        · have further := ih List.mem_cons_self
          simpa [further] using Ne.symm dot
        · exact ih (List.mem_cons_of_mem first later)

theorem dotless_of_mem_wireKeys {name key : String} (member : key ∈ wireKeys name) :
    '.' ∉ key.toList := by
  obtain ⟨piece, among, rfl⟩ := List.mem_map.mp member
  simpa using dotless_of_mem_splitDots among

namespace FieldNaming

variable (naming : FieldNaming) {path : FieldPath}

def wireSegments (path : FieldPath) : List String := path.segments.map naming.resolveMember

/-- A path of one segment or more which no override names as a whole, with names on the wire that
read neither as paths nor as operators. -/
def isPlain (path : FieldPath) : Bool :=
  !path.isEmpty
    && (path.segments.length ≤ 1 || (naming.override? path.render).isNone)
    && (naming.wireSegments path).all fun name =>
      !name.toList.contains '.' && name.toList.head? != some '$'

/-- Only a path of several segments can have a name that its segments do not give. -/
theorem resolve_eq_intercalate (nonempty : path.isEmpty = false)
    (direct : path.segments.length ≤ 1 ∨ naming.override? path.render = none) :
    naming.resolve path = ".".intercalate (naming.wireSegments path) := by
  obtain short | direct := direct
  · match segments : path.segments with
    | [] => simp_all [FieldPath.isEmpty]
    | [segment] =>
      simp only [resolve, wireSegments, FieldPath.render, segments, List.map_cons, List.map_nil,
        String.intercalate_singleton, resolveMember]
      cases naming.override? segment <;> rfl
    | _ :: _ :: _ => simp [segments] at short
  · simp [resolve, wireSegments, direct]

theorem resolve_of_isPlain (plain : naming.isPlain path) :
    naming.resolve path = ".".intercalate (naming.wireSegments path) := by
  simp only [isPlain, Bool.and_eq_true, Bool.or_eq_true, decide_eq_true_eq, Bool.not_eq_true',
    Option.isNone_iff_eq_none] at plain
  exact naming.resolve_eq_intercalate plain.1.1 plain.1.2

theorem wireKeys_resolve (plain : naming.isPlain path) :
    wireKeys (naming.resolve path) = naming.wireSegments path := by
  rw [naming.resolve_of_isPlain plain]
  simp only [isPlain, Bool.and_eq_true, List.all_eq_true] at plain
  apply wireKeys_intercalate
  · simpa [wireSegments, FieldPath.isEmpty] using plain.1.1
  · intro name member
    simpa using (plain.2 name member).1

/-- The wire name of a plain path is no operator. -/
theorem resolve_head (plain : naming.isPlain path) :
    (naming.resolve path).toList.head? ≠ some '$' := by
  rw [naming.resolve_of_isPlain plain, String.toList_intercalate]
  simp only [isPlain, Bool.and_eq_true, List.all_eq_true, bne_iff_ne] at plain
  cases names : naming.wireSegments path with
  | nil => simp
  | cons first rest =>
    have head := (plain.2 first (by simp [names])).2
    cases rest with
    | nil => simpa using head
    | cons second rest =>
      cases letters : first.toList <;> simp_all [List.intercalate_cons_cons]

end FieldNaming

/-- A key without a dollar sign in front is a path. -/
theorem SelectorKey.ofName_of_head {name : String} (plain : name.toList.head? ≠ some '$') :
    SelectorKey.ofName name = .path (wireKeys name) := by
  unfold SelectorKey.ofName
  split
  all_goals first | exact absurd rfl plain | exact if_neg plain

end DocQuery
