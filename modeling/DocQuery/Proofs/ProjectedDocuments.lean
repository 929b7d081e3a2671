import DocQuery.Proofs.CollationOrder
import DocQuery.Proofs.WireNames

/-! What a projection keeps of a document. A path that is kept leads to the same value in the kept
part as in the document, whatever else is kept, and nothing is kept that the document does not hold. -/

namespace DocQuery

theorem wireKeys_ne_nil (name : String) : wireKeys name ≠ [] := by
  simp [wireKeys, splitDots_eq_splitOn]

theorem Entries.insert_of_get? {α : Type} {entries : Entries α} {key : String} {value : α}
    (found : entries.get? key = some value) : entries.insert key value = entries := by
  induction entries with
  | nil => cases found
  | cons entry rest ih =>
    obtain ⟨name, old⟩ := entry
    by_cases here : name = key
    · simp only [get?, here, if_true, Option.some.injEq] at found
      simp [insert, here, found]
    · simp only [get?, here, if_false] at found
      simp [insert, here, ih found]

namespace Json

def IsObject (document : Json) : Prop := ∃ entries, document = .object entries

theorem isObject_of_get? {document value : Json} {key : String}
    (found : document.get? key = some value) : document.IsObject := by
  cases document with
  | object entries => exact ⟨entries, rfl⟩
  | _ => cases found

theorem lookup?_append (document : Json) (path further : List String) :
    document.lookup? (path ++ further) = (document.lookup? path).bind (·.lookup? further) := by
  induction path generalizing document with
  | nil => rfl
  | cons key rest ih =>
    simp only [List.cons_append, lookup?, Option.bind_assoc]
    congr 1
    funext child
    exact ih child

theorem insertPath_cons_cons (value : Json) (key next : String) (rest : List String)
    (entries : Entries Json) :
    insertPath value (key :: next :: rest) entries =
      match entries.get? key with
      | none => entries.insert key (.object (insertPath value (next :: rest) []))
      | some (.object inner) => entries.insert key (.object (insertPath value (next :: rest) inner))
      | some _ => entries := rfl

/-- The entries on the way to a value that is put into them: those under other keys stay. -/
theorem get?_insertPath (value : Json) (key : String) (rest : List String) (entries : Entries Json)
    {other : String} (apart : key ≠ other) :
    (insertPath value (key :: rest) entries).get? other = entries.get? other := by
  cases rest with
  | nil => rw [insertPath, Entries.get?_insert, if_neg apart]
  | cons next rest =>
    rw [insertPath_cons_cons]
    split
    · rw [Entries.get?_insert, if_neg apart]
    · rw [Entries.get?_insert, if_neg apart]
    · rfl

/-- Under its own key the entries get the value itself, or an object with it further down. What is
no object there is left alone. -/
theorem get?_insertPath_self (value : Json) (key : String) (rest : List String)
    (entries : Entries Json) :
    (insertPath value (key :: rest) entries).get? key =
      match rest, entries.get? key with
      | [], _ => some value
      | rest, none => some (.object (insertPath value rest []))
      | rest, some (.object inner) => some (.object (insertPath value rest inner))
      | _, some other => some other := by
  cases rest with
  | nil => rw [insertPath, Entries.get?_insert, if_pos rfl]
  | cons next rest =>
    rw [insertPath_cons_cons]
    cases held : entries.get? key with
    | none => simp [Entries.get?_insert]
    | some old => cases old <;> simp [Entries.get?_insert, held]

/-- Putting a value where it is already changes nothing. -/
theorem insertPath_of_lookup? {path : List String} {entries : Entries Json} {value : Json}
    (found : (Json.object entries).lookup? path = some value) :
    insertPath value path entries = entries := by
  induction path generalizing entries with
  | nil => rfl
  | cons key rest ih =>
    obtain ⟨child, held, further⟩ := Option.bind_eq_some_iff.mp found
    have held : entries.get? key = some child := held
    cases rest with
    | nil =>
      cases further
      exact Entries.insert_of_get? held
    | cons next rest =>
      obtain ⟨_, below, _⟩ := Option.bind_eq_some_iff.mp further
      obtain ⟨inner, rfl⟩ := isObject_of_get? below
      rw [insertPath_cons_cons, held]
      simp only
      rw [ih further]
      exact Entries.insert_of_get? held

/-- Whatever a document and a part of it have in common along a path, they still have after another
piece of the document has been put into the part. -/
theorem lookup?_insertPath_of_eq {document value : Json} {path other : List String}
    {entries : Entries Json} (found : document.lookup? path = some value)
    (same : (Json.object entries).lookup? other = document.lookup? other) :
    (Json.object (insertPath value path entries)).lookup? other = document.lookup? other := by
  induction path generalizing document entries other with
  | nil => exact same
  | cons key rest ih =>
    obtain ⟨child, held, further⟩ := Option.bind_eq_some_iff.mp found
    cases other with
    | nil =>
      -- The part is the whole document, so the piece is in it already.
      cases Option.some.inj same
      rw [insertPath_of_lookup? found]
    | cons name below =>
      by_cases apart : key = name
      · subst apart
        have step : document.lookup? (key :: below) = child.lookup? below := by
          rw [lookup?, held, Option.bind_some]
        rw [step] at same ⊢
        rw [lookup?, get?, get?_insertPath_self]
        rw [lookup?, get?] at same
        cases rest with
        | nil =>
          cases further
          rfl
        | cons next rest =>
          cases inside : entries.get? key with
          | none =>
            rw [inside, Option.bind_none] at same
            refine ih further ?_
            rw [← same]
            cases below with
            | nil => cases same
            | cons _ _ => rfl
          | some old =>
            rw [inside, Option.bind_some] at same
            cases old with
            | object inner => exact ih further same
            | _ => exact same
      · have kept := get?_insertPath value key rest entries apart
        rw [lookup?, get?, kept]
        exact same

/-- A part holds nothing that the document does not hold: where one of its paths leads, the document
has the same value, or both have an object. -/
def Within (part document : Json) : Prop :=
  ∀ key rest value, part.lookup? (key :: rest) = some value →
    ∃ held, document.lookup? (key :: rest) = some held ∧
      (value = held ∨ value.IsObject ∧ held.IsObject)

theorem within_empty (document : Json) : (Json.object []).Within document :=
  fun _ _ _ found => nomatch found

theorem Within.child {document part child inner : Json} {key : String} (within : part.Within document)
    (inside : part.get? key = some inner) (held : document.get? key = some child) :
    inner.Within child := by
  intro name rest value found
  have whole : part.lookup? (key :: name :: rest) = some value := by
    rw [lookup?, inside]
    exact found
  have further := within key (name :: rest) value whole
  rw [lookup?, held] at further
  exact further

/-- What a part has in the place of an object of the document is an object too. -/
theorem Within.isObject {document part child inner : Json} {key : String}
    (within : part.Within document) (inside : part.get? key = some inner)
    (held : document.get? key = some child) (objects : child.IsObject) : inner.IsObject := by
  have here : part.lookup? [key] = some inner := by
    rw [lookup?, inside]
    rfl
  obtain ⟨other, found, same | both⟩ := within key [] inner here
  · rw [lookup?, held] at found
    cases found
    exact same ▸ objects
  · exact both.1

theorem lookup?_insertPath {document value : Json} {path : List String} {entries : Entries Json}
    (nonempty : path ≠ []) (found : document.lookup? path = some value)
    (within : (Json.object entries).Within document) :
    (Json.object (insertPath value path entries)).lookup? path = some value := by
  induction path generalizing document entries with
  | nil => contradiction
  | cons key rest ih =>
    obtain ⟨child, held, further⟩ := Option.bind_eq_some_iff.mp found
    rw [lookup?, get?, get?_insertPath_self]
    cases rest with
    | nil => rfl
    | cons next rest =>
      obtain ⟨_, below, _⟩ := Option.bind_eq_some_iff.mp further
      cases inside : entries.get? key with
      | none => exact ih (by simp) further (within_empty child)
      | some old =>
        obtain ⟨inner, rfl⟩ := within.isObject inside held (isObject_of_get? below)
        exact ih (by simp) further (within.child inside held)

theorem Within.insertPath {document value : Json} {path : List String} {entries : Entries Json}
    (within : (Json.object entries).Within document) (found : document.lookup? path = some value) :
    (Json.object (insertPath value path entries)).Within document := by
  induction path generalizing document entries with
  | nil => exact within
  | cons key rest ih =>
    obtain ⟨child, held, further⟩ := Option.bind_eq_some_iff.mp found
    intro name below value' reached
    by_cases apart : key = name
    · subst apart
      rw [lookup?, get?, get?_insertPath_self] at reached
      rw [lookup?, held, Option.bind_some]
      cases rest with
      | nil =>
        cases further
        exact ⟨value', reached, Or.inl rfl⟩
      | cons next rest =>
        obtain ⟨_, under, _⟩ := Option.bind_eq_some_iff.mp further
        have objects := isObject_of_get? under
        -- One step down the part has an object, of which the same is known as of the whole.
        have down : ∀ inner : Entries Json, (Json.object inner).Within child →
            (Json.object (Json.insertPath value (next :: rest) inner)).lookup? below = some value' →
              ∃ held, child.lookup? below = some held ∧
                (value' = held ∨ value'.IsObject ∧ held.IsObject) := by
          intro inner inside deeper
          cases below with
          | nil => exact ⟨child, rfl, Or.inr ⟨⟨_, (Option.some.inj deeper).symm⟩, objects⟩⟩
          | cons name below => exact ih inside further name below value' deeper
        cases inside : entries.get? key with
        | none =>
          rw [inside] at reached
          exact down [] (within_empty child) reached
        | some old =>
          rw [inside] at reached
          obtain ⟨inner, rfl⟩ := within.isObject inside held objects
          exact down inner (within.child inside held) reached
    · rw [lookup?, get?, get?_insertPath value key rest entries apart] at reached
      exact within name below value' reached

/-- What is known of the kept part after some paths. -/
structure Keeps (document : Json) (paths : List (List String)) (kept : Entries Json) : Prop where
  within : (Json.object kept).Within document
  same : ∀ path ∈ paths, path ≠ [] →
    (Json.object kept).lookup? path = document.lookup? path

theorem Keeps.keepPath {document : Json} {paths : List (List String)} {kept : Entries Json}
    (keeps : Keeps document paths kept) (path : List String) :
    Keeps document (path :: paths) (document.keepPath kept path) := by
  unfold Json.keepPath
  cases found : document.lookup? path with
  | none =>
    refine ⟨keeps.within, fun other member nonempty => ?_⟩
    obtain rfl | earlier := List.mem_cons.mp member
    · rw [found, Option.eq_none_iff_forall_ne_some]
      intro value reached
      cases other with
      | nil => contradiction
      | cons key rest =>
        obtain ⟨held, present, _⟩ := keeps.within key rest value reached
        rw [found] at present
        cases present
    · exact keeps.same other earlier nonempty
  | some value =>
    refine ⟨keeps.within.insertPath found, fun other member nonempty => ?_⟩
    obtain rfl | earlier := List.mem_cons.mp member
    · rw [found]
      exact lookup?_insertPath nonempty found keeps.within
    · exact lookup?_insertPath_of_eq found (keeps.same other earlier nonempty)

theorem keeps_project (document : Json) (paths : List (List String)) :
    Keeps document paths (paths.foldl document.keepPath []) := by
  have loop : ∀ (later earlier : List (List String)) (kept : Entries Json), Keeps document earlier kept →
      Keeps document (later.reverse ++ earlier) (later.foldl document.keepPath kept) := by
    intro later
    induction later with
    | nil => exact fun _ _ keeps => keeps
    | cons path rest ih =>
      intro earlier kept keeps
      simpa using ih (path :: earlier) _ (keeps.keepPath path)
  obtain ⟨within, same⟩ := loop paths [] [] ⟨within_empty document, nofun⟩
  exact ⟨within, fun path member => same path (by simpa using member)⟩

/-- A path that goes on from a kept one leads to the same value as in the document. -/
theorem lookup?_project {document : Json} {paths : List (List String)} {path kept : List String}
    (member : kept ∈ paths) (nonempty : kept ≠ []) (onward : kept <+: path) :
    (document.project paths).lookup? path = document.lookup? path := by
  obtain ⟨further, rfl⟩ := onward
  have same := (keeps_project document paths).same kept member nonempty
  rw [lookup?_append, lookup?_append]
  exact congrArg (fun found => found.bind (·.lookup? further)) same

theorem entriesHaveOnlyWords_insert {entries : Entries Json} {value : Json} (key : String)
    (all : entriesHaveOnlyWords entries) (words : value.hasOnlyWords) :
    entriesHaveOnlyWords (entries.insert key value) := by
  induction entries with
  | nil => simpa [Entries.insert, entriesHaveOnlyWords] using words
  | cons entry rest ih =>
    obtain ⟨name, old⟩ := entry
    simp only [entriesHaveOnlyWords, Bool.and_eq_true] at all
    by_cases here : name = key <;>
      simp [Entries.insert, here, entriesHaveOnlyWords, words, all.1, all.2, ih all.2]

theorem entriesHaveOnlyWords_insertPath {entries : Entries Json} {value : Json} (path : List String)
    (all : entriesHaveOnlyWords entries) (words : value.hasOnlyWords) :
    entriesHaveOnlyWords (insertPath value path entries) := by
  induction path generalizing entries with
  | nil => exact all
  | cons key rest ih =>
    cases rest with
    | nil => exact entriesHaveOnlyWords_insert key all words
    | cons next rest =>
      rw [insertPath_cons_cons]
      split
      · have fresh : entriesHaveOnlyWords [] := rfl
        exact entriesHaveOnlyWords_insert key all (ih fresh)
      next inner held =>
        have whole : (Json.object entries).hasOnlyWords := all
        have inside : (Json.object inner).hasOnlyWords := hasOnlyWords_of_get? whole held
        exact entriesHaveOnlyWords_insert key all (ih inside)
      · exact all

theorem HasWordsAt.insertPath {document value : Json} {entries : Entries Json}
    {path other : List String} (words : document.HasWordsAt path)
    (kept : (Json.object entries).HasWordsAt path) (found : document.lookup? other = some value) :
    (Json.object (insertPath value other entries)).HasWordsAt path := by
  induction path generalizing document entries other with
  | nil =>
    intro part reached
    cases reached
    exact entriesHaveOnlyWords_insertPath other (kept _ rfl)
      (hasOnlyWords_of_lookup? (words _ rfl) found)
  | cons key path ih =>
    cases other with
    | nil => exact kept
    | cons name rest =>
      by_cases apart : name = key
      · subst apart
        obtain ⟨child, held, further⟩ := Option.bind_eq_some_iff.mp found
        have below : child.HasWordsAt path := by
          intro part reached
          refine words part ?_
          rw [lookup?, held]
          exact reached
        intro part reached
        rw [lookup?, get?, get?_insertPath_self] at reached
        cases rest with
        | nil =>
          cases further
          exact below part reached
        | cons next rest =>
          cases inside : entries.get? name with
          | none =>
            rw [inside] at reached
            have empty : (Json.object []).HasWordsAt path := by
              intro part reached
              cases path with
              | nil => cases reached; rfl
              | cons => cases reached
            exact ih below empty further part reached
          | some old =>
            have deeper : old.HasWordsAt path := by
              intro part reached
              refine kept part ?_
              rw [lookup?, get?, inside]
              exact reached
            rw [inside] at reached
            cases old with
            | object inner => exact ih below deeper further part reached
            | _ => exact deeper part reached
      · intro part reached
        rw [lookup?, get?, get?_insertPath value name rest entries apart] at reached
        exact kept part reached

/-- A projection puts no number where there was none. -/
theorem HasWordsAt.project {document : Json} {path : List String} (words : document.HasWordsAt path)
    (paths : List (List String)) : (document.project paths).HasWordsAt path := by
  have loop : ∀ kept : Entries Json, (Json.object kept).HasWordsAt path →
      (Json.object (paths.foldl document.keepPath kept)).HasWordsAt path := by
    induction paths with
    | nil => exact fun _ known => known
    | cons next rest ih =>
      intro kept known
      refine ih _ ?_
      unfold keepPath
      split
      next value found => exact words.insertPath known found
      next => exact known
  refine loop [] ?_
  intro part reached
  cases path with
  | nil => cases reached; rfl
  | cons => cases reached

end Json
end DocQuery
