import DocQuery.Proofs.WireNames
import Mathlib.Logic.Relation

/-! Paths and their texts. A path comes back from its text exactly if none of its segments is empty or hides
a dot. A text comes back from the path that it writes without its empty segments. -/

namespace DocQuery

theorem intercalate_wireKeys (name : String) : ".".intercalate (wireKeys name) = name := by
  apply String.toList_injective
  rw [String.toList_intercalate, wireKeys, List.map_map, splitDots_eq_splitOn]
  simp [Function.comp_def]

/-- A dot separates the segments before it from those after it, whatever these are. -/
theorem wireKeys_append_dot (front rest : String) :
    wireKeys (front ++ "." ++ rest) = wireKeys front ++ wireKeys rest := by
  have split := List.splitOn_append_cons_self (a := '.') front.toList rest.toList
  simp only [wireKeys, splitDots_eq_splitOn, String.toList_append, List.append_assoc]
  rw [← List.map_append, ← split]
  rfl

theorem wireKeys_dot_append (rest : String) : wireKeys ("." ++ rest) = "" :: wireKeys rest := by
  have keys := wireKeys_append_dot "" rest
  rwa [String.empty_append] at keys

theorem wireKeys_append_last (start : String) : wireKeys (start ++ ".") = wireKeys start ++ [""] := by
  have keys := wireKeys_append_dot start ""
  rwa [String.append_empty] at keys

/-- One empty segment less in a text: in front, at the end, or between two dots. -/
inductive DropsSegment : String → String → Prop where
  | front (rest : String) : DropsSegment ("." ++ rest) rest
  | back (start : String) : DropsSegment (start ++ ".") start
  | between (start rest : String) : DropsSegment (start ++ "." ++ "." ++ rest) (start ++ "." ++ rest)

namespace FieldPath

/-- Whether a path can be written as a text without loss. -/
def isWritable (path : FieldPath) : Bool :=
  path.segments.all fun segment => segment != "" && !segment.toList.contains '.'

theorem isWritable_iff {path : FieldPath} :
    path.isWritable ↔ ∀ segment ∈ path.segments, segment ≠ "" ∧ '.' ∉ segment.toList := by
  simp [isWritable]

theorem isWritable_append {path rest : FieldPath} :
    (path.append rest).isWritable ↔ path.isWritable ∧ rest.isWritable := by
  simp [isWritable, append]

theorem wireKeys_render {path : FieldPath} (nonempty : path.segments ≠ []) (writable : path.isWritable) :
    wireKeys path.render = path.segments :=
  wireKeys_intercalate path.segments nonempty fun segment among =>
    (isWritable_iff.mp writable segment among).2

theorem parse_render {path : FieldPath} (writable : path.isWritable) : parse path.render = path := by
  by_cases empty : path.segments = []
  · obtain ⟨segments⟩ := path
    subst empty
    rfl
  · have nonempty : path.segments.filter (· ≠ "") = path.segments := by
      rw [List.filter_eq_self]
      exact fun segment among => decide_eq_true (isWritable_iff.mp writable segment among).1
    rw [parse, wireKeys_render empty writable, nonempty]

theorem isWritable_parse (text : String) : (parse text).isWritable := by
  simp only [isWritable, parse, List.all_eq_true, List.mem_filter, decide_eq_true_eq]
  rintro segment ⟨among, nonempty⟩
  simpa [dotless_of_mem_wireKeys among] using nonempty

theorem parse_render_eq_iff {path : FieldPath} : parse path.render = path ↔ path.isWritable := by
  constructor
  · intro same
    exact same ▸ isWritable_parse path.render
  · exact parse_render

end FieldPath

namespace DropsSegment

variable {text shorter : String}

/-- The empty text has no segment to lose, though its only one is empty. -/
theorem ne_empty (drops : DropsSegment text shorter) : text ≠ "" := by
  cases drops <;> simp

/-- Of the segments of a text just one goes, an empty one. -/
theorem wireKeys_eq (drops : DropsSegment text shorter) :
    ∃ before after, wireKeys text = before ++ "" :: after ∧ wireKeys shorter = before ++ after := by
  cases drops with
  | front rest => exact ⟨[], _, wireKeys_dot_append _, rfl⟩
  | back start => exact ⟨_, [], wireKeys_append_last _, (List.append_nil _).symm⟩
  | between start rest =>
    have keys := wireKeys_append_dot start ("." ++ rest)
    rw [← String.append_assoc, wireKeys_dot_append] at keys
    exact ⟨_, _, keys, wireKeys_append_dot start rest⟩

/-- An empty segment can be dropped wherever it stands among others. -/
theorem intercalate (before after : List String) (others : before ++ after ≠ []) :
    DropsSegment (".".intercalate (before ++ "" :: after)) (".".intercalate (before ++ after)) := by
  by_cases first : before = []
  · subst first
    have rest : after ≠ [] := by simpa using others
    rw [List.nil_append, List.nil_append, String.intercalate_cons_of_ne_nil rest, String.empty_append]
    exact .front _
  by_cases last : after = []
  · subst last
    rw [String.intercalate_append_of_ne_nil first (by simp), String.intercalate_singleton,
      String.append_empty, List.append_nil]
    exact .back _
  · rw [String.intercalate_append_of_ne_nil first (by simp), String.intercalate_append_of_ne_nil first last,
      String.intercalate_cons_of_ne_nil last, String.empty_append, ← String.append_assoc]
    exact .between _ _

/-- The path that a text writes is left as it is. -/
theorem parse_eq (drops : DropsSegment text shorter) : FieldPath.parse text = FieldPath.parse shorter := by
  obtain ⟨before, after, keys, fewer⟩ := drops.wireKeys_eq
  simp [FieldPath.parse, keys, fewer]

end DropsSegment

namespace FieldPath

open Relation (ReflTransGen)

/-- Of the segments that come after some others the empty ones can be dropped, the first of them first. -/
theorem reaches_filter (before after : List String) :
    ReflTransGen DropsSegment (".".intercalate (before ++ after))
      (".".intercalate (before ++ after.filter (· ≠ ""))) := by
  induction after generalizing before with
  | nil => exact .refl
  | cons segment rest ih =>
    by_cases empty : segment = ""
    · subst empty
      have later := ih before
      rw [List.filter_cons_of_neg (by simp)]
      by_cases others : before ++ rest = []
      · obtain ⟨rfl, rfl⟩ := List.append_eq_nil_iff.mp others
        exact .refl
      · exact later.head (.intercalate before rest others)
    · have later := ih (before ++ [segment])
      rw [List.filter_cons_of_pos (by simpa using empty)]
      simpa using later

theorem reaches_render_parse (text : String) :
    ReflTransGen DropsSegment text (parse text).render := by
  have reaches := reaches_filter [] (wireKeys text)
  rw [List.nil_append, List.nil_append, intercalate_wireKeys] at reaches
  exact reaches

theorem not_dropsSegment_render {path : FieldPath} (writable : path.isWritable) (shorter : String) :
    ¬DropsSegment path.render shorter := by
  intro drops
  by_cases none : path.segments = []
  · have empty : path.render = "" := by rw [render, none, String.intercalate_nil]
    exact drops.ne_empty empty
  · obtain ⟨before, after, keys, -⟩ := drops.wireKeys_eq
    rw [wireKeys_render none writable] at keys
    have among : "" ∈ path.segments := by simp [keys]
    exact (isWritable_iff.mp writable "" among).1 rfl

theorem parse_eq_of_reaches {text shorter : String} (reaches : ReflTransGen DropsSegment text shorter) :
    parse text = parse shorter := by
  induction reaches with
  | refl => rfl
  | tail _ drops ih => exact ih.trans drops.parse_eq

/-- What a path writes is what is left of its text once no empty segment is left to drop. -/
theorem render_parse_eq_iff {text printed : String} :
    (parse text).render = printed ↔
      ReflTransGen DropsSegment text printed ∧ ∀ shorter, ¬DropsSegment printed shorter := by
  constructor
  · rintro rfl
    exact ⟨reaches_render_parse text, not_dropsSegment_render (isWritable_parse text)⟩
  · rintro ⟨reaches, settled⟩
    rw [parse_eq_of_reaches reaches]
    obtain same | ⟨shorter, drops, _⟩ := (reaches_render_parse printed).cases_head
    · exact same.symm
    · exact absurd drops (settled shorter)

/-- Paths and their texts, however a path is built. It comes back from its text exactly if each of its
segments can stand between dots, and every path that is read from a text does. What such a path writes is
the text without its empty segments: they can be dropped one by one, in any order, until none is left. -/
theorem text_round_trip :
    (∀ path : FieldPath, parse path.render = path ↔
      ∀ segment ∈ path.segments, segment ≠ "" ∧ '.' ∉ segment.toList) ∧
    (∀ path rest : FieldPath, parse (path.append rest).render = path.append rest ↔
      parse path.render = path ∧ parse rest.render = rest) ∧
    (∀ (path : FieldPath) (member : String), parse (path.child member).render = path.child member ↔
      parse path.render = path ∧ member ≠ "" ∧ '.' ∉ member.toList) ∧
    ∀ text : String,
      (∀ segment ∈ (parse text).segments, segment ≠ "" ∧ '.' ∉ segment.toList) ∧
      parse (parse text).render = parse text ∧
      ∀ printed, (parse text).render = printed ↔
        ReflTransGen DropsSegment text printed ∧ ∀ shorter, ¬DropsSegment printed shorter := by
  have appended : ∀ path rest : FieldPath, parse (path.append rest).render = path.append rest ↔
      parse path.render = path ∧ parse rest.render = rest := by
    intro path rest
    rw [parse_render_eq_iff, parse_render_eq_iff, parse_render_eq_iff, isWritable_append]
  refine ⟨fun path => parse_render_eq_iff.trans isWritable_iff, appended, fun path member => ?_, fun text => ?_⟩
  · have single : parse (FieldPath.mk [member]).render = ⟨[member]⟩ ↔ member ≠ "" ∧ '.' ∉ member.toList := by
      rw [parse_render_eq_iff, isWritable_iff]
      simp
    exact (appended path ⟨[member]⟩).trans (and_congr_right' single)
  · have writable := isWritable_parse text
    exact ⟨isWritable_iff.mp writable, parse_render writable, fun printed => render_parse_eq_iff⟩

/-- The name of an owner comes back as a path of two members; as one member with a dot in it it does not. -/
theorem text_round_trip_owner :
    let path : FieldPath := ⟨["Owner", "Name"]⟩
    let joined : FieldPath := ⟨["Owner.Name"]⟩
    (∀ segment ∈ path.segments, segment ≠ "" ∧ '.' ∉ segment.toList) ∧ parse path.render = path ∧
      parse joined.render ≠ joined ∧ ReflTransGen DropsSegment ".Owner..Name." "Owner.Name" := by
  intro path joined
  have proper : ∀ segment ∈ path.segments, segment ≠ "" ∧ '.' ∉ segment.toList := by decide
  refine ⟨proper, (text_round_trip.1 path).mpr proper, fun same => ?_, ?_⟩
  · have dotless := (text_round_trip.1 joined).mp same "Owner.Name" (List.mem_singleton.mpr rfl)
    exact dotless.2 (by decide)
  · have printed : (parse ".Owner..Name.").render = "Owner.Name" := by decide
    exact ((text_round_trip.2.2.2 ".Owner..Name.").2.2 "Owner.Name").mp printed |>.1

end FieldPath
end DocQuery
