import DocQuery.Json.Path
import DocQuery.Value.Basic

/-! Documents and their values correspond: a path leads to the value of what it leads to in the
document, and a value that a request can carry comes back as it was. -/

namespace DocQuery.Value

theorem ofItems_eq_map (items : List Json) : ofItems items = items.map ofJson := by
  induction items with
  | nil => rfl
  | cons item rest ih => simp [ofItems, ih]

theorem get?_ofEntries (entries : Entries Json) (key : String) :
    Entries.get? (ofEntries entries) key = (Entries.get? entries key).map ofJson := by
  induction entries with
  | nil => rfl
  | cons entry rest ih =>
    obtain ⟨name, value⟩ := entry
    by_cases found : name = key <;> simp [ofEntries, Entries.get?, found, ih]

theorem get?_ofJson (document : Json) (key : String) :
    (ofJson document).get? key = (document.get? key).map ofJson := by
  cases document with
  | integer i => simp only [ofJson]; split <;> rfl
  | object entries => exact get?_ofEntries entries key
  | _ => rfl

theorem lookup?_ofJson (keys : List String) (document : Json) :
    (ofJson document).lookup? keys = (document.lookup? keys).map ofJson := by
  induction keys generalizing document with
  | nil => rfl
  | cons key rest ih =>
    simp only [lookup?, Json.lookup?, get?_ofJson]
    cases document.get? key with
    | none => rfl
    | some child => exact ih child

theorem asList?_ofJson (document : Json) :
    (ofJson document).asList? = document.asArray?.map (·.map ofJson) := by
  cases document with
  | integer i => simp only [ofJson]; split <;> rfl
  | array items => simp [ofJson, asList?, Json.asArray?, ofItems_eq_map]
  | _ => rfl

theorem asString?_ofJson (document : Json) : (ofJson document).asString? = document.asString? := by
  cases document with
  | integer i => simp only [ofJson]; split <;> rfl
  | _ => rfl

theorem isNull_ofJson (document : Json) : (ofJson document).isNull = document.isNull := by
  cases document with
  | integer i => simp only [ofJson]; split <;> rfl
  | _ => rfl

mutual

/-- Whether every number in a value is finite, as in every value that a request can carry. -/
def isFinite : Value → Bool
  | .float x => x.isFinite
  | .list items => areFinite items
  | .map entries => entriesAreFinite entries
  | _ => true
termination_by structural value => value

def areFinite : List Value → Bool
  | [] => true
  | item :: rest => item.isFinite && areFinite rest
termination_by structural items => items

def entriesAreFinite : List (String × Value) → Bool
  | [] => true
  | (_, value) :: rest => value.isFinite && entriesAreFinite rest
termination_by structural entries => entries

end

theorem areFinite_iff {values : List Value} :
    areFinite values = true ↔ ∀ value ∈ values, value.isFinite = true := by
  induction values with
  | nil => simp [areFinite]
  | cons value rest ih => simp [areFinite, ih]

theorem fitsInt64_toInt (i : Int64) : fitsInt64 i.toInt = true := by
  have low := i.le_toInt
  have high := i.toInt_lt
  rw [fitsInt64_iff, leastInt64]
  omega

theorem toInt_ofInt_of_fitsInt64 {i : Int} (fits : fitsInt64 i) : (Int64.ofInt i).toInt = i := by
  obtain ⟨low, high⟩ := fitsInt64_iff.mp fits
  exact Int64.toInt_ofInt_of_le low high

mutual

theorem ofJson_toJson (value : Value) (finite : value.isFinite) : ofJson value.toJson = value :=
  match value with
  | .null | .bool _ | .string _ => rfl
  | .int i => by simp [toJson, ofJson, fitsInt64_toInt]
  | .float x => by
    have real : x.isFinite = true := finite
    simp [toJson, ofJson, real]
  | .list items => by
    simp only [toJson, ofJson]
    rw [ofItems_toItems items finite]
  | .map entries => by
    simp only [toJson, ofJson]
    rw [ofEntries_toEntries entries finite]
termination_by structural value

theorem ofItems_toItems (items : List Value) (finite : areFinite items) :
    ofItems (toItems items) = items :=
  match items with
  | [] => rfl
  | item :: rest => by
    simp only [areFinite, Bool.and_eq_true] at finite
    simp only [toItems, ofItems]
    rw [ofJson_toJson item finite.1, ofItems_toItems rest finite.2]
termination_by structural items

theorem ofEntries_toEntries (entries : List (String × Value)) (finite : entriesAreFinite entries) :
    ofEntries (toEntries entries) = entries :=
  match entries with
  | [] => rfl
  | (key, value) :: rest => by
    simp only [entriesAreFinite, Bool.and_eq_true] at finite
    simp only [toEntries, ofEntries]
    rw [ofJson_toJson value finite.1, ofEntries_toEntries rest finite.2]
termination_by structural entries

end

end DocQuery.Value
