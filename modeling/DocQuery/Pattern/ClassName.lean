import DocQuery.Text.Age
import DocQuery.Text.Boundary
import DocQuery.Text.ScriptExtension

/-!
The names of sets of characters. A name stands for a property, for a category or for a script, or it
gives a property and one of its values.
-/

namespace DocQuery.Pattern.ClassName
open Text

/-- A name in plain form: small letters of ASCII, without blanks, hyphens and underscores and without
the word `is` at its start. A lone `c` keeps that word, which is a part of another name there. -/
def plain (name : List Char) : String :=
  let hasIs := (name.take 2).map Char.toLower == ['i', 's']
  let letters := (if hasIs then name.drop 2 else name).filter fun c =>
    decide (c.toNat < 128) && c != ' ' && c != '-' && c != '_'
  let small := letters.map Char.toLower
  if hasIs && small == ['c'] then "isc" else String.ofList small

def find? (name : String) (entries : List (List String × CharSet)) :
    Option (List String × CharSet) :=
  entries.find? fun (names, _) => names.contains name

/-- The set that a name in plain form stands for: a property, a category or a script. -/
def ofName? (name : String) : Option CharSet :=
  ((find? name Property.named <|> find? name Category.named) <|> find? name Script.named).map (·.2)

/-- The set of the characters whose property has a value, both in plain form. -/
def ofValue? (property value : String) : Option CharSet :=
  match property with
  | "gc" | "generalcategory" => (find? value Category.named).map (·.2)
  | "sc" | "script" => (find? value Script.named).map (·.2)
  | "scx" | "scriptextensions" =>
    (find? value Script.named).map fun (names, own) => Script.used names own
  | "age" => Age.named? value
  | "gcb" | "graphemeclusterbreak" => (find? value Boundary.Cluster.named).map (·.2)
  | "wb" | "wordbreak" => (find? value Boundary.Word.named).map (·.2)
  | "sb" | "sentencebreak" => (find? value Boundary.Sentence.named).map (·.2)
  | _ => none

/-- Cuts a list at the first place where a mark stands, and leaves out the mark. -/
def cut? (mark : List Char) : List Char → Option (List Char × List Char)
  | [] => none
  | c :: rest =>
    if mark.isPrefixOf (c :: rest) then some ([], (c :: rest).drop mark.length)
    else (cut? mark rest).map fun (before, after) => (c :: before, after)

/-- The set that a written name stands for, and whether the name asks for all other characters. A
value follows its property after `!=`, a colon or an equals sign. -/
def resolve? (written : List Char) : Option (CharSet × Bool) :=
  match cut? ['!', '='] written with
  | some (property, value) => (ofValue? (plain property) (plain value)).map (·, true)
  | none =>
    match cut? [':'] written <|> cut? ['='] written with
    | some (property, value) => (ofValue? (plain property) (plain value)).map (·, false)
    | none => (ofName? (plain written)).map (·, false)

/-- The sets of ASCII characters that have a name between brackets. -/
def bracketed? (name : String) : Option CharSet :=
  match name with
  | "alnum" => some (CharSet.parse "30-39 41-5a 61-7a")
  | "alpha" => some (CharSet.parse "41-5a 61-7a")
  | "ascii" => some CharSet.ascii
  | "blank" => some (CharSet.parse "9 20")
  | "cntrl" => some (CharSet.parse "0-1f 7f")
  | "digit" => some (CharSet.parse "30-39")
  | "graph" => some (CharSet.parse "21-7e")
  | "lower" => some (CharSet.parse "61-7a")
  | "print" => some (CharSet.parse "20-7e")
  | "punct" => some (CharSet.parse "21-2f 3a-40 5b-60 7b-7e")
  | "space" => some (CharSet.parse "9-d 20")
  | "upper" => some (CharSet.parse "41-5a")
  | "word" => some (CharSet.parse "30-39 41-5a 5f 61-7a")
  | "xdigit" => some (CharSet.parse "30-39 41-46 61-66")
  | _ => none

end DocQuery.Pattern.ClassName
