import DocQuery.Text.CharSet

/-!
Regular expressions over characters, and whether a text has a part that one describes.

Matching follows all ways through a pattern at once: from a set of places in the text it computes
the places where a match that starts there can end.
-/

namespace DocQuery

inductive Pattern where
  | empty
  /-- One character of a set. -/
  | one (set : Text.CharSet)
  /-- A place in the text, by the characters before and after it. -/
  | place (holds : Option Char → Option Char → Bool)
  | append (first second : Pattern)
  | either (first second : Pattern)
  | repeated (body : Pattern) (least : Nat) (most : Option Nat)
  /-- A part whose place in the text could be asked for. It describes what its body describes. -/
  | group (body : Pattern)

namespace Pattern

/-- Merges two rising lists of places. -/
def merge : List Nat → List Nat → List Nat
  | [], others => others
  | places, [] => places
  | a :: as, b :: bs =>
    if a < b then a :: merge as (b :: bs)
    else if b < a then b :: merge (a :: as) bs
    else a :: merge as bs

/-- The places of a rising list that are not in another one. -/
def without : List Nat → List Nat → List Nat
  | [], _ => []
  | places, [] => places
  | a :: as, b :: bs =>
    if a < b then a :: without as (b :: bs)
    else if b < a then without (a :: as) bs
    else without as bs

/-- Applies a step a number of times, or until it changes nothing. -/
def iterate (step : List Nat → List Nat) : Nat → List Nat → List Nat
  | 0, places => places
  | count + 1, places =>
    let next := step places
    if next = places then places else iterate step count next

/-- Applies a step up to a number of times and collects every place on the way. Only the places
found last are followed, since the others have been followed before. -/
def collect (step : List Nat → List Nat) : Nat → List Nat → List Nat → List Nat
  | 0, _, places => places
  | count + 1, newest, places =>
    let found := without (step newest) places
    if found.isEmpty then places else collect step count found (merge places found)

/-- The places where matches from the given places can end. -/
def ends (text : Array Char) : Pattern → List Nat → List Nat
  | .empty, starts => starts
  | .one set, starts => starts.filterMap fun i =>
      match text[i]? with
      | some c => if set.contains c then some (i + 1) else none
      | none => none
  | .place holds, starts => starts.filter fun i =>
      holds (if i = 0 then none else text[i - 1]?) text[i]?
  | .append first second, starts => second.ends text (first.ends text starts)
  | .either first second, starts => merge (first.ends text starts) (second.ends text starts)
  | .repeated body least most, starts =>
    let step := body.ends text
    let first := iterate step least starts
    match most with
    | some most => collect step (most - least) first first
    | none => collect step (text.size + 1) first first
  | .group body, starts => body.ends text starts

/-- Whether some part of a text, anywhere in it, is described by the pattern. -/
def occursIn (pattern : Pattern) (text : String) : Bool :=
  let characters := text.toList.toArray
  !(pattern.ends characters (List.range (characters.size + 1))).isEmpty

/-- Whether a repetition allows no bounds but none, one and any number. -/
def isPlain (least : Nat) (most : Option Nat) : Bool :=
  least ≤ 1 && (most.isNone || most == some 1)

/-- A repetition. A plain repetition of a plain one is one repetition: it needs its body only if both
do, and allows any number if one of them does. -/
def repeatOf (body : Pattern) (least : Nat) (most : Option Nat) : Pattern :=
  match body with
  | .repeated inner innerLeast innerMost =>
    if isPlain least most && isPlain innerLeast innerMost then
      .repeated inner (least * innerLeast)
        (if most.isNone || innerMost.isNone then none else some 1)
    else .repeated body least most
  | _ => .repeated body least most

/-- A pattern that describes the same without groups and without stacks of repetitions, so that
repetitions of repetitions do not multiply the work of matching. -/
def flatten : Pattern → Pattern
  | .append first second => .append first.flatten second.flatten
  | .either first second => .either first.flatten second.flatten
  | .repeated body least most => repeatOf body.flatten least most
  | .group body => body.flatten
  | other => other

end Pattern
end DocQuery
