import DocQuery.Pattern.Basic
import DocQuery.Text.Encoding

/-!
The size of the automaton of a pattern, in bytes. Patterns with counted repetitions can be short and
yet ask for large automata, so that there is a limit. A pattern has an automaton for each direction
of reading a text, and both have to keep the limit.
-/

namespace DocQuery.Pattern
open Text

inductive Direction where
  | forward | backward
deriving DecidableEq

/-- The size of one state. -/
def stateSize : Nat := 32

/-- The size of the part that reads one character of a set. Sets beyond ASCII are read byte by
byte. -/
def setSize (direction : Direction) (set : CharSet) : Nat :=
  let sequences := Encoding.sequences set
  if set.isEmpty then stateSize
  else if set.size = 1 then stateSize * (sequences.head?.map List.length).getD 0
  else if set.isAscii then 2 * stateSize + 8 * set.ranges.size
  else
    let branches := Encoding.branches [] sequences
    match direction with
    | .forward => stateSize * (branches + 2 - sequences.length) + 8 * branches
    | .backward => stateSize * (branches + 2) + 4 * sequences.length

/-- Whether a pattern describes the empty text only. -/
def onlyEmpty : Pattern → Bool
  | .empty | .place _ => true
  | .one _ => false
  | .append first second | .either first second => first.onlyEmpty && second.onlyEmpty
  | .repeated body _ most => body.onlyEmpty || most == some 0
  | .group body => body.onlyEmpty

/-- Whether a pattern can describe the empty text. -/
def canBeEmpty : Pattern → Bool
  | .empty | .place _ => true
  | .one _ => false
  | .append first second => first.canBeEmpty && second.canBeEmpty
  | .either first second => first.canBeEmpty || second.canBeEmpty
  | .repeated body least _ => least == 0 || body.canBeEmpty
  | .group body => body.canBeEmpty

/-- The set of a choice between single characters only. -/
def charsOf? : Pattern → Option CharSet
  | .one set => if set.size = 1 then some set else none
  | .either first second => do return (← first.charsOf?).union (← second.charsOf?)
  | _ => none

/-- The set of a choice between sets of several characters only. -/
def setsOf? : Pattern → Option CharSet
  | .one set => if set.size = 1 then none else some set
  | .either first second => do return (← first.setsOf?).union (← second.setsOf?)
  | _ => none

/-- What a part stands in. -/
inductive Place where
  | sequence | choice | other
deriving DecidableEq

/-- What a way out of a choice costs. -/
def exitSize : Nat := 4

/-- The size of a repetition of a body. -/
def repeatedSize (size : Nat) (canBeEmpty : Bool) : Nat → Option Nat → Nat
  | 0, some 0 => stateSize
  | 0, some 1 => size + 72
  | 0, none => size + (if canBeEmpty then 112 else 40)
  | least + 1, none => (least + 1) * size + 40
  | 0, some most => 2 * stateSize + most * (size + 40)
  | least + 1, some most =>
    if most = least + 1 then most * size
    else (least + 1) * size + stateSize + (most - (least + 1)) * (size + 40)

/-- The size of a part. Empty parts of a sequence cost nothing, and the ways of a choice are counted
where the choice begins. -/
def sizeIn (direction : Direction) (around : Place) : Pattern → Nat
  | .empty => if around = .sequence then 0 else stateSize + (if around = .choice then exitSize else 0)
  | .one set => setSize direction set + (if around = .choice then exitSize else 0)
  | .place _ => stateSize + (if around = .choice then exitSize else 0)
  | .append first second =>
    let total := first.sizeIn direction .sequence + second.sizeIn direction .sequence
    if around = .sequence then total
    else max stateSize total + (if around = .choice then exitSize else 0)
  | .either first second =>
    let total := first.sizeIn direction .choice + second.sizeIn direction .choice
    if around = .choice then total
    else
      match charsOf? (.either first second) <|> setsOf? (.either first second) with
      | some set => setSize direction set
      | none => 2 * stateSize + total
  | .repeated body least most =>
    let size := body.sizeIn direction .other
    let once := if body.onlyEmpty then 1 else least
    let total := repeatedSize size body.canBeEmpty (min least once)
      (if body.onlyEmpty then some (min (most.getD 1) 1) else most)
    total + (if around = .choice then exitSize else 0)
  | .group body =>
    (if direction = .forward then 2 * stateSize else 0) + body.sizeIn direction .other +
      (if around = .choice then exitSize else 0)

/-- The greatest size of an automaton. -/
def sizeLimit : Nat := 10485760

/-- Whether the automata keep the limit, with the states around the pattern. -/
def fits (pattern : Pattern) : Bool :=
  pattern.sizeIn .forward .other + 240 ≤ sizeLimit &&
    pattern.sizeIn .backward .other + 176 ≤ sizeLimit

end DocQuery.Pattern
