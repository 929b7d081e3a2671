import DocQuery.Pattern.ClassName
import DocQuery.Text.CaseFold

/-!
Classes of characters as patterns write them, and the sets they stand for under the flags in force.

Disregard of case adds the variants of letters to a class before the class is negated. Without the
characters beyond ASCII, a class that would hold one of them stands for nothing.
-/

namespace DocQuery.Pattern
open Text

/-- The flags that decide what the parts of a pattern stand for. -/
structure Flags where
  ignoreCase : Bool := false
  multiLine : Bool := false
  dotAll : Bool := false
  crlf : Bool := false
  unicode : Bool := true

/-- A character of a pattern, and whether it is written by the two digits of a byte. -/
structure Letter where
  char : Char
  byByte : Bool := false

/-- The classes that have an escape of one letter. -/
inductive Shorthand where
  | digit | blank | word

/-- The characters of words: letters, marks, digits, connectors and joiners. -/
def wordChars : CharSet :=
  CharSet.unionOf [Property.alphabetic, Category.mark, Category.decimalNumber,
    Category.connectorPunctuation, Property.joinControl]

def asciiWordChars : CharSet := CharSet.parse "30-39 41-5a 5f 61-7a"

/-- The set of a shorthand, of all scripts or of ASCII. -/
def Shorthand.set (unicode : Bool) : Shorthand → CharSet
  | .digit => if unicode then Category.decimalNumber else CharSet.parse "30-39"
  | .blank => if unicode then Property.whiteSpace else CharSet.parse "9-d 20"
  | .word => if unicode then wordChars else asciiWordChars

inductive SetOperator where
  | intersection | difference | symmetricDifference

def SetOperator.apply : SetOperator → CharSet → CharSet → CharSet
  | .intersection => CharSet.intersection
  | .difference => CharSet.difference
  | .symmetricDifference => CharSet.symmetricDifference

inductive CharClass where
  | nothing
  | letter (letter : Letter)
  | range (first last : Letter)
  /-- A set of ASCII characters with a name between brackets. -/
  | ascii (set : CharSet) (negated : Bool)
  | shorthand (kind : Shorthand) (negated : Bool)
  /-- A set with a name of the character standard. -/
  | property (set : CharSet) (negated : Bool)
  | union (first second : CharClass)
  | combined (operator : SetOperator) (left right : CharClass)
  | bracketed (body : CharClass) (negated : Bool)

namespace CharClass

/-- A class of several members, in their order. -/
def unionOf : List CharClass → CharClass
  | [] => .nothing
  | [only] => only
  | first :: rest => .union first (unionOf rest)

/-- How deep brackets and operators nest. The members of a union count once. -/
def depthIn (inUnion : Bool) : CharClass → Nat
  | .union first second =>
    (if inUnion then 0 else 1) + max (first.depthIn true) (second.depthIn true)
  | .combined _ left right => 1 + max (left.depthIn false) (right.depthIn false)
  | .bracketed body _ => 1 + body.depthIn false
  | _ => 0

def withCase (flags : Flags) (set : CharSet) : CharSet :=
  if flags.ignoreCase then
    if flags.unicode then CaseFold.close set else CaseFold.closeAscii set
  else set

/-- The set, unless it holds characters that the flags exclude. -/
def allowed? (flags : Flags) (set : CharSet) : Option CharSet :=
  if flags.unicode || set.isAscii then some set else none

/-- The set with the variants of its letters, or all other characters. -/
def finish? (flags : Flags) (negated : Bool) (set : CharSet) : Option CharSet :=
  let cased := withCase flags set
  allowed? flags (if negated then cased.complement else cased)

/-- The set that a class stands for. -/
def set? (flags : Flags) : CharClass → Option CharSet
  | .nothing => some .empty
  | .letter written => allowed? flags (CharSet.single written.char)
  | .range first last => allowed? flags (CharSet.range first.char last.char)
  | .ascii set negated => finish? flags negated set
  | .shorthand kind negated =>
    let set := kind.set flags.unicode
    allowed? flags (if negated then set.complement else set)
  | .property set negated => if flags.unicode then finish? flags negated set else none
  | .union first second => do return (← first.set? flags).union (← second.set? flags)
  | .combined operator left right => do
    let left ← left.set? flags
    let right ← right.set? flags
    return operator.apply (withCase flags left) (withCase flags right)
  | .bracketed body negated => do finish? flags negated (← body.set? flags)

end CharClass
end DocQuery.Pattern
