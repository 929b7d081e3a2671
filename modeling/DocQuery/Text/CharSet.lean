import DocQuery.Text.CharRun

/-!
Sets of characters as ranges of code points.

The ranges of a set rise and neither meet nor touch, so that a set has one form, and the largest
code points of the ranges tell in a few steps whether a character is in it. Complements leave out the
code points that are no characters.
-/

namespace DocQuery.Text

/-- The code points from the first to the last. -/
structure CharRange where
  first : Nat
  last : Nat
deriving DecidableEq, Inhabited, Repr

namespace CharRange

def size (range : CharRange) : Nat := range.last + 1 - range.first

/-- Ranges in the order of their first code points, of two such lists. -/
def merge : List CharRange → List CharRange → List CharRange
  | [], others => others
  | ranges, [] => ranges
  | a :: as, b :: bs =>
    if a.first ≤ b.first then a :: merge as (b :: bs) else b :: merge (a :: as) bs

/-- Joins a range with those after it that it meets or touches. -/
def joinFrom (range : CharRange) : List CharRange → List CharRange
  | [] => [range]
  | next :: rest =>
    if next.first ≤ range.last + 1 then joinFrom ⟨range.first, max range.last next.last⟩ rest
    else range :: joinFrom next rest

/-- Joins neighbours that meet or touch, in ranges that rise by their first code points. -/
def join : List CharRange → List CharRange
  | [] => []
  | range :: rest => joinFrom range rest

/-- The greatest code point. -/
def greatest : Nat := 0x10ffff

/-- What lies between ranges, from a code point on. -/
def gapsFrom (start : Nat) : List CharRange → List CharRange
  | [] => if start ≤ greatest then [⟨start, greatest⟩] else []
  | range :: rest =>
    if start < range.first then ⟨start, range.first - 1⟩ :: gapsFrom (range.last + 1) rest
    else gapsFrom (range.last + 1) rest

end CharRange

/-- Ranges that rise and neither meet nor touch. -/
structure CharSet where
  ranges : Array CharRange
deriving DecidableEq, Inhabited, Repr

namespace CharSet

def empty : CharSet := ⟨#[]⟩

def toList (set : CharSet) : List CharRange := set.ranges.toList

/-- A set from ranges that rise by their first code points. -/
def ofRising (ranges : List CharRange) : CharSet := ⟨(CharRange.join ranges).toArray⟩

def ofRanges (ranges : List CharRange) : CharSet :=
  ofRising (ranges.mergeSort fun a b => decide (a.first ≤ b.first))

def range (first last : Char) : CharSet := ⟨#[⟨first.toNat, last.toNat⟩]⟩

def single (c : Char) : CharSet := range c c

/-- The set that a text of rising runs writes. -/
def parse (text : String) : CharSet :=
  ofRising ((entries text).flatMap fun entry =>
    let run := CharRun.parse entry
    if run.step = 1 then [⟨run.first, run.last⟩]
    else run.codes.map fun code => ⟨code, code⟩)

def union (a b : CharSet) : CharSet := ofRising (CharRange.merge a.toList b.toList)

def unionOf (sets : List CharSet) : CharSet := sets.foldr union empty

/-- The code points that are kept for pairs and are no characters. -/
def surrogates : CharSet := ⟨#[⟨0xd800, 0xdfff⟩]⟩

def complement (set : CharSet) : CharSet :=
  ⟨(CharRange.gapsFrom 0 (set.union surrogates).toList).toArray⟩

def intersection (a b : CharSet) : CharSet := (a.complement.union b.complement).complement

def difference (a b : CharSet) : CharSet := a.intersection b.complement

def symmetricDifference (a b : CharSet) : CharSet := (a.difference b).union (b.difference a)

def full : CharSet := empty.complement

def ascii : CharSet := ⟨#[⟨0, 127⟩]⟩

/-- The number of ranges, among those from `low` up to `high`, that start at or before a code point,
counted from the first range of the set. Each step halves what is left. -/
def countUpTo (set : CharSet) (code : Nat) (low high : Nat) : Nat :=
  if h : low < high then
    let middle := (low + high) / 2
    if (set.ranges.getD middle default).first ≤ code then set.countUpTo code (middle + 1) high
    else set.countUpTo code low middle
  else low
termination_by high - low

def containsCode (set : CharSet) (code : Nat) : Bool :=
  match set.countUpTo code 0 set.ranges.size with
  | 0 => false
  | count + 1 => decide (code ≤ (set.ranges.getD count default).last)

def contains (set : CharSet) (c : Char) : Bool := set.containsCode c.toNat

def isEmpty (set : CharSet) : Bool := set.ranges.isEmpty

def isAscii (set : CharSet) : Bool := set.ranges.all (decide <| ·.last < 128)

/-- The number of characters. -/
def size (set : CharSet) : Nat := set.ranges.foldl (fun total range => total + range.size) 0

end CharSet
end DocQuery.Text
