/-!
Runs of characters, written as text.

A text lists runs of code points in rising order, parted by blanks and line ends. A run is written
with hexadecimal code points: one character `b5`, a range `61-7a`, every second character of a
range `101-12f/2`. A run of a mapping ends in the distance to the images, `61-7a:-32`.
-/

namespace DocQuery.Text

/-- The code points `first, first + step, …, last` and the distance to their images. -/
structure CharRun where
  first : Nat
  last : Nat
  step : Nat
  distance : Int
deriving Inhabited

namespace CharRun

def has (run : CharRun) (code : Nat) : Bool :=
  decide (run.first ≤ code ∧ code ≤ run.last) && (code - run.first) % run.step == 0

def hexValue (digits : List Char) : Nat :=
  digits.foldl (fun value c => 16 * value + (if c.isDigit then c.toNat - 48 else c.toNat - 87)) 0

/-- Cuts a list at the first occurrence of a character. -/
def cut (mark : Char) (text : List Char) : List Char × List Char :=
  (text.takeWhile (· ≠ mark), (text.dropWhile (· ≠ mark)).drop 1)

def parse (text : List Char) : CharRun :=
  let (range, distance) := cut ':' text
  let (ends, step) := cut '/' range
  let (first, last) := cut '-' ends
  { first := hexValue first
    last := if last.isEmpty then hexValue first else hexValue last
    step := if step.isEmpty then 1 else hexValue step
    distance := ((String.ofList distance).toInt?).getD 0 }

/-- The code points of a run, in rising order. -/
def codes (run : CharRun) : List Nat :=
  (List.range ((run.last - run.first) / run.step + 1)).map fun index => run.first + index * run.step

end CharRun

/-- The entries of a text, which blanks and line ends part. -/
def entries (text : String) : List (List Char) :=
  let add (c : Char) (words : List (List Char)) : List (List Char) :=
    if c = ' ' ∨ c = '\n' then [] :: words
    else
      match words with
      | word :: others => (c :: word) :: others
      | [] => [[c]]
  (text.toList.foldr add []).filter (!·.isEmpty)

end DocQuery.Text
