import DocQuery.Text.CharRun

/-!
Mappings of characters that follow runs: all characters of a run move by one distance.
-/

namespace DocQuery.Text

/-- Runs in rising order. -/
structure CharTable where
  runs : Array CharRun
deriving Inhabited

namespace CharTable

def parse (text : String) : CharTable :=
  ⟨((entries text).map CharRun.parse).toArray⟩

/-- The number of runs, among those from `low` up to `high`, that start at or before a code point,
counted from the first run of the table. Each step halves what is left. -/
def countUpTo (table : CharTable) (code : Nat) (low high : Nat) : Nat :=
  if h : low < high then
    let middle := (low + high) / 2
    if (table.runs.getD middle default).first ≤ code then table.countUpTo code (middle + 1) high
    else table.countUpTo code low middle
  else low
termination_by high - low

/-- The run that holds a character. -/
def find? (table : CharTable) (c : Char) : Option CharRun :=
  match table.countUpTo c.toNat 0 table.runs.size with
  | 0 => none
  | count + 1 => (table.runs[count]?).filter (·.has c.toNat)

/-- The image of a character under a mapping that leaves all others alone. -/
def image (table : CharTable) (c : Char) : Char :=
  match table.find? c with
  | some run => Char.ofNat ((c.toNat : Int) + run.distance).toNat
  | none => c

/-- The code points that the mapping moves, each with its image. -/
def pairs (table : CharTable) : List (Nat × Nat) :=
  table.runs.toList.flatMap fun run =>
    run.codes.map fun code => (code, ((code : Int) + run.distance).toNat)

end CharTable
end DocQuery.Text
