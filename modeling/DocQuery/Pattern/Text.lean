import DocQuery.Pattern.Meaning
import DocQuery.Pattern.Reader
import DocQuery.Pattern.Size

/-!
The patterns that texts write. A text writes a pattern if it can be read, nests no deeper than
allowed, means something under its flags, and has automata within the limit of size.
-/

namespace DocQuery.Pattern

/-- How deep patterns may nest. -/
def depthLimit : Nat := 250

/-- The pattern that a text writes. -/
def parse? (text : String) : Option Pattern := do
  let written ← Reader.read? text.toList
  if written.depth ≤ depthLimit then
    let (pattern, _) ← written.meaning? {}
    if pattern.fits then some pattern.flatten else none
  else none

end DocQuery.Pattern
