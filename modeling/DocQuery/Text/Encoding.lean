import DocQuery.Text.CharSet

/-!
The bytes of characters. A character beyond ASCII is a leading byte and up to three bytes of six bits
each, so that a range of characters is a few sequences of ranges of bytes.
-/

namespace DocQuery.Text.Encoding

/-- The ranges of digits, to the base 64, that make up the numbers from the first to the last with a
number of digits after the leading one. -/
def digitRanges : Nat → Nat → Nat → List (List CharRange)
  | 0, first, last => [[⟨first, last⟩]]
  | count + 1, first, last =>
    let unit := Nat.pow 64 (count + 1)
    let low := first / unit
    let high := last / unit
    if low = high then
      (digitRanges count (first % unit) (last % unit)).map (⟨low, low⟩ :: ·)
    else
      let startsWhole := first % unit = 0
      let endsWhole := last % unit + 1 = unit
      let head := if startsWhole then []
        else (digitRanges count (first % unit) (unit - 1)).map (⟨low, low⟩ :: ·)
      let tail := if endsWhole then []
        else (digitRanges count 0 (last % unit)).map (⟨high, high⟩ :: ·)
      let wholeLow := if startsWhole then low else low + 1
      let wholeEnd := if endsWhole then high + 1 else high
      let middle := if wholeLow < wholeEnd then
          (digitRanges count 0 (unit - 1)).map (⟨wholeLow, wholeEnd - 1⟩ :: ·)
        else []
      head ++ middle ++ tail

/-- The ranges of characters whose encodings are equally long: the first and the last, the number of
bytes after the leading one, and what is added to the leading digit. -/
def lengths : List (CharRange × Nat × Nat) :=
  [(⟨0, 0x7f⟩, 0, 0), (⟨0x80, 0x7ff⟩, 1, 0xc0), (⟨0x800, 0xd7ff⟩, 2, 0xe0),
    (⟨0xe000, 0xffff⟩, 2, 0xe0), (⟨0x10000, 0x10ffff⟩, 3, 0xf0)]

/-- The sequences of ranges that the characters of a set are written by. -/
def sequences (set : CharSet) : List (List CharRange) :=
  set.toList.flatMap fun range => lengths.flatMap fun (whole, count, offset) =>
    let first := max range.first whole.first
    let last := min range.last whole.last
    if first ≤ last then
      (digitRanges count first last).map fun digits =>
        match digits with
        | lead :: rest => ⟨lead.first + offset, lead.last + offset⟩ :: rest
        | [] => []
    else []

/-- How many ranges two sequences share at their starts. -/
def shared : List CharRange → List CharRange → Nat
  | a :: as, b :: bs => if a = b then shared as bs + 1 else 0
  | _, _ => 0

/-- The number of ranges of all sequences when each goes its own way only where it leaves the one
before it. -/
def branches : List CharRange → List (List CharRange) → Nat
  | _, [] => 0
  | previous, next :: rest => (next.length - shared previous next) + branches next rest

end DocQuery.Text.Encoding
