import DocQuery.Binary64.Decimal
import DocQuery.Json.Tree

/-!
Reading JSON text. A reader takes the characters it needs off the front of the text and leaves the
rest; it fails where the text leaves the grammar.
-/

namespace DocQuery.Json

/-- Objects and arrays may be nested this deeply. -/
def deepestNesting : Nat := 127

namespace Reader

def isBlank (c : Char) : Bool := c == ' ' || c == '\n' || c == '\t' || c == '\r'

def skipBlanks (text : List Char) : List Char := text.dropWhile isBlank

def hexValue? (c : Char) : Option Nat :=
  if '0' ≤ c ∧ c ≤ '9' then some (c.toNat - '0'.toNat)
  else if 'a' ≤ c ∧ c ≤ 'f' then some (c.toNat - 'a'.toNat + 10)
  else if 'A' ≤ c ∧ c ≤ 'F' then some (c.toNat - 'A'.toNat + 10)
  else none

/-- The unit of two bytes that four hexadecimal digits denote. -/
def hexUnit? (a b c d : Char) : Option Nat := do
  return (((← hexValue? a) * 16 + (← hexValue? b)) * 16 + (← hexValue? c)) * 16 + (← hexValue? d)

def isHighSurrogate (unit : Nat) : Bool := 0xd800 ≤ unit && unit < 0xdc00

def isLowSurrogate (unit : Nat) : Bool := 0xdc00 ≤ unit && unit < 0xe000

/-- What the characters before the current one have denoted so far. -/
structure StringState where
  /-- The characters read, last first. -/
  read : List Char
  /-- The first half of a surrogate pair whose second half has to follow. -/
  high : Option Nat
  /-- Whether each half has had its partner. -/
  paired : Bool

namespace StringState

def start : StringState := ⟨[], none, true⟩

def push (state : StringState) (c : Char) : StringState :=
  ⟨c :: state.read, none, state.paired && state.high.isNone⟩

def pushUnit (state : StringState) (unit : Nat) : StringState :=
  match state.high with
  | some high =>
    if isLowSurrogate unit then
      let code := 0x10000 + (high - 0xd800) * 0x400 + (unit - 0xdc00)
      ⟨Char.ofNat code :: state.read, none, state.paired⟩
    else ⟨state.read, none, false⟩
  | none =>
    if isHighSurrogate unit then ⟨state.read, some unit, state.paired⟩
    else if isLowSurrogate unit then ⟨state.read, none, false⟩
    else state.push (Char.ofNat unit)

/-- The string, if every half has its partner. -/
def finish (state : StringState) : Option String :=
  if state.paired && state.high.isNone then some (String.ofList state.read.reverse) else none

end StringState

/-- The character that an escape of one letter denotes. -/
def escaped? : Char → Option Char
  | '"' => some '"'
  | '\\' => some '\\'
  | '/' => some '/'
  | 'b' => some '\x08'
  | 'f' => some '\x0c'
  | 'n' => some '\n'
  | 'r' => some '\r'
  | 't' => some '\t'
  | _ => none

/-- The rest of a string, after its opening quote. -/
def stringRest (state : StringState) : List Char → Option (Option String × List Char)
  | [] => none
  | '"' :: rest => some (state.finish, rest)
  | '\\' :: 'u' :: a :: b :: c :: d :: rest =>
    match hexUnit? a b c d with
    | some unit => stringRest (state.pushUnit unit) rest
    | none => none
  | '\\' :: letter :: rest =>
    match escaped? letter with
    | some c => stringRest (state.push c) rest
    | none => none
  | c :: rest => if c.toNat < 0x20 then none else stringRest (state.push c) rest

def isDigit (c : Char) : Bool := '0' ≤ c && c ≤ '9'

def digitValue (c : Char) : Nat := c.toNat - '0'.toNat

def digits (text : List Char) : List Char × List Char := (text.takeWhile isDigit, text.dropWhile isDigit)

/-- Appends digits to a natural number while it fits in 64 bits; the number and how many digits
were appended. -/
def appendFitting (value : Nat) : List Char → Nat × Nat
  | [] => (value, 0)
  | digit :: rest =>
    let next := 10 * value + digitValue digit
    if next < natBound64 then
      let (last, appended) := appendFitting next rest
      (last, appended + 1)
    else (value, 0)

/-- The exponent after its mark: a sign and at least one digit. -/
def exponent? (text : List Char) : Option (Int × List Char) :=
  let (negative, unsigned) := match text with
    | '-' :: rest => (true, rest)
    | '+' :: rest => (false, rest)
    | rest => (false, rest)
  match digits unsigned with
  | ([], _) => none
  | (ds, rest) =>
    let magnitude : Int := (ds.foldl (fun value d => 10 * value + digitValue d) 0 : Nat)
    some (if negative then -magnitude else magnitude, rest)

/-- The digits of a number before the point: a zero stands alone. -/
def whole? (text : List Char) : Option (List Char × List Char) :=
  match digits text with
  | ([], _) => none
  | ('0' :: _ :: _, _) => none
  | found => some found

/-- The digits after a point, none without a point. -/
def fraction? : List Char → Option (List Char × List Char)
  | '.' :: text =>
    match digits text with
    | ([], _) => none
    | found => some found
  | text => some ([], text)

/-- The exponent of a number, if it has one. -/
def scale? : List Char → Option (Option Int × List Char)
  | c :: text =>
    if c = 'e' ∨ c = 'E' then (exponent? text).map fun (exponent, rest) => (some exponent, rest)
    else some (none, c :: text)
  | [] => some (none, [])

/-- The number denoted by its parts. An integer of 64 bits is exact, minus zero is a float, and of
any other number the digits count that fit in 64 bits. -/
def numberTree (negative : Bool) (whole fraction : List Char) (exponent : Option Int) : Tree :=
  let (wholeValue, wholeUsed) := appendFitting 0 whole
  let dropped := whole.length - wholeUsed
  let exact : Int := if negative then -(wholeValue : Int) else wholeValue
  let isInteger := fraction.isEmpty && exponent.isNone && dropped == 0 &&
    decide (leastInt64 ≤ exact) && !(negative && wholeValue == 0)
  if isInteger then .integer exact
  else
    let (significand, fractionUsed) := appendFitting wholeValue fraction
    let decimal : Decimal := ⟨significand, (dropped : Int) - fractionUsed + exponent.getD 0⟩
    match Binary64.ofDecimal negative decimal with
    | some x => .float x
    | none => .unreadable

def number? (text : List Char) : Option (Tree × List Char) := do
  let (negative, unsigned) := match text with
    | '-' :: rest => (true, rest)
    | rest => (false, rest)
  let (whole, afterWhole) ← whole? unsigned
  let (fraction, afterFraction) ← fraction? afterWhole
  let (exponent, rest) ← scale? afterFraction
  return (numberTree negative whole fraction exponent, rest)

/-- Takes a word off the front of the text. -/
def word? (word : List Char) (tree : Tree) (text : List Char) : Option (Tree × List Char) :=
  if word.isPrefixOf text then some (tree, text.drop word.length) else none

/-- An object or array nested too deeply denotes nothing. -/
def guardNesting (depth : Nat) (tree : Tree) : Tree :=
  if depth < deepestNesting then tree else .unreadable

mutual

/-- A value within `depth` objects and arrays. Each call consumes a character, so as much fuel as
there are characters is enough. -/
def value? (fuel depth : Nat) (text : List Char) : Option (Tree × List Char) :=
  match fuel with
  | 0 => none
  | fuel + 1 =>
    match skipBlanks text with
    | 'n' :: rest => word? ['u', 'l', 'l'] .null rest
    | 't' :: rest => word? ['r', 'u', 'e'] (.bool true) rest
    | 'f' :: rest => word? ['a', 'l', 's', 'e'] (.bool false) rest
    | '"' :: rest =>
      (stringRest .start rest).map fun (read, rest) => ((read.map Tree.string).getD .unreadable, rest)
    | '[' :: rest =>
      match skipBlanks rest with
      | ']' :: rest => some (guardNesting depth (.array []), rest)
      | _ => (items? fuel (depth + 1) rest).map fun (items, rest) =>
        (guardNesting depth (.array items), rest)
    | '\x7b' :: rest =>
      match skipBlanks rest with
      | '\x7d' :: rest => some (guardNesting depth (.object []), rest)
      | _ => (entries? fuel (depth + 1) rest).map fun (entries, rest) =>
        (guardNesting depth (.object entries), rest)
    | other => number? other

/-- The items of an array, after its bracket. -/
def items? (fuel depth : Nat) (text : List Char) : Option (List Tree × List Char) :=
  match fuel with
  | 0 => none
  | fuel + 1 => do
    let (item, rest) ← value? fuel depth text
    match skipBlanks rest with
    | ',' :: rest =>
      let (items, rest) ← items? fuel depth rest
      return (item :: items, rest)
    | ']' :: rest => return ([item], rest)
    | _ => none

/-- The entries of an object, after its bracket. -/
def entries? (fuel depth : Nat) (text : List Char) :
    Option (List (Option String × Tree) × List Char) :=
  match fuel with
  | 0 => none
  | fuel + 1 => do
    let '"' :: rest := skipBlanks text | none
    let (key, rest) ← stringRest .start rest
    let ':' :: rest := skipBlanks rest | none
    let (value, rest) ← value? fuel depth rest
    match skipBlanks rest with
    | ',' :: rest =>
      let (entries, rest) ← entries? fuel depth rest
      return ((key, value) :: entries, rest)
    | '\x7d' :: rest => return ([(key, value)], rest)
    | _ => none

end

end Reader

/-- The tree of a text that holds one value and blanks around it. -/
def readTree? (text : String) : Option Tree := do
  let chars := text.toList
  let (tree, rest) ← Reader.value? (2 * chars.length + 1) 0 chars
  if (Reader.skipBlanks rest).isEmpty then some tree else none

/-- The document that a text denotes. -/
def read? (text : String) : Option Json := (readTree? text).bind ofTree?

end DocQuery.Json
