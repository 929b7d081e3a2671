import DocQuery.Pattern.Basic
import DocQuery.Pattern.Written

/-!
What written patterns describe. Flags run through a pattern from left to right, also from one
alternative to the next, and the end of a group brings back the flags from before it.
-/

namespace DocQuery.Pattern

def Flags.set (flags : Flags) : Flag × Bool → Flags
  | (.ignoreCase, on) => { flags with ignoreCase := on }
  | (.multiLine, on) => { flags with multiLine := on }
  | (.dotAll, on) => { flags with dotAll := on }
  | (.crlf, on) => { flags with crlf := on }
  | (.unicode, on) => { flags with unicode := on }
  | (.swapGreed, _) | (.verbose, _) => flags

def Flags.change (flags : Flags) (changes : FlagChanges) : Flags := changes.foldl Flags.set flags

def isWordChar (flags : Flags) (neighbour : Option Char) : Bool :=
  match neighbour with
  | some c => (Shorthand.word.set flags.unicode).contains c
  | none => false

/-- The start of the text, or of a line where lines count. -/
def startsLine (flags : Flags) (before after : Option Char) : Bool :=
  before.isNone || flags.multiLine && (before == some '\n' ||
    flags.crlf && before == some '\r' && after != some '\n')

/-- The end of the text, or of a line where lines count. -/
def endsLine (flags : Flags) (before after : Option Char) : Bool :=
  after.isNone || flags.multiLine && (
    if flags.crlf then after == some '\r' || after == some '\n' && before != some '\r'
    else after == some '\n')

/-- Whether an anchor holds between two neighbours. -/
def Anchor.holds (flags : Flags) (anchor : Anchor) (before after : Option Char) : Bool :=
  let word := isWordChar flags
  match anchor with
  | .lineStart => startsLine flags before after
  | .lineEnd => endsLine flags before after
  | .textStart => before.isNone
  | .textEnd => after.isNone
  | .wordBoundary => word before != word after
  | .noWordBoundary => word before == word after
  | .wordStart => !word before && word after
  | .wordEnd => word before && !word after
  | .wordStartHalf => !word before
  | .wordEndHalf => !word after

/-- The set of a dot, which has to be of all scripts. -/
def dotSet? (flags : Flags) : Option Text.CharSet :=
  if !flags.unicode then none
  else if flags.dotAll then some Text.CharSet.full
  else if flags.crlf then some (Text.CharSet.parse "a d").complement
  else some (Text.CharSet.parse "a").complement

/-- The set of a letter. Without the characters beyond ASCII a letter beyond it still stands for
itself, but a byte beyond it stands for nothing. -/
def letterSet? (flags : Flags) (letter : Letter) : Option Text.CharSet :=
  if !flags.unicode && letter.byByte && 128 ≤ letter.char.toNat then none
  else some (CharClass.withCase flags (Text.CharSet.single letter.char))

/-- What a written pattern describes, and the flags in force after it. -/
def Written.meaning? (flags : Flags) : Written → Option (Pattern × Flags)
  | .empty => some (.empty, flags)
  | .letter written => (letterSet? flags written).map fun set => (.one set, flags)
  | .dot => (dotSet? flags).map fun set => (.one set, flags)
  | .anchor kind => some (.place (kind.holds flags), flags)
  | .charClass body => (body.set? flags).map fun set => (.one set, flags)
  | .setFlags changes => some (.empty, flags.change changes)
  | .append first second => do
    let (firstPattern, afterFirst) ← first.meaning? flags
    let (secondPattern, afterSecond) ← second.meaning? afterFirst
    return (.append firstPattern secondPattern, afterSecond)
  | .either first second => do
    let (firstPattern, afterFirst) ← first.meaning? flags
    let (secondPattern, afterSecond) ← second.meaning? afterFirst
    return (.either firstPattern secondPattern, afterSecond)
  | .repeated body least most => do
    let (pattern, after) ← body.meaning? flags
    return (.repeated pattern least most, after)
  | .group body changes captures => do
    let (pattern, _) ← body.meaning? (flags.change changes)
    return (if captures then .group pattern else pattern, flags)

end DocQuery.Pattern
