import DocQuery.Pattern.Written
import DocQuery.WordRange

/-!
Reading patterns. There are no references to groups and no looking around, so every pattern can be
matched in one pass. A text that is no pattern is refused; the reader does not say why.

In verbose patterns blanks and comments mean nothing, which is the only flag that the reader follows.
-/

namespace DocQuery.Pattern.Reader

def isBlank (c : Char) : Bool := Text.Property.whiteSpace.contains c

/-- Skips blanks and comments in a verbose pattern. -/
def skip (verbose : Bool) (text : List Char) : List Char :=
  if verbose then skipAll false text else text
where
  skipAll (inComment : Bool) : List Char → List Char
    | [] => []
    | c :: rest =>
      if inComment then skipAll (c ≠ '\n') rest
      else if c = '#' then skipAll true rest
      else if isBlank c then skipAll false rest
      else c :: rest

/-- The text after its first character and the blanks that follow it. -/
def advance (verbose : Bool) (text : List Char) : List Char := skip verbose (text.drop 1)

def openBrace : Char := '\x7b'

def closeBrace : Char := '\x7d'

/-- The characters up to a closing brace without the blanks and comments among them, and the text
after the brace. -/
def braced? (verbose inComment : Bool) : List Char → Option (List Char × List Char)
  | [] => none
  | c :: rest =>
    if inComment then braced? verbose (c ≠ '\n') rest
    else if verbose && isBlank c then braced? verbose false rest
    else if verbose && c == '#' then braced? verbose true rest
    else if c = closeBrace then some ([], rest)
    else (braced? verbose false rest).map fun (inner, after) => (c :: inner, after)

/-- Characters that an escape makes plain although they have a meaning of their own. -/
def isMeta (c : Char) : Bool := "\\.+*?()|[]\x7b\x7d^$#&-~".contains c

def hexDigit? (c : Char) : Option Nat :=
  if c.isDigit then some (c.toNat - 48)
  else if 'a' ≤ c ∧ c ≤ 'f' then some (c.toNat - 87)
  else if 'A' ≤ c ∧ c ≤ 'F' then some (c.toNat - 55)
  else none

/-- The character of a code point, if it has one. -/
def charOfCode? (code : Nat) : Option Char :=
  if code < 0xd800 ∨ (0xdfff < code ∧ code < 0x110000) then some (Char.ofNat code) else none

/-- A number of hexadecimal digits. -/
def hexDigits? (verbose : Bool) (value : Nat) : Nat → List Char → Option (Nat × List Char)
  | 0, text => some (value, text)
  | count + 1, text => do
    let digit ← hexDigit? (← text.head?)
    hexDigits? verbose (16 * value + digit) count (advance verbose text)

/-- A code point after `x`, `u` or `U`: that many digits, or any number of them in braces. -/
def hexLetter? (verbose : Bool) (count : Nat) (text : List Char) :
    Option (Written × List Char) := do
  if text.head? = some openBrace then
    let (digits, rest) ← braced? verbose false (text.drop 1)
    if digits.isEmpty then none
    let values ← digits.mapM hexDigit?
    let c ← charOfCode? (values.foldl (fun value digit => 16 * value + digit) 0)
    return (.letter ⟨c, false⟩, skip verbose rest)
  else
    let (code, rest) ← hexDigits? verbose 0 count text
    return (.letter ⟨← charOfCode? code, count == 2⟩, rest)

/-- A class by its name, after `p` or `P`: one letter, or a name in braces. -/
def namedClass? (verbose negated : Bool) (text : List Char) : Option (Written × List Char) := do
  let c ← text.head?
  let (name, rest) ←
    if c = openBrace then braced? verbose false (text.drop 1)
    else if c = '\\' then none
    else some ([c], text.drop 1)
  let (set, asksForOthers) ← ClassName.resolve? name
  return (.charClass (.property set (negated != asksForOthers)), rest)

/-- The word boundaries that have a name in braces. -/
def namedBoundary? (name : String) : Option Anchor :=
  match name with
  | "start" => some .wordStart
  | "end" => some .wordEnd
  | "start-half" => some .wordStartHalf
  | "end-half" => some .wordEndHalf
  | _ => none

/-- A word boundary after `b`, with a name in braces where one begins. Other braces are left for the
repetition that they write. -/
def boundary? (verbose : Bool) (text : List Char) : Option (Written × List Char) :=
  if text.head? = some openBrace then
    match advance verbose text with
    | [] => none
    | c :: rest =>
      if c.isAlpha || c == '-' then do
        let (name, rest) ← braced? verbose false (c :: rest)
        return (.anchor (← namedBoundary? (String.ofList name)), rest)
      else some (.anchor .wordBoundary, text)
  else some (.anchor .wordBoundary, text)

/-- An escape, after its backslash. -/
def escape? (verbose : Bool) (text : List Char) : Option (Written × List Char) :=
  match text with
  | [] => none
  | c :: rest =>
    let letter (c : Char) : Option (Written × List Char) := some (.letter ⟨c, false⟩, rest)
    let anchor (place : Anchor) : Option (Written × List Char) := some (.anchor place, rest)
    let shorthand (kind : Shorthand) (negated : Bool) : Option (Written × List Char) :=
      some (.charClass (.shorthand kind negated), rest)
    match c with
    | 'x' => hexLetter? verbose 2 (skip verbose rest)
    | 'u' => hexLetter? verbose 4 (skip verbose rest)
    | 'U' => hexLetter? verbose 8 (skip verbose rest)
    | 'p' => namedClass? verbose false (skip verbose rest)
    | 'P' => namedClass? verbose true (skip verbose rest)
    | 'd' => shorthand .digit false
    | 'D' => shorthand .digit true
    | 's' => shorthand .blank false
    | 'S' => shorthand .blank true
    | 'w' => shorthand .word false
    | 'W' => shorthand .word true
    | 'a' => letter '\x07'
    | 'f' => letter '\x0c'
    | 't' => letter '\t'
    | 'n' => letter '\n'
    | 'r' => letter '\r'
    | 'v' => letter '\x0b'
    | 'A' => anchor .textStart
    | 'z' => anchor .textEnd
    | 'b' => boundary? verbose rest
    | 'B' => anchor .noWordBoundary
    | '<' => anchor .wordStart
    | '>' => anchor .wordEnd
    | _ => if isMeta c || (c.toNat < 128 && !c.isAlphanum) then letter c else none

/-- A class as far as it has been read: what stands left of the last operator, and the members that
follow it, last first. -/
structure ClassState where
  left : Option (CharClass × SetOperator) := none
  members : List CharClass := []

namespace ClassState

def add (state : ClassState) (member : CharClass) : ClassState :=
  { state with members := member :: state.members }

def body (state : ClassState) : CharClass :=
  let right := CharClass.unionOf state.members.reverse
  match state.left with
  | none => right
  | some (left, operator) => .combined operator left right

def after (state : ClassState) (operator : SetOperator) : ClassState :=
  { left := some (state.body, operator) }

end ClassState

/-- A class of ASCII named in brackets, `[:alpha:]` or `[:^alpha:]`, after its first bracket. -/
def asciiClass? (text : List Char) : Option (CharClass × List Char) :=
  match text with
  | ':' :: inner =>
    let (negated, named) := match inner with
      | '^' :: named => (true, named)
      | named => (false, named)
    let name := named.takeWhile (· ≠ ':')
    match named.dropWhile (· ≠ ':') with
    | ':' :: ']' :: rest =>
      (ClassName.bracketed? (String.ofList name)).map fun set => (.ascii set negated, rest)
    | _ => none
  | _ => none

/-- One member of a class: an escape or a character. -/
def classItem? (verbose : Bool) (text : List Char) : Option (Written × List Char) :=
  match text with
  | [] => none
  | '\\' :: rest => escape? verbose rest
  | c :: rest => some (.letter ⟨c, false⟩, rest)

/-- The member of a class that an item is. An anchor is none. -/
def classMember? : Written → Option CharClass
  | .letter letter => some (.letter letter)
  | .charClass body => some body
  | _ => none

/-- The character after a hyphen that tells whether the hyphen makes a range. The start of a comment
is passed over with its blanks, but not the comment. -/
def afterHyphen? (verbose : Bool) (text : List Char) : Option Char :=
  if verbose then
    let found := match text.dropWhile isBlank with
      | '#' :: rest => (rest.dropWhile isBlank).head?
      | rest => rest.head?
    found <|> text.head?
  else text.head?

/-- A member or a range of members. -/
def classRange? (verbose : Bool) (text : List Char) : Option (CharClass × List Char) := do
  let (first, rest) ← classItem? verbose text
  let rest := skip verbose rest
  let next := afterHyphen? verbose (rest.drop 1)
  if rest.isEmpty then none
  else if rest.head? ≠ some '-' ∨ next = some ']' ∨ next = some '-' then
    return (← classMember? first, rest)
  else
    let (last, rest) ← classItem? verbose (advance verbose rest)
    match first, last with
    | .letter low, .letter high =>
      if low.char ≤ high.char then return (.range low high, rest) else none
    | _, _ => none

/-- The start of a class after its bracket: whether it is negated, and the hyphens, or the bracket,
that stand for themselves there. -/
def classStart (verbose : Bool) (text : List Char) : Bool × ClassState × List Char :=
  let text := skip verbose text
  let (negated, text) := match text with
    | '^' :: rest => (true, skip verbose rest)
    | _ => (false, text)
  let rec hyphens (state : ClassState) : Nat → List Char → ClassState × List Char
    | fuel + 1, '-' :: rest => hyphens (state.add (.letter ⟨'-', false⟩)) fuel (skip verbose rest)
    | _, text => (state, text)
  match text with
  | ']' :: rest => (negated, ClassState.add {} (.letter ⟨']', false⟩), skip verbose rest)
  | _ =>
    let (state, rest) := hyphens {} text.length text
    (negated, state, rest)

/-- The rest of a class, up to its closing bracket. Classes nest. -/
def classRest? (verbose : Bool) (fuel : Nat) (state : ClassState) (text : List Char) :
    Option (CharClass × List Char) :=
  match fuel with
  | 0 => none
  | fuel + 1 =>
    match skip verbose text with
    | [] => none
    | ']' :: rest => some (state.body, rest)
    | '&' :: '&' :: rest => classRest? verbose fuel (state.after .intersection) rest
    | '-' :: '-' :: rest => classRest? verbose fuel (state.after .difference) rest
    | '~' :: '~' :: rest => classRest? verbose fuel (state.after .symmetricDifference) rest
    | '[' :: rest =>
      match asciiClass? rest with
      | some (named, rest) => classRest? verbose fuel (state.add named) rest
      | none => do
        let (negated, inner, rest) := classStart verbose rest
        let (body, rest) ← classRest? verbose fuel inner rest
        classRest? verbose fuel (state.add (.bracketed body negated)) rest
    | other => do
      let (member, rest) ← classRange? verbose other
      classRest? verbose fuel (state.add member) rest

/-- A class in brackets, after its first bracket. -/
def class? (verbose : Bool) (text : List Char) : Option (Written × List Char) := do
  let (negated, state, rest) := classStart verbose text
  let (body, rest) ← classRest? verbose (text.length + 1) state rest
  return (.charClass (.bracketed body negated), rest)

/-- Decimal digits, among blanks and comments in a verbose pattern. -/
def digits (verbose inComment : Bool) : List Char → List Char × List Char
  | [] => ([], [])
  | c :: rest =>
    if inComment then digits verbose (c ≠ '\n') rest
    else if c.isDigit then
      let (others, after) := digits verbose false rest
      (c :: others, after)
    else if verbose && isBlank c then digits verbose false rest
    else if verbose && c == '#' then digits verbose true rest
    else ([], c :: rest)

/-- A decimal number of 32 bits between blanks. -/
def count? (verbose : Bool) (text : List Char) : Option (Nat × List Char) :=
  let (written, rest) := digits verbose false (text.dropWhile isBlank)
  let value := written.foldl (fun value d => 10 * value + (d.toNat - 48)) 0
  if !written.isEmpty && value < natBound32 then some (value, rest.dropWhile isBlank) else none

/-- The least and the greatest number of repetitions, after the opening brace. -/
def counts? (verbose : Bool) (text : List Char) : Option ((Nat × Option Nat) × List Char) := do
  let (least, rest) ← count? verbose (skip verbose text)
  match rest with
  | ',' :: rest =>
    let rest := skip verbose rest
    if rest.head? = some closeBrace then return ((least, none), rest.drop 1)
    else
      let (most, rest) ← count? verbose rest
      if rest.head? = some closeBrace ∧ least ≤ most then
        return ((least, some most), rest.drop 1)
      else none
  | c :: rest => if c = closeBrace then return ((least, some least), rest) else none
  | [] => none

def flagOf? : Char → Option Flag
  | 'i' => some .ignoreCase
  | 'm' => some .multiLine
  | 's' => some .dotAll
  | 'U' => some .swapGreed
  | 'u' => some .unicode
  | 'R' => some .crlf
  | 'x' => some .verbose
  | _ => none

/-- The flags of a group up to its colon or bracket, which is left in place. A hyphen clears the flags
after it; there is one at most, and flags follow it. No flag is named twice. -/
def groupFlags? (changes : FlagChanges) (clearing dangling : Bool) :
    List Char → Option (FlagChanges × List Char)
  | [] => none
  | c :: rest =>
    if c = ':' ∨ c = ')' then if dangling then none else some (changes, c :: rest)
    else if c = '-' then if clearing then none else groupFlags? changes true true rest
    else do
      let flag ← flagOf? c
      if changes.any (·.1 = flag) then none
      else groupFlags? (changes ++ [(flag, !clearing)]) clearing false rest

def isNameStart (c : Char) : Bool := c == '_' || Text.Property.alphabetic.contains c

def isNameChar (c : Char) : Bool :=
  isNameStart c || c == '.' || c == '[' || c == ']' || Text.Category.number.contains c

/-- What is left to read, whether it is verbose, and the names of groups so far. -/
structure State where
  text : List Char
  verbose : Bool
  names : List String

/-- The name of a group, up to its closing angle, which no other group may have. -/
def groupName? (state : State) (text : List Char) : Option State :=
  let name := text.takeWhile (· ≠ '>')
  match name, text.dropWhile (· ≠ '>') with
  | first :: others, '>' :: rest =>
    let written := String.ofList name
    if isNameStart first && others.all isNameChar && !state.names.contains written then
      some { state with text := rest, names := written :: state.names }
    else none
  | _, _ => none

/-- The start of a group after its bracket: flags for what follows it, or flags for the group and
whether the group captures. -/
inductive GroupStart where
  | setFlags (changes : FlagChanges) (after : State)
  | group (changes : FlagChanges) (captures : Bool) (inside : State)

/-- Whether a pattern is verbose after a change of flags. -/
def verboseAfter (changes : FlagChanges) (verbose : Bool) : Bool :=
  match changes.find? (·.1 = .verbose) with
  | some (_, on) => on
  | none => verbose

def groupStart? (state : State) : Option GroupStart :=
  match skip state.verbose state.text with
  | '?' :: 'P' :: '<' :: rest | '?' :: '<' :: rest => (groupName? state rest).map (.group [] true)
  | '?' :: rest =>
    match groupFlags? [] false false rest with
    | some (changes, ending :: rest) =>
      let after := { state with
        text := rest, verbose := verboseAfter changes state.verbose }
      if ending = ':' then some (.group changes false after)
      else if changes.isEmpty then none
      else some (.setFlags changes after)
    | _ => none
  | rest => some (.group [] true { state with text := rest })

/-- Repeats the last item. There has to be one, and a change of flags is none. -/
def repeatLast? (items : List Written) (least : Nat) (most : Option Nat) :
    Option (List Written) :=
  match items with
  | [] | .setFlags _ :: _ => none
  | last :: others => some (.repeated last least most :: others)

/-- Skips the mark that makes a repetition lazy: it does not change what is described. -/
def skipLazy : List Char → List Char
  | '?' :: rest => rest
  | rest => rest

/-- Alternatives up to a closing bracket or the end, which are left in place. `done` holds the
alternatives read and `items` the items of the one begun, each last first. -/
def alternatives? (fuel : Nat) (state : State) (done items : List Written) :
    Option (Written × State) :=
  match fuel with
  | 0 => none
  | fuel + 1 =>
    let verbose := state.verbose
    let finished := (Written.sequence items.reverse :: done).reverse
    let continueAt (text : List Char) (items : List Written) :=
      alternatives? fuel { state with text := text } done items
    match skip verbose state.text with
    | [] => some (Written.choice finished, { state with text := [] })
    | ')' :: rest => some (Written.choice finished, { state with text := ')' :: rest })
    | '|' :: rest =>
      alternatives? fuel { state with text := rest } (Written.sequence items.reverse :: done) []
    | '(' :: rest => do
      match ← groupStart? { state with text := rest } with
      | .setFlags changes after => alternatives? fuel after done (.setFlags changes :: items)
      | .group changes captures inside =>
        let (body, after) ← alternatives? fuel inside [] []
        let ')' :: rest := after.text | none
        alternatives? fuel { after with text := rest, verbose := verbose } done
          (.group body changes captures :: items)
    | '[' :: rest => do
      let (read, rest) ← class? verbose rest
      continueAt rest (read :: items)
    | '?' :: rest => do continueAt (skipLazy rest) (← repeatLast? items 0 (some 1))
    | '*' :: rest => do continueAt (skipLazy rest) (← repeatLast? items 0 none)
    | '+' :: rest => do continueAt (skipLazy rest) (← repeatLast? items 1 none)
    | '.' :: rest => continueAt rest (.dot :: items)
    | '^' :: rest => continueAt rest (.anchor .lineStart :: items)
    | '$' :: rest => continueAt rest (.anchor .lineEnd :: items)
    | '\\' :: rest => do
      let (read, rest) ← escape? verbose rest
      continueAt rest (read :: items)
    | c :: rest =>
      if c = openBrace then do
        let ((least, most), rest) ← counts? verbose rest
        continueAt (skipLazy (skip verbose rest)) (← repeatLast? items least most)
      else continueAt rest (.letter ⟨c, false⟩ :: items)

/-- The written pattern that a whole text is. -/
def read? (text : List Char) : Option Written := do
  let (written, rest) ← alternatives? (text.length + 1) ⟨text, false, []⟩ [] []
  if rest.text.isEmpty then some written else none

end DocQuery.Pattern.Reader
