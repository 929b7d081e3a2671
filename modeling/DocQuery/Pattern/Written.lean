import DocQuery.Pattern.CharClass

/-!
Patterns as they are written: before flags decide what their parts stand for.
-/

namespace DocQuery.Pattern

inductive Flag where
  | ignoreCase | multiLine | dotAll | swapGreed | unicode | crlf | verbose
deriving DecidableEq

/-- Flags that are set or cleared. -/
abbrev FlagChanges := List (Flag × Bool)

/-- Places in a text. A half of a word boundary looks at one neighbour only. -/
inductive Anchor where
  | lineStart | lineEnd | textStart | textEnd
  | wordBoundary | noWordBoundary | wordStart | wordEnd | wordStartHalf | wordEndHalf

inductive Written where
  | empty
  | letter (letter : Letter)
  | dot
  | anchor (anchor : Anchor)
  | charClass (body : CharClass)
  /-- A change of flags for what follows it in the group. -/
  | setFlags (changes : FlagChanges)
  | append (first second : Written)
  | either (first second : Written)
  | repeated (body : Written) (least : Nat) (most : Option Nat)
  /-- A group with flags for its body, which may ask for the place where its body matches. -/
  | group (body : Written) (changes : FlagChanges) (captures : Bool)

namespace Written

def sequence : List Written → Written
  | [] => .empty
  | [only] => only
  | first :: rest => .append first (sequence rest)

def choice : List Written → Written
  | [] => .empty
  | [only] => only
  | first :: rest => .either first (choice rest)

/-- What a part stands in: the parts of a sequence, and those of a choice, nest once. -/
inductive Surroundings where
  | sequence | choice | other
deriving DecidableEq

/-- How deep the parts of a pattern nest. -/
def depthIn (around : Surroundings) : Written → Nat
  | .append first second =>
    (if around = .sequence then 0 else 1) + max (first.depthIn .sequence) (second.depthIn .sequence)
  | .either first second =>
    (if around = .choice then 0 else 1) + max (first.depthIn .choice) (second.depthIn .choice)
  | .repeated body _ _ => 1 + body.depthIn .other
  | .group body _ _ => 1 + body.depthIn .other
  | .charClass body => body.depthIn false
  | _ => 0

def depth (written : Written) : Nat := written.depthIn .other

end Written
end DocQuery.Pattern
