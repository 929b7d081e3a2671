import DocQuery.Text.Boundary

/-!
Letters with their marks. A cluster is a character with the marks that follow it and the signs
written before it. Korean syllables, pictures with joiners between them and flags of two indicators
are one cluster each; control characters stand alone. Indic conjuncts are left in their letters: they
have no case to cut at.
-/

namespace DocQuery.Text

/-- The last character of a cluster begun, whether the cluster ends in a picture with its marks, and
whether it ends in an odd number of regional indicators. -/
structure ClusterEnd where
  last : Char
  picture : Bool
  oddIndicators : Bool

namespace ClusterEnd
open Boundary.Cluster

/-- The end of a cluster of one character. -/
def start (c : Char) : ClusterEnd :=
  { last := c
    picture := Property.extendedPictographic.contains c
    oddIndicators := Property.regionalIndicator.contains c }

/-- The end of a cluster after one more character. -/
def push (before : ClusterEnd) (c : Char) : ClusterEnd :=
  { last := c
    picture := Property.extendedPictographic.contains c ||
      before.picture && (extend.contains c || Boundary.joiner.contains c)
    oddIndicators := Property.regionalIndicator.contains c && !before.oddIndicators }

/-- Whether two neighbours are parts of one Korean syllable. -/
def joinsSyllable (first second : Char) : Bool :=
  let vowelOrOpen := vowelJamo.contains first || openSyllable.contains first
  let closed := closedSyllable.contains first || trailingJamo.contains first
  leadingJamo.contains first && (leadingJamo.contains second || vowelJamo.contains second ||
      openSyllable.contains second || closedSyllable.contains second) ||
    vowelOrOpen && (vowelJamo.contains second || trailingJamo.contains second) ||
    closed && trailingJamo.contains second

def isControl (c : Char) : Bool := control.contains c || c == '\r' || c == '\n'

/-- Whether a character belongs to the cluster before it. -/
def joins (before : ClusterEnd) (c : Char) : Bool :=
  if before.last == '\r' && c == '\n' then true
  else if isControl before.last || isControl c then false
  else
    joinsSyllable before.last c || extend.contains c || Boundary.joiner.contains c ||
      spacingMark.contains c || prepend.contains before.last ||
      before.picture && Boundary.joiner.contains before.last &&
        Property.extendedPictographic.contains c ||
      before.oddIndicators && Property.regionalIndicator.contains c

end ClusterEnd

/-- The clusters of a text after the characters `cluster`, last first, of the cluster begun. -/
def clustersFrom (before : ClusterEnd) (cluster : List Char) : List Char → List (List Char)
  | [] => [cluster.reverse]
  | c :: rest =>
    if before.joins c then clustersFrom (before.push c) (c :: cluster) rest
    else cluster.reverse :: clustersFrom (.start c) [c] rest

/-- A text cut into its clusters. -/
def clusters : List Char → List (List Char)
  | [] => []
  | c :: rest => clustersFrom (.start c) [c] rest

end DocQuery.Text
