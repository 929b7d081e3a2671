import DocQuery.Text.Cluster
import DocQuery.Text.LetterCase

/-!
The words of a name and the ways to write them as one name again.

A name is cut at underscores, hyphens and blanks, where small letters meet capitals, where letters
meet digits, and before the last capital of a row of capitals that a small letter follows.
-/

namespace DocQuery.Text

/-- What a cluster is for the cutting of names. -/
inductive ClusterKind where
  | separator | small | capital | digit | other
deriving DecidableEq, Repr

def clusterKind (cluster : List Char) : ClusterKind :=
  if cluster = ['_'] ∨ cluster = ['-'] ∨ cluster = [' '] then .separator
  else if upper cluster ≠ lower cluster then
    if cluster = upper cluster then .capital
    else if cluster = lower cluster then .small
    else .other
  else
    match cluster with
    | [c] => if c.isDigit then .digit else .other
    | _ => .other

/-- Whether a name is cut between two neighbours, given what comes after them. -/
def cutsBetween (first second : ClusterKind) (third : Option ClusterKind) : Bool :=
  match first, second with
  | .small, .capital | .small, .digit | .capital, .digit | .digit, .small | .digit, .capital => true
  | .capital, .capital => third == some .small
  | _, _ => false

/-- The words of a list of clusters, after the clusters `word` of the word begun. -/
def wordsAfter (word : List Char) : List (List Char × ClusterKind) → List (List Char)
  | [] => [word]
  | (cluster, kind) :: rest =>
    if kind = .separator then word :: wordsAfter [] rest
    else
      match rest with
      | (_, next) :: more =>
        if cutsBetween kind next (more.head?.map (·.2)) then
          (word ++ cluster) :: wordsAfter [] rest
        else wordsAfter (word ++ cluster) rest
      | [] => [word ++ cluster]

/-- The words of a name. Neighbouring separators have an empty word between them. -/
def words (name : String) : List (List Char) :=
  if name.isEmpty then []
  else wordsAfter [] ((clusters name.toList).map fun cluster => (cluster, clusterKind cluster))

def capitalize : List Char → List Char
  | [] => []
  | c :: rest => upperChar c ++ lower rest

/-- How the words of a name are written as one. -/
inductive CaseStyle where
  | camel | pascal | snake | kebab
deriving DecidableEq, Repr

def CaseStyle.apply (style : CaseStyle) (name : String) : String :=
  let written : List Char := match style, words name with
    | .camel, first :: rest => lower first ++ rest.flatMap capitalize
    | .camel, [] => []
    | .pascal, all => all.flatMap capitalize
    | .snake, all => ['_'].intercalate (all.map lower)
    | .kebab, all => ['-'].intercalate (all.map lower)
  String.ofList written

def lowerCase (text : String) : String := String.ofList (lower text.toList)

end DocQuery.Text
