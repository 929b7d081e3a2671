import DocQuery.DocumentOrder
import DocQuery.Request.Basic
import DocQuery.Store.Selector

/-!
The answer to a find request from a list of documents: those that match, sorted, and of these one
page. A bookmark says where the next page starts.
-/

namespace DocQuery

/-- What the text of every bookmark starts with. -/
def bookmarkLabel : String := "mem-"

/-- The bookmark of the documents from an offset on. -/
def writeBookmark (offset : Nat) : String := s!"{bookmarkLabel}{offset}"

/-- A count in decimal digits, with or without a plus sign. -/
def readCount? (text : List Char) : Option Nat :=
  let digits := match text with
    | '+' :: rest => rest
    | _ => text
  if digits.isEmpty || !digits.all Char.isDigit then none
  else
    let count := digits.foldl (fun total digit => total * 10 + (digit.toNat - '0'.toNat)) 0
    if count < natBound64 then some count else none

/-- The offset of a bookmark. -/
def readBookmark (bookmark : String) : Except Error Nat :=
  let label := bookmarkLabel.toList
  let text := bookmark.toList
  match if text.take label.length = label then readCount? (text.drop label.length) else none with
  | some offset => .ok offset
  | none => .error (.database (.ofResponse 400 "invalid_bookmark" "Invalid bookmark value"))

/-- A field of the sort list: its name, or an object with its name and its direction. -/
def SortKey.read : Json → Except Error SortKey
  | .string field => .ok ⟨wireKeys field, .ascending⟩
  | .object [(field, direction)] =>
    match direction with
    | .string "asc" => .ok ⟨wireKeys field, .ascending⟩
    | .string "desc" => .ok ⟨wireKeys field, .descending⟩
    | _ => badArgument "sort" "\"asc\" or \"desc\""
  | _ => badArgument "sort" "field names or \x7bfield: direction\x7d"

namespace FindRequest

/-- The selector; without one every document matches. -/
def condition (request : FindRequest) : Json := request.selector?.getD (.object [])

def matching (request : FindRequest) (documents : List Json) : Except Error (List Json) :=
  keepItems request.condition.selects documents

def sortKeys (request : FindRequest) : Except Error (List SortKey) :=
  match request.get? "sort" with
  | none => .ok []
  | some (.array entries) => entries.mapM SortKey.read
  | some _ => badArgument "sort" "an array"

/-- The offset of the bookmark. A bookmark that is no text counts as none. -/
def bookmarkOffset (request : FindRequest) : Except Error Nat :=
  match request.get? "bookmark" with
  | some (.string bookmark) => readBookmark bookmark
  | _ => .ok 0

def count? (request : FindRequest) (key : String) : Except Error (Option Nat) :=
  match request.get? key with
  | none => .ok none
  | some value =>
    match value.asNat64? with
    | some count => .ok (some count)
    | none => .error (.database (.badRequest s!"{key} must be a non-negative integer"))

/-- Where a page starts and how many documents it may have. -/
structure PageBounds where
  start : Nat
  limit : Option Nat

/-- The page that a request asks for: it skips documents after those before the bookmark. -/
def pageBounds (request : FindRequest) : Except Error PageBounds := do
  let offset ← request.bookmarkOffset
  let skip := (← request.count? "skip").getD 0
  return ⟨min (offset + skip) (natBound64 - 1), ← request.count? "limit"⟩

def PageBounds.cut (bounds : PageBounds) (documents : List Json) : List Json :=
  let rest := documents.drop bounds.start
  match bounds.limit with
  | some limit => rest.take limit
  | none => rest

/-- The paths that a request keeps of each document, if it names any fields. -/
def fieldPaths? (request : FindRequest) : Option (List (List String)) :=
  match request.get? "fields" with
  | some (.array fields) => some ((fields.filterMap Json.asString?).map wireKeys)
  | _ => none

def projected (request : FindRequest) (documents : List Json) : List Json :=
  match request.fieldPaths? with
  | some paths => documents.map (·.project paths)
  | none => documents

/-- The figures that a request asks for. Every document is examined, and no time passes. -/
def statistics? (request : FindRequest) (examined returned : Nat) : Option ExecutionStats :=
  match request.get? "execution_stats" with
  | some (.bool true) => some ⟨0, examined, 0, returned, .zero⟩
  | _ => none

/-- The answer to a request from documents. -/
def answer (request : FindRequest) (warning : Option String) (documents : List Json) :
    Except Error FindResponse := do
  let matched ← request.matching documents
  let sorted := sortDocuments (← request.sortKeys) matched
  let bounds ← request.pageBounds
  let page := bounds.cut sorted
  return {
    docs := request.projected page
    bookmark := some (writeBookmark (bounds.start + page.length))
    executionStats := request.statistics? documents.length page.length
    warning }

end FindRequest
end DocQuery
