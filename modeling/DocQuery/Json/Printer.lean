import DocQuery.Binary64.Decimal
import DocQuery.Json.Basic

/-!
The text of documents: compact, without blanks, or indented by two spaces a level. Only quotes,
backslashes and control characters are escaped. A number that is not finite is written as null.
-/

namespace DocQuery.Json

def hexDigit (n : Nat) : Char := (Nat.toDigits 16 n).getLastD '0'

/-- The characters written for a character of a string. -/
def escape (c : Char) : List Char :=
  if c = '"' then ['\\', '"']
  else if c = '\\' then ['\\', '\\']
  else if c = '\x08' then ['\\', 'b']
  else if c = '\x0c' then ['\\', 'f']
  else if c = '\n' then ['\\', 'n']
  else if c = '\r' then ['\\', 'r']
  else if c = '\t' then ['\\', 't']
  else if c.toNat < 0x20 then ['\\', 'u', '0', '0', hexDigit (c.toNat / 16), hexDigit (c.toNat % 16)]
  else [c]

def quote (s : String) : String := String.ofList ('"' :: s.toList.flatMap escape ++ ['"'])

def floatText (x : Binary64) : String :=
  if x.isFinite then x.text Binary64.documentStyle else "null"

mutual

/-- The text of a document without blanks. -/
def render : Json → String
  | .null => "null"
  | .bool b => if b then "true" else "false"
  | .integer i => toString i
  | .float x => floatText x
  | .string s => quote s
  | .array items => "[" ++ ",".intercalate (renderItems items) ++ "]"
  | .object entries => "\x7b" ++ ",".intercalate (renderEntries entries) ++ "\x7d"
termination_by structural document => document

def renderItems : List Json → List String
  | [] => []
  | item :: rest => render item :: renderItems rest
termination_by structural items => items

def renderEntries : List (String × Json) → List String
  | [] => []
  | (key, value) :: rest => (quote key ++ ":" ++ render value) :: renderEntries rest
termination_by structural entries => entries

end

/-- Lines between brackets, each one level deeper than the brackets. -/
def block (opening closing : String) (depth : Nat) (lines : List String) : String :=
  let indent (levels : Nat) := "\n" ++ String.ofList (List.replicate (2 * levels) ' ')
  if lines.isEmpty then opening ++ closing
  else
    opening ++ indent (depth + 1) ++ ("," ++ indent (depth + 1)).intercalate lines ++
      indent depth ++ closing

mutual

/-- The text of a document with each item and entry on a line of its own. -/
def renderIndented (depth : Nat) : Json → String
  | .array items => block "[" "]" depth (indentedItems (depth + 1) items)
  | .object entries => block "\x7b" "\x7d" depth (indentedEntries (depth + 1) entries)
  | .null => "null"
  | .bool b => if b then "true" else "false"
  | .integer i => toString i
  | .float x => floatText x
  | .string s => quote s
termination_by structural document => document

def indentedItems (depth : Nat) : List Json → List String
  | [] => []
  | item :: rest => renderIndented depth item :: indentedItems depth rest
termination_by structural items => items

def indentedEntries (depth : Nat) : List (String × Json) → List String
  | [] => []
  | (key, value) :: rest =>
    (quote key ++ ": " ++ renderIndented depth value) :: indentedEntries depth rest
termination_by structural entries => entries

end

def renderPretty (document : Json) : String := renderIndented 0 document

end DocQuery.Json
