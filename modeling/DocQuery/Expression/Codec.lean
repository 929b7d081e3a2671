import DocQuery.Expression.Basic
import DocQuery.Json.Tree

/-!
Expressions as documents. An expression is an object whose one key names its form, with the parts
under fixed names; the element is the bare word `item`. The parts may also be written as an array
in the order of their names. The kind of a field may be left out.
-/

namespace DocQuery

open Json (Tree FieldRule Fields choice? plainChoice? fieldsOfEntries? fieldsOfItems?)

/-- A choice among named constants, read. -/
def chosen? {α : Type} (all : List α) (name : α → String) (tree : Tree) : Option α := do
  let written ← plainChoice? tree
  all.find? (name · == written)

namespace BinaryOp

def all : List BinaryOp :=
  [.comparison .eq, .comparison .ne, .comparison .lt, .comparison .le, .comparison .gt,
    .comparison .ge, .connective .and, .connective .or, .arithmetic .add, .arithmetic .sub,
    .arithmetic .mul, .arithmetic .div, .arithmetic .mod]

def name : BinaryOp → String
  | .comparison .eq => "eq"
  | .comparison .ne => "ne"
  | .comparison .lt => "lt"
  | .comparison .le => "le"
  | .comparison .gt => "gt"
  | .comparison .ge => "ge"
  | .connective .and => "and"
  | .connective .or => "or"
  | .arithmetic .add => "add"
  | .arithmetic .sub => "sub"
  | .arithmetic .mul => "mul"
  | .arithmetic .div => "div"
  | .arithmetic .mod => "mod"

end BinaryOp

def UnaryOp.all : List UnaryOp := [.not, .neg]

def UnaryOp.name : UnaryOp → String
  | .not => "not"
  | .neg => "neg"

def QuantifierKind.every : List QuantifierKind := [.any, .all]

def QuantifierKind.name : QuantifierKind → String
  | .any => "any"
  | .all => "all"

def FieldKind.all : List FieldKind := [.value, .boolean]

def FieldKind.name : FieldKind → String
  | .value => "value"
  | .boolean => "boolean"

def FieldPath.encode (path : FieldPath) : Json := .string path.render

def FieldPath.decode? (tree : Tree) : Option FieldPath := tree.asString?.map .parse

namespace Expression

/-- An object with one key, the name of a form. -/
def form (name : String) (body : Json) : Json := .object [(name, body)]

mutual

def encode : Expression → Json
  | .field path kind => form "field" (.object [("path", path.encode), ("kind", .string kind.name)])
  | .item => .string "item"
  | .literal value => form "literal" value.toJson
  | .list items => form "list" (.array (encodeItems items))
  | .binary op left right => form "binary"
      (.object [("left", left.encode), ("op", .string op.name), ("right", right.encode)])
  | .unary op operand => form "unary"
      (.object [("op", .string op.name), ("operand", operand.encode)])
  | .isIn operand set negated => form "in"
      (.object [("operand", operand.encode), ("set", set.encode), ("negated", .bool negated)])
  | .contains collection values => form "contains"
      (.object [("collection", collection.encode), ("values", values.encode)])
  | .quantifier kind collection predicate => form "quantifier"
      (.object [("kind", .string kind.name), ("collection", collection.encode),
        ("predicate", predicate.encode)])
  | .presence operand expected => form "exists"
      (.object [("operand", operand.encode), ("exists", .bool expected)])
  | .isType operand type => form "is_type"
      (.object [("operand", operand.encode), ("json_type", .string type.name)])
  | .size collection => form "size" collection.encode
  | .pattern operand source => form "regex"
      (.object [("operand", operand.encode), ("pattern", .string source)])
termination_by structural expression => expression

def encodeItems : List Expression → List Json
  | [] => []
  | first :: rest => first.encode :: encodeItems rest
termination_by structural items => items

end

/-- A part of an expression as written, with the expression that it denotes if it is one. -/
abbrev Part := Tree × Option Expression

/-- The parts of a form, from an array or an object. -/
inductive Body where
  | items (parts : List Part)
  | entries (parts : List (Option String × Part))
  | other

/-- The parts under fixed names. -/
def Body.fields? (body : Body) (rules : List (String × FieldRule)) : Option (Fields Part) :=
  match body with
  | .items parts => fieldsOfItems? rules parts
  | .entries parts => fieldsOfEntries? rules parts
  | .other => none

def expressionAt? (fields : Fields Part) (name : String) : Option Expression := do
  (← fields.get? name).2

def treeAt? (fields : Fields Part) (name : String) : Option Tree := do
  return (← fields.get? name).1

def allRequired (names : List String) : List (String × FieldRule) := names.map (·, .required)

/-- The expression of a form with parts, from its name and its body. -/
def ofForm? (name : String) (body : Body) : Option Expression :=
  match name with
  | "field" => do
    let fields ← body.fields? [("path", .required), ("kind", .optional)]
    let path ← FieldPath.decode? (← treeAt? fields "path")
    match treeAt? fields "kind" with
    | none => return .field path .value
    | some tree => return .field path (← chosen? FieldKind.all FieldKind.name tree)
  | "list" =>
    match body with
    | .items parts => do return .list (← parts.mapM (·.2))
    | _ => none
  | "binary" => do
    let fields ← body.fields? (allRequired ["left", "op", "right"])
    let op ← chosen? BinaryOp.all BinaryOp.name (← treeAt? fields "op")
    return .binary op (← expressionAt? fields "left") (← expressionAt? fields "right")
  | "unary" => do
    let fields ← body.fields? (allRequired ["op", "operand"])
    let op ← chosen? UnaryOp.all UnaryOp.name (← treeAt? fields "op")
    return .unary op (← expressionAt? fields "operand")
  | "in" => do
    let fields ← body.fields? (allRequired ["operand", "set", "negated"])
    let negated ← (← treeAt? fields "negated").asBool?
    return .isIn (← expressionAt? fields "operand") (← expressionAt? fields "set") negated
  | "contains" => do
    let fields ← body.fields? (allRequired ["collection", "values"])
    return .contains (← expressionAt? fields "collection") (← expressionAt? fields "values")
  | "quantifier" => do
    let fields ← body.fields? (allRequired ["kind", "collection", "predicate"])
    let kind ← chosen? QuantifierKind.every QuantifierKind.name (← treeAt? fields "kind")
    return .quantifier kind (← expressionAt? fields "collection") (← expressionAt? fields "predicate")
  | "exists" => do
    let fields ← body.fields? (allRequired ["operand", "exists"])
    return .presence (← expressionAt? fields "operand") (← (← treeAt? fields "exists").asBool?)
  | "is_type" => do
    let fields ← body.fields? (allRequired ["operand", "json_type"])
    let type ← chosen? JsonType.all JsonType.name (← treeAt? fields "json_type")
    return .isType (← expressionAt? fields "operand") type
  | "regex" => do
    let fields ← body.fields? (allRequired ["operand", "pattern"])
    return .pattern (← expressionAt? fields "operand") (← (← treeAt? fields "pattern").asString?)
  | _ => none

mutual

/-- The expression that a tree denotes. -/
def decode? : Tree → Option Expression
  | .string name => if name = "item" then some .item else none
  | .object [(some name, body)] =>
    if name = "item" then (match body with | .null => some .item | _ => none)
    else if name = "literal" then do return .literal (.ofJson (← Json.ofTree? body))
    else if name = "size" then do return .size (← decode? body)
    else ofForm? name (bodyOf body)
  | _ => none
termination_by structural tree => tree

/-- The parts in a body, each with the expression that it denotes. -/
def bodyOf : Tree → Body
  | .array trees => .items (partsOf trees)
  | .object entries => .entries (namedPartsOf entries)
  | _ => .other
termination_by structural tree => tree

def partsOf : List Tree → List Part
  | [] => []
  | tree :: rest => (tree, decode? tree) :: partsOf rest
termination_by structural trees => trees

def namedPartsOf : List (Option String × Tree) → List (Option String × Part)
  | [] => []
  | (name, tree) :: rest => (name, (tree, decode? tree)) :: namedPartsOf rest
termination_by structural entries => entries

end

end Expression
end DocQuery
