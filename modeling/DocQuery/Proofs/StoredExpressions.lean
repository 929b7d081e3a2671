import DocQuery.Expression.Codec
import DocQuery.Proofs.DocumentTrees
import DocQuery.Proofs.ExpressionParts
import DocQuery.Proofs.PathTexts
import Mathlib.Data.List.Nodup

/-!
Expressions that are stored come back. A path is stored by its text, so none of its segments may be
empty or hold a dot; a literal is stored as a document. What is read satisfies both, whichever way
it was written.
-/

namespace DocQuery

open Json (Tree Fields FieldRule ofTree? toTree treesOfItems treesOfEntries)

namespace FieldPath

theorem decode?_encode {path : FieldPath} (writable : path.isWritable) :
    decode? path.encode.toTree = some path :=
  congrArg some (parse_render writable)

theorem isWritable_of_decode? {tree : Tree} {path : FieldPath} (reads : decode? tree = some path) :
    path.isWritable := by
  obtain ⟨text, _, rfl⟩ := Option.map_eq_some_iff.mp reads
  exact isWritable_parse text

end FieldPath

theorem chosen?_name {α : Type} {all : List α} {name : α → String} {choice : α}
    (among : choice ∈ all) (distinct : (all.map name).Nodup) :
    chosen? all name (.string (name choice)) = some choice := by
  change all.find? (name · == name choice) = some choice
  obtain ⟨found, shown⟩ : ∃ found, all.find? (name · == name choice) = some found :=
    Option.isSome_iff_exists.mp (List.find?_isSome.mpr ⟨choice, among, beq_self_eq_true _⟩)
  have same : name found = name choice := by simpa using List.find?_some shown
  rw [shown, List.inj_on_of_nodup_map distinct (List.mem_of_find?_eq_some shown) among same]

namespace Expression

/-- Whether what an expression holds beside its children is written without loss. -/
def isWritable : Expression → Bool
  | .field path _ => path.isWritable
  | .literal value => value.isFinite && value.hasDistinctKeys
  | _ => true

def IsStorable : Expression → Prop := Everywhere (·.isWritable)

theorem isStorable_iff {expression : Expression} :
    expression.IsStorable ↔
      expression.isWritable ∧ ∀ child ∈ expression.children, child.IsStorable :=
  everywhere_iff

mutual

theorem decode?_encode (expression : Expression) (storable : expression.IsStorable) :
    decode? expression.encode.toTree = some expression :=
  match expression, isStorable_iff.mp storable with
  | .field path kind, ⟨writable, _⟩ => by
    change (do
      let path ← FieldPath.decode? path.encode.toTree
      return Expression.field path (← chosen? FieldKind.all FieldKind.name (.string kind.name))) = _
    rw [FieldPath.decode?_encode writable, chosen?_name (by cases kind <;> decide) (by decide)]
    rfl
  | .item, _ => rfl
  | .literal value, ⟨writable, _⟩ => by
    simp only [isWritable, Bool.and_eq_true] at writable
    change (do return Expression.literal (.ofJson (← ofTree? value.toJson.toTree))) = _
    rw [Json.ofTree?_toTree value writable.2, Option.bind_eq_bind, Option.bind_some,
      Value.ofJson_toJson value writable.1]
    rfl
  | .list items, ⟨_, below⟩ => by
    change (do return Expression.list (← (partsOf (treesOfItems (encodeItems items))).mapM Prod.snd)) = _
    rw [partsOf_encodeItems items below]
    rfl
  | .binary op left right, ⟨_, below⟩ => by
    change (do
      let op ← chosen? BinaryOp.all BinaryOp.name (.string op.name)
      return Expression.binary op (← decode? left.encode.toTree) (← decode? right.encode.toTree)) = _
    rw [chosen?_name (by rcases op with op | op | op <;> cases op <;> decide) (by decide),
      decode?_encode left (below left (by simp [children])),
      decode?_encode right (below right (by simp [children]))]
    rfl
  | .unary op operand, ⟨_, below⟩ => by
    change (do
      let op ← chosen? UnaryOp.all UnaryOp.name (.string op.name)
      return Expression.unary op (← decode? operand.encode.toTree)) = _
    rw [chosen?_name (by cases op <;> decide) (by decide),
      decode?_encode operand (below operand (by simp [children]))]
    rfl
  | .isIn operand set negated, ⟨_, below⟩ => by
    change (do
      return Expression.isIn (← decode? operand.encode.toTree) (← decode? set.encode.toTree) negated) = _
    rw [decode?_encode operand (below operand (by simp [children])),
      decode?_encode set (below set (by simp [children]))]
    rfl
  | .contains collection values, ⟨_, below⟩ => by
    change (do
      return Expression.contains (← decode? collection.encode.toTree)
        (← decode? values.encode.toTree)) = _
    rw [decode?_encode collection (below collection (by simp [children])),
      decode?_encode values (below values (by simp [children]))]
    rfl
  | .quantifier kind collection predicate, ⟨_, below⟩ => by
    change (do
      let kind ← chosen? QuantifierKind.every QuantifierKind.name (.string kind.name)
      return Expression.quantifier kind (← decode? collection.encode.toTree)
        (← decode? predicate.encode.toTree)) = _
    rw [chosen?_name (by cases kind <;> decide) (by decide),
      decode?_encode collection (below collection (by simp [children])),
      decode?_encode predicate (below predicate (by simp [children]))]
    rfl
  | .presence operand expected, ⟨_, below⟩ => by
    change (do return Expression.presence (← decode? operand.encode.toTree) expected) = _
    rw [decode?_encode operand (below operand (by simp [children]))]
    rfl
  | .isType operand type, ⟨_, below⟩ => by
    change (do
      let type ← chosen? JsonType.all JsonType.name (.string type.name)
      return Expression.isType (← decode? operand.encode.toTree) type) = _
    rw [chosen?_name (by cases type <;> decide) (by decide),
      decode?_encode operand (below operand (by simp [children]))]
    rfl
  | .size collection, ⟨_, below⟩ => by
    change (do return Expression.size (← decode? collection.encode.toTree)) = _
    rw [decode?_encode collection (below collection (by simp [children]))]
    rfl
  | .pattern operand source, ⟨_, below⟩ => by
    change (do return Expression.pattern (← decode? operand.encode.toTree) source) = _
    rw [decode?_encode operand (below operand (by simp [children]))]
    rfl
termination_by structural expression

theorem partsOf_encodeItems (items : List Expression) (storable : ∀ part ∈ items, part.IsStorable) :
    (partsOf (treesOfItems (encodeItems items))).mapM Prod.snd = some items :=
  match items with
  | [] => rfl
  | first :: rest => by
    have head := decode?_encode first (storable first (.head _))
    have tail := partsOf_encodeItems rest fun other among => storable other (.tail _ among)
    simp [encodeItems, treesOfItems, partsOf, head, tail]
termination_by structural items

end

def Body.parts : Body → List Part
  | .items parts => parts
  | .entries parts => parts.map Prod.snd
  | .other => []

/-- Whether every part of a body that denotes an expression denotes one that can be stored. -/
def Body.IsStorable (body : Body) : Prop :=
  ∀ part ∈ body.parts, ∀ expression ∈ part.2, expression.IsStorable

theorem Body.IsStorable.expressionAt? {body : Body} (storable : body.IsStorable)
    {rules : List (String × FieldRule)} {fields : Fields Part} (read : body.fields? rules = some fields)
    {name : String} {expression : Expression} (found : expressionAt? fields name = some expression) :
    expression.IsStorable := by
  obtain ⟨part, shown, denotes⟩ := Option.bind_eq_some_iff.mp found
  refine storable part ?_ expression denotes
  match body with
  | .items parts => exact Json.mem_of_fieldsOfItems? read shown
  | .entries parts =>
    exact List.mem_map_of_mem (f := Prod.snd) (Json.mem_of_fieldsOfEntries? read shown)
  | .other => cases read

theorem Body.IsStorable.whole {body : Body} (storable : body.IsStorable)
    {rules : List (String × FieldRule)} {fields : Fields Part} (read : body.fields? rules = some fields)
    {expression : Expression} (writable : expression.isWritable)
    (written : ∀ child ∈ expression.children, ∃ name, Expression.expressionAt? fields name = some child) :
    expression.IsStorable := by
  refine isStorable_iff.mpr ⟨writable, fun child among => ?_⟩
  obtain ⟨name, found⟩ := written child among
  exact storable.expressionAt? read found

theorem Body.IsStorable.ofForm? {body : Body} (storable : body.IsStorable) {name : String}
    {expression : Expression} (reads : ofForm? name body = some expression) : expression.IsStorable := by
  unfold Expression.ofForm? at reads
  split at reads
  all_goals try simp only [Option.bind_eq_bind, Option.bind_eq_some_iff, Option.pure_def] at reads
  case h_1 =>
    obtain ⟨fields, read, _, _, path, written, reads⟩ := reads
    have writable := FieldPath.isWritable_of_decode? written
    split at reads
    case h_1 =>
      cases reads
      exact storable.whole read writable (by simp [children])
    case h_2 =>
      obtain ⟨kind, _, made⟩ := Option.bind_eq_some_iff.mp reads
      cases made
      exact storable.whole read writable (by simp [children])
  case h_2 =>
    split at reads
    case h_1 parts =>
      obtain ⟨items, read, made⟩ := Option.bind_eq_some_iff.mp reads
      cases made
      refine isStorable_iff.mpr ⟨rfl, fun child among => ?_⟩
      obtain ⟨part, there, denotes⟩ := Json.exists_of_mem_mapM read among
      exact storable part there child denotes
    case h_2 => cases reads
  case h_3 =>
    obtain ⟨fields, read, _, _, op, _, left, first, right, second, ⟨⟩⟩ := reads
    exact storable.whole read rfl (by simpa [children] using ⟨⟨_, first⟩, ⟨_, second⟩⟩)
  case h_4 =>
    obtain ⟨fields, read, _, _, op, _, operand, found, ⟨⟩⟩ := reads
    exact storable.whole read rfl (by simpa [children] using ⟨_, found⟩)
  case h_5 =>
    obtain ⟨fields, read, _, _, negated, _, operand, first, set, second, ⟨⟩⟩ := reads
    exact storable.whole read rfl (by simpa [children] using ⟨⟨_, first⟩, ⟨_, second⟩⟩)
  case h_6 =>
    obtain ⟨fields, read, collection, first, values, second, ⟨⟩⟩ := reads
    exact storable.whole read rfl (by simpa [children] using ⟨⟨_, first⟩, ⟨_, second⟩⟩)
  case h_7 =>
    obtain ⟨fields, read, _, _, kind, _, collection, first, predicate, second, ⟨⟩⟩ := reads
    exact storable.whole read rfl (by simpa [children] using ⟨⟨_, first⟩, ⟨_, second⟩⟩)
  case h_8 =>
    obtain ⟨fields, read, operand, found, _, _, expected, _, ⟨⟩⟩ := reads
    exact storable.whole read rfl (by simpa [children] using ⟨_, found⟩)
  case h_9 =>
    obtain ⟨fields, read, _, _, type, _, operand, found, ⟨⟩⟩ := reads
    exact storable.whole read rfl (by simpa [children] using ⟨_, found⟩)
  case h_10 =>
    obtain ⟨fields, read, operand, found, _, _, source, _, ⟨⟩⟩ := reads
    exact storable.whole read rfl (by simpa [children] using ⟨_, found⟩)
  case h_11 => cases reads

mutual

/-- What a tree denotes can be written again. -/
theorem isStorable_of_decode? {tree : Tree} {expression : Expression} (numbers : tree.hasWrittenNumbers)
    (reads : decode? tree = some expression) : expression.IsStorable :=
  match tree with
  | .string name => by
    simp only [decode?, Option.ite_none_right_eq_some, Option.some.injEq] at reads
    rw [← reads.2]
    exact isStorable_iff.mpr ⟨rfl, by simp [children]⟩
  | .object [(some name, body)] => by
    have inner : body.hasWrittenNumbers := by
      simpa [Tree.hasWrittenNumbers, Tree.entriesHaveWrittenNumbers] using numbers
    unfold decode? at reads
    split_ifs at reads
    case pos =>
      split at reads
      all_goals cases reads
      exact isStorable_iff.mpr ⟨rfl, by simp [children]⟩
    case pos =>
      obtain ⟨document, read, made⟩ := Option.bind_eq_some_iff.mp reads
      cases made
      have writable := Json.writable_of_ofTree? inner read
      exact isStorable_iff.mpr ⟨by simpa [isWritable] using writable, by simp [children]⟩
    case pos =>
      obtain ⟨collection, read, made⟩ := Option.bind_eq_some_iff.mp reads
      cases made
      have storable := isStorable_of_decode? inner read
      exact isStorable_iff.mpr ⟨rfl, by simpa [children] using storable⟩
    case neg => exact (isStorable_bodyOf inner).ofForm? reads
  | .object [] | .object [(none, _)] | .object ((none, _) :: _ :: _)
  | .object ((some _, _) :: _ :: _) | .null | .bool _ | .integer _ | .float _ | .array _
  | .unreadable => by cases reads
termination_by structural tree

theorem isStorable_bodyOf {tree : Tree} (numbers : tree.hasWrittenNumbers) : (bodyOf tree).IsStorable :=
  match tree with
  | .array _ => isStorable_partsOf numbers
  | .object _ => by
    intro part among
    obtain ⟨entry, there, rfl⟩ := List.mem_map.mp among
    exact isStorable_namedPartsOf numbers entry there
  | .null | .bool _ | .integer _ | .float _ | .string _ | .unreadable => by
    intro part among
    cases among
termination_by structural tree

theorem isStorable_partsOf {trees : List Tree} (numbers : Tree.haveWrittenNumbers trees) :
    ∀ part ∈ partsOf trees, ∀ expression ∈ part.2, expression.IsStorable :=
  match trees with
  | [] => by simp [partsOf]
  | tree :: rest => by
    simp only [Tree.haveWrittenNumbers, Bool.and_eq_true] at numbers
    rintro part (_ | ⟨_, later⟩) expression denotes
    · exact isStorable_of_decode? numbers.1 denotes
    · exact isStorable_partsOf numbers.2 part later expression denotes
termination_by structural trees

theorem isStorable_namedPartsOf {entries : List (Option String × Tree)}
    (numbers : Tree.entriesHaveWrittenNumbers entries) :
    ∀ entry ∈ namedPartsOf entries, ∀ expression ∈ entry.2.2, expression.IsStorable :=
  match entries with
  | [] => by simp [namedPartsOf]
  | (name, tree) :: rest => by
    simp only [Tree.entriesHaveWrittenNumbers, Bool.and_eq_true] at numbers
    rintro entry (_ | ⟨_, later⟩) expression denotes
    · exact isStorable_of_decode? numbers.1 denotes
    · exact isStorable_namedPartsOf numbers.2 entry later expression denotes
termination_by structural entries

end

end Expression
end DocQuery
