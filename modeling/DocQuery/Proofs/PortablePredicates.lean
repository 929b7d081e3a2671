import DocQuery.Proofs.EmittedClauses
import DocQuery.Proofs.WireNames

/-! The predicates that a server and a client can be expected to judge alike. They are described
twice: by what a portable predicate must not hold anywhere, and by the forms in which such a
predicate has a selector. The second description is the one that inductions follow. -/

namespace DocQuery.Expression

/-- Remainders are taken differently on the two sides, and only a count compares with a size. -/
def sidesPortable : BinaryOp → Expression → Expression → Bool
  | .arithmetic .mod, _, _ => false
  | .comparison _, .size _, .literal (.int count) => 0 ≤ count.toInt
  | .comparison _, .literal (.int count), .size _ => 0 ≤ count.toInt
  | _, _, _ => true

mutual

/-- Whether a predicate, if it has a selector, asks the same of a server and of a client: its paths
are plain, its literals can be written, its patterns are patterns, there is no remainder and no size
compared with a negative number, and the presence of an element as a whole is not asked for. -/
def isPortable (naming : FieldNaming) : Expression → Bool
  | .field path _ => naming.isPlain path
  | .item => true
  | .literal value => value.isFinite
  | .list items => arePortable naming items
  | .binary op left right =>
    sidesPortable op left right && left.isPortable naming && right.isPortable naming
  | .unary _ operand => operand.isPortable naming
  | .isIn operand set _ => operand.isPortable naming && set.isPortable naming
  | .contains collection values => collection.isPortable naming && values.isPortable naming
  | .quantifier _ collection predicate =>
    collection.isPortable naming && predicate.isPortable naming
  | .presence .item _ => false
  | .presence operand _ => operand.isPortable naming
  | .isType operand _ => operand.isPortable naming
  | .size collection => collection.isPortable naming
  | .pattern operand source => (Pattern.parse? source).isSome && operand.isPortable naming
termination_by structural expression => expression

def arePortable (naming : FieldNaming) : List Expression → Bool
  | [] => true
  | first :: rest => first.isPortable naming && arePortable naming rest
termination_by structural items => items

end

/-- An expression that a clause can be about, with what the clause is about. -/
inductive IsTarget (naming : FieldNaming) : PredicateScope → Expression → Target → Prop where
  | field {position path kind} (plain : naming.isPlain path) :
      IsTarget naming position (.field path kind) (.field (naming.resolve path))
  | item : IsTarget naming .element .item .element

/-- The values that a set of literals stands for. -/
inductive IsLiteralSet : Expression → List Value → Prop where
  | list {values : List Value} (finite : ∀ value ∈ values, value.isFinite) :
      IsLiteralSet (.literal (.list values)) values
  | single {value : Value} (finite : value.isFinite) (lone : ∀ items, value ≠ .list items) :
      IsLiteralSet (.literal value) [value]
  | items {values : List Value} (finite : ∀ value ∈ values, value.isFinite) :
      IsLiteralSet (.list (values.map .literal)) values

/-- Predicates with one clause that has no other predicate inside and is negated as a whole. -/
inductive IsLeaf (naming : FieldNaming) : PredicateScope → Expression → Prop where
  | compare {position left target} (op : Comparison) (value : Value)
      (about : IsTarget naming position left target) (finite : value.isFinite) :
      IsLeaf naming position (.binary (.comparison op) left (.literal value))
  | compareFlipped {position right target} (op : Comparison) (value : Value)
      (about : IsTarget naming position right target) (finite : value.isFinite) :
      IsLeaf naming position (.binary (.comparison op) (.literal value) right)
  | size {position collection target} (count : Int64)
      (about : IsTarget naming position collection target) (natural : 0 ≤ count.toInt) :
      IsLeaf naming position (.binary (.comparison .eq) (.size collection) (.literal (.int count)))
  | sizeFlipped {position collection target} (count : Int64)
      (about : IsTarget naming position collection target) (natural : 0 ≤ count.toInt) :
      IsLeaf naming position (.binary (.comparison .eq) (.literal (.int count)) (.size collection))
  | contains {position collection target values required}
      (about : IsTarget naming position collection target) (set : IsLiteralSet required values) :
      IsLeaf naming position (.contains collection required)
  | presence {position path kind} (expected : Bool) (plain : naming.isPlain path) :
      IsLeaf naming position (.presence (.field path kind) expected)
  | isType {position operand target} (type : JsonType)
      (about : IsTarget naming position operand target) :
      IsLeaf naming position (.isType operand type)
  | pattern {position operand target source compiled}
      (about : IsTarget naming position operand target)
      (parsed : Pattern.parse? source = some compiled) :
      IsLeaf naming position (.pattern operand source)
  | item : IsLeaf naming .element .item

/-- The portable predicates that have a selector, by their forms. -/
inductive Selectable (naming : FieldNaming) : PredicateScope → Expression → Prop where
  | leaf {position predicate} (leaf : IsLeaf naming position predicate) :
      Selectable naming position predicate
  | truth {position} (b : Bool) : Selectable naming position (.literal (.bool b))
  | flag {position path} (plain : naming.isPlain path) :
      Selectable naming position (.field path .boolean)
  | isIn {position operand target set values} (excluded : Bool)
      (about : IsTarget naming position operand target) (literals : IsLiteralSet set values) :
      Selectable naming position (.isIn operand set excluded)
  | not {position operand} (inner : Selectable naming position operand) :
      Selectable naming position (.unary .not operand)
  | connective {position left right} (op : Connective) (first : Selectable naming position left)
      (second : Selectable naming position right) :
      Selectable naming position (.binary (.connective op) left right)
  | quantifier {position collection target predicate} (kind : QuantifierKind)
      (about : IsTarget naming position collection target)
      (inner : Selectable naming .element predicate) :
      Selectable naming position (.quantifier kind collection predicate)

theorem isTarget_of_target {naming : FieldNaming} {position : PredicateScope}
    {expression : Expression} {target : Target} (portable : expression.isPortable naming)
    (found : expression.target naming position = .ok target) :
    IsTarget naming position expression target := by
  cases expression with
  | field path kind =>
    cases found
    exact .field portable
  | item =>
    cases position with
    | document => cases found
    | element => cases found; exact .item
  | _ => cases found

theorem literals_of_mapM {naming : FieldNaming} {items : List Expression} {encoded : List Json}
    (portable : arePortable naming items) (found : items.mapM literalItem = .ok encoded) :
    ∃ values : List Value, items = values.map .literal ∧ ∀ value ∈ values, value.isFinite := by
  induction items generalizing encoded with
  | nil => exact ⟨[], rfl, by simp⟩
  | cons first rest ih =>
    simp only [arePortable, Bool.and_eq_true] at portable
    simp only [List.mapM_cons, bind_eq_ok] at found
    obtain ⟨_, head, _, tail, _⟩ := found
    obtain ⟨values, rfl, finite⟩ := ih portable.2 tail
    cases first with
    | literal value => exact ⟨value :: values, rfl, by simpa using ⟨portable.1, finite⟩⟩
    | _ => cases head

theorem isLiteralSet_of_literalList {naming : FieldNaming} {set : Expression}
    {encoded : List Json} (portable : set.isPortable naming)
    (found : set.literalList = .ok encoded) : ∃ values, IsLiteralSet set values := by
  cases set with
  | literal value =>
    have finite : value.isFinite = true := portable
    cases value with
    | list items => exact ⟨items, .list (Value.areFinite_iff.mp finite)⟩
    | _ => exact ⟨_, .single finite (by simp)⟩
  | list items =>
    obtain ⟨values, rfl, finite⟩ := literals_of_mapM portable found
    exact ⟨values, .items finite⟩
  | _ => cases found

/-- What stands beside the literal of a comparison with a clause. -/
theorem Compares.isTarget_or_size {naming : FieldNaming} {position : PredicateScope} {op : Comparison}
    {left : Expression} {value : Value} {clause : Json}
    (compares : Compares naming position op left value clause) (portable : left.isPortable naming) :
    (∃ target, IsTarget naming position left target) ∨
      ∃ collection count target, left = .size collection ∧ value = .int count ∧ op = .eq ∧
        IsTarget naming position collection target := by
  cases compares with
  | remainder => simp [isPortable, sidesPortable] at portable
  | size named => exact .inr ⟨_, _, _, rfl, rfl, rfl, isTarget_of_target portable named⟩
  | equality named | test _ named => exact .inl ⟨_, isTarget_of_target portable named⟩

theorem Emits.selectable {naming : FieldNaming} {position : PredicateScope} {negated : Bool}
    {predicate : Expression} {clause : Json} (emits : Emits naming position negated predicate clause)
    (portable : predicate.isPortable naming) : Selectable naming position predicate := by
  induction emits with
  | connective op _ _ first second =>
    simp only [isPortable, Bool.and_eq_true] at portable
    exact .connective op (first portable.1.2) (second portable.2)
  | not _ ih => exact .not (ih portable)
  | quantifier kind named _ ih =>
    simp only [isPortable, Bool.and_eq_true] at portable
    exact .quantifier kind (isTarget_of_target portable.1 named) (ih portable.2)
  | comparison compares =>
    simp only [isPortable, Bool.and_eq_true] at portable
    obtain ⟨target, about⟩ | ⟨collection, count, target, rfl, rfl, rfl, about⟩ :=
      compares.isTarget_or_size portable.1.2
    · exact .leaf (.compare _ _ about portable.2)
    · exact .leaf (.size count about (by simpa [sidesPortable] using portable.1.1))
  | @comparisonFlipped _ _ op _ _ _ compares =>
    simp only [isPortable, Bool.and_eq_true] at portable
    obtain ⟨target, about⟩ | ⟨collection, count, target, rfl, rfl, equal, about⟩ :=
      compares.isTarget_or_size portable.2
    · exact .leaf (.compareFlipped op _ about portable.1.2)
    · cases op <;> cases equal
      exact .leaf (.sizeFlipped count about (by simpa [sidesPortable] using portable.1.1))
  | isIn excluded named listed =>
    simp only [isPortable, Bool.and_eq_true] at portable
    obtain ⟨members, literals⟩ := isLiteralSet_of_literalList portable.2 listed
    exact .isIn excluded (isTarget_of_target portable.1 named) literals
  | contains named listed =>
    simp only [isPortable, Bool.and_eq_true] at portable
    obtain ⟨members, literals⟩ := isLiteralSet_of_literalList portable.2 listed
    exact .leaf (.contains (isTarget_of_target portable.1 named) literals)
  | @presence _ _ operand _ expected named =>
    cases operand with
    | field path kind => exact .leaf (.presence expected portable)
    | item => cases portable
    | _ => cases named
  | isType type named => exact .leaf (.isType type (isTarget_of_target portable named))
  | pattern source named =>
    simp only [isPortable, Bool.and_eq_true, Option.isSome_iff_exists] at portable
    obtain ⟨⟨compiled, parsed⟩, inner⟩ := portable
    exact .leaf (.pattern (isTarget_of_target inner named) parsed)
  | flag path => exact .flag portable
  | item => exact .leaf .item
  | truth b => exact .truth b

theorem selectable_of_selector {naming : FieldNaming} {predicate : Expression} {clause : Json}
    (portable : predicate.isPortable naming) (made : predicate.selector naming = .ok clause) :
    Selectable naming .document predicate :=
  (emits_of_selector made).selectable portable

end DocQuery.Expression
