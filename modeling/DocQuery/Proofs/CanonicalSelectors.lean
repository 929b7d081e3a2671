import DocQuery.Proofs.DraftContents
import DocQuery.Proofs.EmittedClauses
import DocQuery.Proofs.ExpressionParts
import DocQuery.Store.Selector
import Mathlib.Logic.Relation

/-! Selectors are canonical. At every depth no operand of a connective belongs among the operands around it, no
connective has fewer than two, and no negation stands before a condition with a negative form of its own. So
a selector does not tell how the operands of a predicate were grouped or how often it was negated. -/

namespace DocQuery

/-- The key of the operands that belong among the operands of a join. -/
def ConditionJoin.groupKey : ConditionJoin → String
  | .every => "$and"
  | .some | .none => "$or"

namespace SelectorKey

/-- The operators that have a negative form, or that are one. -/
def invertible : List String := ["$or", "$nor", "$not", "$in", "$nin"]

/-- The conditions that the argument of a key consists of. The arguments of tests are literals. -/
def conditions : SelectorKey → Json → List Json
  | .join _, .array members => members
  | .negation, argument | .quantifier _, argument | .path _, argument => [argument]
  | _, _ => []

end SelectorKey

namespace Json

/-- The conditions directly inside a condition. -/
def conditions : Json → List Json
  | .object entries => entries.flatMap fun (key, argument) => (SelectorKey.ofName key).conditions argument
  | _ => []

/-- Whether a condition stands in a selector, at any depth. -/
def ConditionIn : Json → Json → Prop := Relation.ReflTransGen fun outer inner => inner ∈ outer.conditions

/-- Whether a condition is an object with one key alone. -/
def IsLone (key : String) (condition : Json) : Prop := ∃ argument, condition = single key argument

end Json

/-- What a canonical selector has under a key. -/
def SelectorKey.Takes : SelectorKey → Json → Prop
  | .join how, argument =>
    ∃ members, argument = .array members ∧ 2 ≤ members.length ∧ ∀ member ∈ members, ¬member.IsLone how.groupKey
  | .negation, argument => ∀ key ∈ invertible, ¬argument.IsLone key
  | _, _ => True

/-- Whether every key in a selector, at any depth, has what a canonical selector has under it. -/
def Json.IsCanonical (selector : Json) : Prop :=
  ∀ entries, selector.ConditionIn (.object entries) →
    ∀ entry ∈ entries, (SelectorKey.ofName entry.1).Takes entry.2

namespace Json

variable {selector condition argument : Json} {clauses members : List Json} {key : String}

theorem isCanonical_iff : selector.IsCanonical ↔
    (∀ entries, selector = .object entries → ∀ entry ∈ entries, (SelectorKey.ofName entry.1).Takes entry.2) ∧
      ∀ condition ∈ selector.conditions, condition.IsCanonical := by
  constructor
  · intro canonical
    refine ⟨?_, fun condition among entries inside => canonical entries (.head among inside)⟩
    rintro entries rfl
    exact canonical entries .refl
  · rintro ⟨here, below⟩ entries inside
    rcases inside.cases_head with same | ⟨condition, among, inside⟩
    · exact here entries same
    · exact below condition among entries inside

theorem isCanonical_single : (single key argument).IsCanonical ↔
    (SelectorKey.ofName key).Takes argument ∧
      ∀ condition ∈ (SelectorKey.ofName key).conditions argument, condition.IsCanonical := by
  rw [isCanonical_iff]
  simp [single, conditions]

theorem isLone_single {name : String} : (single name argument).IsLone key ↔ name = key := by
  simp [IsLone, single]

theorem isCanonical_matchAll : (Json.object []).IsCanonical :=
  isCanonical_iff.mpr ⟨by rintro _ ⟨⟩; nofun, nofun⟩

/-- What is no object is a literal. -/
theorem isCanonical_literal (literal : ∀ entries, selector ≠ .object entries) : selector.IsCanonical := by
  refine isCanonical_iff.mpr ⟨fun entries same => absurd same (literal entries), ?_⟩
  cases selector with
  | object entries => exact absurd rfl (literal entries)
  | _ => nofun

theorem isCanonical_test {test : ValueTest} (read : SelectorKey.ofName key = .test test) :
    (single key argument).IsCanonical := by
  rw [isCanonical_single, read]
  exact ⟨True.intro, nofun⟩

namespace IsCanonical

theorem path (canonical : condition.IsCanonical) (plain : key.toList.head? ≠ some '$') :
    (single key condition).IsCanonical := by
  rw [isCanonical_single, SelectorKey.ofName_of_head plain]
  exact ⟨True.intro, List.forall_mem_singleton.mpr canonical⟩

theorem quantifier (canonical : condition.IsCanonical) {kind : QuantifierKind}
    (read : SelectorKey.ofName key = .quantifier kind) : (single key condition).IsCanonical := by
  rw [isCanonical_single, read]
  exact ⟨True.intro, List.forall_mem_singleton.mpr canonical⟩

theorem join (how : ConditionJoin) (read : SelectorKey.ofName key = .join how) (several : 2 ≤ members.length)
    (canonical : ∀ member ∈ members, member.IsCanonical ∧ ¬member.IsLone how.groupKey) :
    (single key (.array members)).IsCanonical := by
  rw [isCanonical_single, read]
  exact ⟨⟨members, rfl, several, fun member among => (canonical member among).2⟩,
    fun member among => (canonical member among).1⟩

theorem negatedIf_single (canonical : (single key argument).IsCanonical)
    (positive : key ∉ SelectorKey.invertible) (negated : Bool) :
    (Expression.negatedIf negated (single key argument)).IsCanonical := by
  cases negated with
  | false => exact canonical
  | true =>
    refine isCanonical_single.mpr ⟨fun name among lone => ?_, List.forall_mem_singleton.mpr canonical⟩
    rw [isLone_single] at lone
    exact positive (lone ▸ among)

theorem negatedIf_path (canonical : condition.IsCanonical) (plain : key.toList.head? ≠ some '$')
    (negated : Bool) : (Expression.negatedIf negated (single key condition)).IsCanonical := by
  have operators : ∀ name ∈ SelectorKey.invertible, name.toList.head? = some '$' := by decide
  exact (canonical.path plain).negatedIf_single (fun among => plain (operators key among)) negated

end IsCanonical

theorem isCanonical_truthClause (scope : PredicateScope) (b : Bool) : (truthClause scope b).IsCanonical := by
  cases b with
  | true => exact isCanonical_matchAll
  | false =>
    cases scope with
    | document => exact (isCanonical_test rfl).path (by decide)
    | element =>
      have empty : ∀ key ∈ SelectorKey.invertible, ¬(Json.object []).IsLone key := by rintro key _ ⟨_, ⟨⟩⟩
      exact isCanonical_single.mpr ⟨empty, List.forall_mem_singleton.mpr isCanonical_matchAll⟩

end Json

/-- The join of the operands of a connective. -/
def Connective.joining : Connective → ConditionJoin
  | .and => .every
  | .or => .some

theorem Connective.ofName_key (op : Connective) : SelectorKey.ofName op.key = .join op.joining := by
  cases op <;> rfl

theorem Connective.groupKey_joining (op : Connective) : op.joining.groupKey = op.key := by
  cases op <;> rfl

/-- What a clause turns into when it is flattened: at least one member, and none that could be flattened
further. -/
theorem Json.IsCanonical.spliced {clause : Json} (canonical : clause.IsCanonical) (op : Connective) :
    1 ≤ (spliced op.key [clause]).length ∧
      ∀ member ∈ spliced op.key [clause], member.IsCanonical ∧ ¬member.IsLone op.key := by
  obtain ⟨members, rfl, flat⟩ | flat := spliced_singleton op.key clause
  · rw [isCanonical_single, op.ofName_key] at canonical
    obtain ⟨⟨_, ⟨⟩, several, apart⟩, below⟩ := canonical
    rw [op.groupKey_joining] at apart
    rw [flat]
    exact ⟨by omega, fun member among => ⟨below member among, apart member among⟩⟩
  · rw [flat]
    refine ⟨Nat.le_refl 1, List.forall_mem_singleton.mpr ⟨canonical, ?_⟩⟩
    rintro ⟨argument, rfl⟩
    rw [isCanonical_single, op.ofName_key] at canonical
    obtain ⟨⟨members, rfl, several, _⟩, _⟩ := canonical
    rw [spliced_single] at flat
    have lone := congrArg List.length flat
    rw [List.length_singleton] at lone
    omega

section Flattened

variable {clauses : List Json} (canonical : ∀ clause ∈ clauses, clause.IsCanonical)
include canonical

theorem spliced_isCanonical (op : Connective) :
    clauses.length ≤ (spliced op.key clauses).length ∧
      ∀ member ∈ spliced op.key clauses, member.IsCanonical ∧ ¬member.IsLone op.key := by
  induction clauses with
  | nil => exact ⟨Nat.le_refl 0, nofun⟩
  | cons clause rest ih =>
    obtain ⟨own, others⟩ := List.forall_mem_cons.mp canonical
    obtain ⟨many, flat⟩ := ih others
    obtain ⟨one, ownFlat⟩ := own.spliced op
    rw [← List.singleton_append, Json.spliced_append, List.length_append, List.length_append]
    exact ⟨Nat.add_le_add one many, List.forall_mem_append.mpr ⟨ownFlat, flat⟩⟩

theorem connect_isCanonical (op : Connective) (negated : Bool) (several : 2 ≤ clauses.length) :
    (Expression.connect op negated clauses).IsCanonical := by
  obtain ⟨many, flat⟩ := spliced_isCanonical canonical op
  have enough := Nat.le_trans several many
  cases op with
  | and => exact (Json.IsCanonical.join .every rfl enough flat).negatedIf_single (by decide) negated
  | or =>
    cases negated with
    | false => exact .join .some rfl enough flat
    | true => exact .join .none rfl enough flat

theorem conjunction_isCanonical : (conjunction clauses).IsCanonical := by
  have flat := (spliced_isCanonical canonical .and).2
  have kept : ∀ member ∈ if 1 < (spliced "$and" clauses).length then
      (spliced "$and" clauses).filter (!isMatchAll ·) else spliced "$and" clauses,
      member.IsCanonical ∧ ¬member.IsLone "$and" := by
    intro member among
    split at among
    · exact flat member (List.mem_filter.mp among).1
    · exact flat member among
  unfold conjunction
  simp only
  generalize (if 1 < (spliced "$and" clauses).length then _ else _ : List Json) = members at kept ⊢
  obtain _ | ⟨first, _ | ⟨second, rest⟩⟩ := members
  · exact Json.isCanonical_matchAll
  · exact (kept first (.head _)).1
  · exact .join .every rfl (by simp) kept

end Flattened

namespace Target.IsPlain

variable {target : Target} (plain : target.IsPlain)
include plain

theorem condition_isCanonical {op : String} {argument : Json} (canonical : (single op argument).IsCanonical) :
    (target.condition op argument).IsCanonical := by
  cases target with
  | field name => exact canonical.path (plain name rfl)
  | element => exact canonical

theorem negatedIf_condition {op : String} {argument : Json} (canonical : (single op argument).IsCanonical)
    (positive : op ∉ SelectorKey.invertible) (negated : Bool) :
    (Expression.negatedIf negated (target.condition op argument)).IsCanonical := by
  cases target with
  | field name => exact canonical.negatedIf_path (plain name rfl) negated
  | element => exact canonical.negatedIf_single positive negated

theorem negatedIf_equality (value : Json) (negated : Bool) :
    (Expression.negatedIf negated (target.equality value)).IsCanonical := by
  have compared : (single "$eq" value).IsCanonical := Json.isCanonical_test rfl
  cases target with
  | element => exact compared.negatedIf_single (by decide) negated
  | field name =>
    cases value with
    | object entries => exact compared.negatedIf_path (plain name rfl) negated
    | _ =>
      refine (Json.isCanonical_literal ?_).negatedIf_path (plain name rfl) negated
      nofun

end Target.IsPlain

namespace Expression

variable {naming : FieldNaming} {position : PredicateScope} {clause : Json}

/-- Whether an expression, if it is a field, has a name that is not taken for an operator. -/
def HasPlainName (naming : FieldNaming) (part : Expression) : Prop :=
  ∀ path kind, part = .field path kind → (naming.resolve path).toList.head? ≠ some '$'

theorem Compares.isCanonical {op : Comparison} {left : Expression} {value : Value}
    (compares : Compares naming position op left value clause) (plain : left.Everywhere (HasPlainName naming))
    (negated : Bool) : (negatedIf negated clause).IsCanonical := by
  cases compares with
  | remainder named | size named =>
    have subject := isPlain_of_target (plain.child (.head _) _ .whole) named
    exact subject.negatedIf_condition (Json.isCanonical_test rfl) (by decide) negated
  | equality named => exact (isPlain_of_target (plain _ .whole) named).negatedIf_equality _ negated
  | test other named =>
    have subject := isPlain_of_target (plain _ .whole) named
    cases op with
    | eq => exact absurd rfl other
    | _ => exact subject.negatedIf_condition (Json.isCanonical_test rfl) (by decide) negated

theorem Emits.isCanonical {negated : Bool} {predicate : Expression}
    (emits : Emits naming position negated predicate clause)
    (plain : predicate.Everywhere (HasPlainName naming)) : clause.IsCanonical := by
  induction emits with
  | connective op _ _ first second =>
    refine connect_isCanonical (fun clause among => ?_) op _ (Nat.le_refl 2)
    rcases List.mem_pair.mp among with rfl | rfl
    · exact first (plain.child (.head _))
    · exact second (plain.child (.tail _ (.head _)))
  | not _ ih => exact ih (plain.child (.head _))
  | quantifier kind named _ ih =>
    have subject := isPlain_of_target (plain.child (.head _) _ .whole) named
    have inner := ih (plain.child (.tail _ (.head _)))
    cases kind <;> exact subject.negatedIf_condition (inner.quantifier rfl) (by decide) _
  | comparison compares => exact compares.isCanonical (plain.child (.head _)) _
  | comparisonFlipped compares => exact compares.isCanonical (plain.child (.tail _ (.head _))) _
  | @isIn _ negated _ _ _ _ excluded named listed =>
    have subject := isPlain_of_target (plain.child (.head _) _ .whole) named
    cases excluded != negated <;> exact subject.condition_isCanonical (Json.isCanonical_test rfl)
  | contains named | presence _ named | isType _ named | pattern _ named =>
    have subject := isPlain_of_target (plain.child (.head _) _ .whole) named
    exact subject.negatedIf_condition (Json.isCanonical_test rfl) (by decide) _
  | @flag _ negated path =>
    have subject : (Target.field (naming.resolve path)).IsPlain := by
      rintro _ ⟨⟩
      exact plain _ .whole path .boolean rfl
    exact subject.negatedIf_equality (.bool !negated) false
  | item =>
    have subject : Target.element.IsPlain := nofun
    exact subject.negatedIf_equality _ _
  | truth b => exact Json.isCanonical_truthClause _ _

/-- Predicates that differ in the grouping of the operands of one connective and in double negations only. -/
inductive Regroups : Expression → Expression → Prop where
  | refl (predicate) : Regroups predicate predicate
  | symm {first second} (same : Regroups first second) : Regroups second first
  | trans {first second third} (same : Regroups first second) (further : Regroups second third) :
      Regroups first third
  | associate (op : Connective) (first second third) :
      Regroups (.binary (.connective op) (.binary (.connective op) first second) third)
        (.binary (.connective op) first (.binary (.connective op) second third))
  | doubleNegation (predicate) : Regroups (.unary .not (.unary .not predicate)) predicate
  | connective (op : Connective) {left right first second} (ofLeft : Regroups left first)
      (ofRight : Regroups right second) :
      Regroups (.binary (.connective op) left right) (.binary (.connective op) first second)
  | not {operand other} (ofOperand : Regroups operand other) :
      Regroups (.unary .not operand) (.unary .not other)
  | quantifier (kind : QuantifierKind) (collection) {predicate other}
      (ofPredicate : Regroups predicate other) :
      Regroups (.quantifier kind collection predicate) (.quantifier kind collection other)

namespace Regroups

variable {first second : Expression}

theorem clauses_eq (same : Regroups first second) : ∀ position negated,
    first.clauses naming position none negated = second.clauses naming position none negated := by
  induction same with
  | refl => exact fun _ _ => rfl
  | symm _ ih => exact fun position negated => (ih position negated).symm
  | trans _ _ first second =>
    exact fun position negated => (first position negated).trans (second position negated)
  | associate op first second third =>
    intro position negated
    simp only [clauses_connective, bind_assoc, ok_bind]
    congr 1
    funext ofFirst
    congr 1
    funext ofSecond
    congr 1
    funext ofThird
    have flat : spliced op.key ([connect op false (ofFirst ++ ofSecond)] ++ ofThird) =
        spliced op.key (ofFirst ++ [connect op false (ofSecond ++ ofThird)]) := by
      simp only [Json.spliced_append, spliced_connect, List.append_assoc]
    rw [connect_congr op negated flat]
  | doubleNegation predicate =>
    intro position negated
    cases negated <;> rfl
  | connective op _ _ ofLeft ofRight =>
    intro position negated
    rw [clauses_connective, clauses_connective, ofLeft, ofRight]
  | not _ ih => exact fun position negated => ih position (!negated)
  | quantifier kind collection _ ih =>
    intro position negated
    rw [clauses, clauses, ih]

theorem selector_eq (same : Regroups first second) : first.selector naming = second.selector naming :=
  congrArg (fun found => found >>= _) (same.clauses_eq .document false)

end Regroups

end Expression

namespace RequestDraft

variable {naming : FieldNaming} {discriminator : Option String}

/-- The selector of a request is canonical if each clause of its draft is. -/
theorem selector?_finish {draft : RequestDraft} {request : FindRequest}
    (canonical : ∀ clause ∈ draft.clauses, clause.IsCanonical)
    (finished : draft.finish discriminator = .ok request) :
    ∃ selector, request.selector? = some selector ∧ selector.IsCanonical := by
  obtain ⟨full, completed, rfl⟩ := finish_eq_ok.mp finished
  have clauses : ∀ clause ∈ full.selectorClauses discriminator, clause.IsCanonical := by
    rw [← clauses_of_complete completed] at canonical
    cases discriminator with
    | none => exact canonical
    | some name =>
      refine List.forall_mem_cons.mpr ⟨Json.IsCanonical.path (Json.isCanonical_literal ?_) (by decide), canonical⟩
      nofun
  exact ⟨_, full.selector?_request discriminator, conjunction_isCanonical clauses⟩

theorem clauses_isCanonical {steps : List Step} {draft : RequestDraft}
    (plain : ∀ predicate, .filter predicate ∈ steps → predicate.Everywhere (Expression.HasPlainName naming))
    (drafted : ofChain naming steps.reverse = .ok draft) :
    ∀ clause ∈ draft.clauses, clause.IsCanonical := by
  intro clause among
  obtain ⟨predicate, filtered, made⟩ := exists_of_mem_mapM (records_ofChain drafted).clauses among
  obtain ⟨step, there, filters⟩ := List.mem_filterMap.mp filtered
  cases step with
  | filter _ =>
    cases filters
    exact (Expression.emits_of_selector made).isCanonical (plain predicate there)
  | _ => cases filters

theorem ofChain_replace {step other : Step}
    (same : ∀ draft, addStep naming draft step = addStep naming draft other) (later earlier : List Step) :
    ofChain naming (later ++ step :: earlier) = ofChain naming (later ++ other :: earlier) := by
  induction later with
  | nil => exact congrArg (fun next => ofChain naming earlier >>= next) (funext same)
  | cons last rest ih => exact congrArg (· >>= _) ih

end RequestDraft

/-- Every selector of a predicate or of a request is canonical, unless a field is taken for an operator. It
is the same however the operands of conjunctions and disjunctions are grouped, with or without double
negations; a predicate without a selector has none in any grouping. -/
theorem selectors_canonical (naming : FieldNaming) :
    (∀ (predicate : Expression) (clause : Json),
      (∀ path kind, Expression.PartOf predicate (.field path kind) →
        (naming.resolve path).toList.head? ≠ some '$') →
      predicate.selector naming = .ok clause → clause.IsCanonical) ∧
    (∀ (discriminator : Option String) (steps : List Step) (request : FindRequest),
      (∀ predicate path kind, .filter predicate ∈ steps → Expression.PartOf predicate (.field path kind) →
        (naming.resolve path).toList.head? ≠ some '$') →
      FindRequest.ofChain naming discriminator steps.reverse = .ok request →
        ∃ selector, request.selector? = some selector ∧ selector.IsCanonical) ∧
    ∀ first second : Expression, first.Regroups second →
      first.selector naming = second.selector naming ∧
      ∀ (discriminator : Option String) (before after : List Step),
        FindRequest.ofChain naming discriminator (before ++ .filter first :: after).reverse =
          FindRequest.ofChain naming discriminator (before ++ .filter second :: after).reverse := by
  refine ⟨fun predicate clause plain made => ?_, fun discriminator steps request plain made => ?_,
    fun first second same => ⟨same.selector_eq, fun discriminator before after => ?_⟩⟩
  · refine (Expression.emits_of_selector made).isCanonical ?_
    rintro _ inside path kind rfl
    exact plain path kind inside
  · obtain ⟨draft, drafted, finished⟩ := bind_eq_ok.mp made
    refine RequestDraft.selector?_finish (RequestDraft.clauses_isCanonical ?_ drafted) finished
    rintro predicate among _ inside path kind rfl
    exact plain predicate path kind among inside
  · have step (draft : RequestDraft) :
        draft.addStep naming (.filter first) = draft.addStep naming (.filter second) := by
      simp only [RequestDraft.addStep, RequestDraft.addFilter, same.selector_eq]
    simp only [List.reverse_append, List.reverse_cons, List.append_assoc, List.singleton_append]
    exact congrArg (· >>= _) (RequestDraft.ofChain_replace step after.reverse before.reverse)

/-- The public documents that are pinned and recent. -/
theorem selectors_canonical_pinned :
    let naming : FieldNaming := .ofCase .unchanged
    let flag (name : String) : Expression := .field ⟨[name]⟩ .boolean
    let both (left right : Expression) : Expression := .binary (.connective .and) left right
    let first := both (flag "public") (.unary .not (.unary .not (both (flag "pinned") (flag "recent"))))
    let second := both (both (flag "public") (flag "pinned")) (flag "recent")
    ∃ request selector, FindRequest.ofChain naming none [.filter first] = .ok request ∧
      FindRequest.ofChain naming none [.filter second] = .ok request ∧
      request.selector? = some selector ∧ selector.IsCanonical := by
  intro naming flag both first second
  have fields (predicate path kind) (filtered : Step.filter predicate ∈ [.filter first])
      (inside : Expression.PartOf predicate (.field path kind)) :
      (naming.resolve path).toList.head? ≠ some '$' := by
    cases List.mem_singleton.mp filtered
    let last := both (flag "pinned") (flag "recent")
    have listed : .field path kind ∈ [first, flag "public", .unary .not (.unary .not last), .unary .not last,
        last, flag "pinned", flag "recent"] :=
      inside.mem_of_closed (.head _) (by simp [first, last, flag, both, Expression.children])
    have named : path = ⟨["public"]⟩ ∧ kind = .boolean ∨ path = ⟨["pinned"]⟩ ∧ kind = .boolean ∨
        path = ⟨["recent"]⟩ ∧ kind = .boolean := by
      simpa [first, last, flag, both] using listed
    rcases named with ⟨rfl, _⟩ | ⟨rfl, _⟩ | ⟨rfl, _⟩ <;> decide
  have same : first.Regroups second :=
    .trans (.connective .and (.refl _) (.doubleNegation _)) (.symm (.associate .and _ _ _))
  obtain ⟨_, canonical, regrouped⟩ := selectors_canonical naming
  obtain ⟨selector, found, lawful⟩ := canonical none [.filter first] _ fields rfl
  exact ⟨_, selector, rfl, ((regrouped first second same).2 none [] []).symm, found, lawful⟩

end DocQuery
