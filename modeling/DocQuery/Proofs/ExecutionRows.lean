import DocQuery.Execution.Steps
import DocQuery.Proofs.CollationOrder
import DocQuery.Proofs.FilterRewriting
import DocQuery.Proofs.StableSorting

/-! Filters, orders and pages turn lists of documents into lists of documents. On documents that have
an identity and no numbers but words they cannot fail, and carrying them out one after the other is
one function of the list. -/

namespace DocQuery

/-- A document with an identity whose numbers are words. -/
structure Json.IsRow (document : Json) : Prop where
  identity : (document.get? "_id").isSome
  words : document.hasOnlyWords

/-- The documents that steps have left, and the fields by which they are sorted. -/
structure Rows where
  documents : List Json
  sortKeys : List SortKey

namespace Step

/-- The documents that a step makes of others, given the fields by which it leaves them sorted. -/
def rows (step : Step) (naming : FieldNaming) (keys : List SortKey) (documents : List Json) :
    List Json :=
  match step with
  | .filter predicate => documents.filter (predicate.accepts naming)
  | .orderBy .. | .thenBy .. => sortDocuments keys documents
  | .skip count => documents.drop count
  | .take count => documents.take count
  | .project fields =>
    documents.map (·.project (fields.map fun field => wireKeys (naming.resolve field)))
  | _ => documents

/-- The steps that choose and order documents and leave them as they are. -/
inductive KeepsRows (naming : FieldNaming) : Step → Prop where
  | filter {predicate} (selectable : Expression.Selectable naming .document predicate) :
      KeepsRows naming (.filter predicate)
  | orderBy (field order) : KeepsRows naming (.orderBy field order)
  | thenBy (field order) : KeepsRows naming (.thenBy field order)
  | skip (count) : KeepsRows naming (.skip count)
  | take {count} (word : count < natBound64) : KeepsRows naming (.take count)

end Step

/-- Chains of steps that choose and order documents, at most with a projection at the end. -/
inductive IsRowChain (naming : FieldNaming) : List Step → Prop where
  | body {chain} (keeps : ∀ step ∈ chain, step.KeepsRows naming) : IsRowChain naming chain
  | project (fields) {chain} (keeps : ∀ step ∈ chain, step.KeepsRows naming) :
      IsRowChain naming (.project fields :: chain)

namespace Rows

def ofDocuments (documents : List Json) : Rows := ⟨documents, []⟩

def advance (naming : FieldNaming) (step : Step) (rows : Rows) : Rows :=
  let keys := step.sortKeys naming rows.sortKeys
  ⟨step.rows naming keys rows.documents, keys⟩

def run (naming : FieldNaming) (chain : List Step) (rows : Rows) : Rows :=
  chain.foldr (advance naming) rows

def execution (rows : Rows) : Execution := ⟨.documents rows.documents, rows.sortKeys⟩

def Proper (rows : Rows) : Prop := ∀ document ∈ rows.documents, document.IsRow

variable {naming : FieldNaming} {step : Step} {chain : List Step} {rows : Rows}

theorem mem_advance (keeps : step.KeepsRows naming) {document : Json}
    (member : document ∈ (rows.advance naming step).documents) : document ∈ rows.documents := by
  cases keeps with
  | filter => exact (List.mem_filter.mp member).1
  | orderBy | thenBy => exact mem_sortBy.mp member
  | skip => exact List.mem_of_mem_drop member
  | take => exact List.mem_of_mem_take member

theorem Proper.advance (proper : rows.Proper) (keeps : step.KeepsRows naming) :
    (rows.advance naming step).Proper :=
  fun document member => proper document (mem_advance keeps member)

theorem Proper.run (proper : rows.Proper) (keeps : ∀ step ∈ chain, step.KeepsRows naming) :
    (rows.run naming chain).Proper := by
  induction chain with
  | nil => exact proper
  | cons step input ih =>
    obtain ⟨last, earlier⟩ := List.forall_mem_cons.mp keeps
    exact (ih earlier).advance last

theorem advance_execution (proper : rows.Proper) (keeps : step.KeepsRows naming) :
    rows.execution.advance naming step = .ok (rows.advance naming step).execution := by
  cases keeps with
  | @filter predicate selectable =>
    have kept : keepMatching naming predicate rows.documents =
        .ok (rows.documents.filter (predicate.accepts naming)) :=
      keepItems_of_answers fun document member =>
        selectable.holds_eq (proper document member).identity
    simp only [Execution.advance, execution, Step.apply, kept]
    rfl
  | _ => rfl

theorem run_execution (proper : rows.Proper) (isChain : IsRowChain naming chain) :
    chain.reverse.foldlM (Execution.advance naming) rows.execution =
      .ok (rows.run naming chain).execution := by
  have body : ∀ chain : List Step, (∀ step ∈ chain, step.KeepsRows naming) →
      chain.reverse.foldlM (Execution.advance naming) rows.execution =
        .ok (rows.run naming chain).execution := by
    intro chain keeps
    induction chain with
    | nil => rfl
    | cons step input ih =>
      obtain ⟨last, earlier⟩ := List.forall_mem_cons.mp keeps
      have advanced := advance_execution (proper.run earlier) last
      rw [List.reverse_cons, List.foldlM_append, ih earlier, ok_bind, List.foldlM_cons, advanced]
      rfl
  cases isChain with
  | body keeps => exact body chain keeps
  | project fields keeps =>
    rw [List.reverse_cons, List.foldlM_append, body _ keeps]
    rfl

theorem runSteps_eq {documents : List Json} (proper : (ofDocuments documents).Proper)
    (isChain : IsRowChain naming chain) :
    runSteps naming chain.reverse documents =
      (checkSteps false chain.reverse).map fun _ =>
        .documents ((ofDocuments documents).run naming chain).documents := by
  have ran := run_execution proper isChain
  rw [runSteps]
  cases checkSteps false chain.reverse with
  | error failure => rfl
  | ok checked =>
    change ((chain.reverse.foldlM (Execution.advance naming) (ofDocuments documents).execution) >>=
      fun last => Except.ok last.output) = _
    rw [ran]
    rfl

end Rows

theorem isRow_filter {documents : List Json} (proper : ∀ document ∈ documents, document.IsRow)
    (keep : Json → Bool) : ∀ document ∈ documents.filter keep, document.IsRow :=
  fun document member => proper document (List.mem_filter.mp member).1

/-- Sorting by some fields after sorting by the first of them is sorting by all. -/
theorem sortDocuments_refine {documents : List Json} (proper : ∀ document ∈ documents, document.IsRow)
    (keys finer : List SortKey) :
    sortDocuments (keys ++ finer) (sortDocuments keys documents) =
      sortDocuments (keys ++ finer) documents := by
  have refined : SortKey.compareAll (keys ++ finer) = fun a b =>
      (SortKey.compareAll keys a b).then (SortKey.compareAll finer a b) := by
    funext a b
    exact SortKey.compareAll_append keys finer a b
  have stable := (SortKey.compareAll_orders keys).sortBy_refine (SortKey.compareAll_orders finer)
    fun document member => (proper document member).words
  rw [← refined] at stable
  exact stable

theorem filter_sortDocuments {documents : List Json}
    (proper : ∀ document ∈ documents, document.IsRow) (keys : List SortKey) (keep : Json → Bool) :
    (sortDocuments keys documents).filter keep = sortDocuments keys (documents.filter keep) :=
  (SortKey.compareAll_orders keys).filter_sortBy
    (fun document member => (proper document member).words) keep

theorem sortDocuments_nil (documents : List Json) : sortDocuments [] documents = documents := by
  have orders : Orders (SortKey.compareAll []) fun _ => True := .trivial
  exact orders.sortBy_of_inOrder (fun _ _ => trivial) (List.pairwise_of_forall fun _ _ => rfl)

end DocQuery
