import DocQuery.Plan.Operator

/-!
Plans. A plan is an operator over all documents of a database. Its steps can be listed in the order in
which they are carried out, and as a chain from the last to the first, as queries are taken apart.
-/

namespace DocQuery

structure Plan where
  root : Operator
deriving Inhabited, BEq, Repr

namespace Plan

/-- The plan of steps in the order in which they are carried out. -/
def ofSteps (steps : List Step) : Plan := ⟨steps.foldl Operator.wrap .allDocuments⟩

/-- The plan of a chain, which lists the last step first. -/
def ofChain (chain : List Step) : Plan :=
  ⟨chain.foldr (fun step input => input.wrap step) .allDocuments⟩

def chain (plan : Plan) : List Step := plan.root.chain

def steps (plan : Plan) : List Step := plan.chain.reverse

def push (plan : Plan) (step : Step) : Plan := ⟨plan.root.wrap step⟩

@[simp] theorem root_chain (plan : Plan) : plan.root.chain = plan.chain := rfl

@[simp] theorem chain_ofChain (chain : List Step) : (ofChain chain).chain = chain := by
  induction chain with
  | nil => rfl
  | cons step input ih => exact (Operator.chain_wrap _ step).trans (congrArg (step :: ·) ih)

@[simp] theorem ofChain_chain (plan : Plan) : ofChain plan.chain = plan := by
  obtain ⟨root⟩ := plan
  refine congrArg mk ?_
  induction root using Operator.wrap_induction with
  | allDocuments => rfl
  | wrap input step ih =>
    change List.foldr _ _ (input.wrap step).chain = _
    rw [Operator.chain_wrap, List.foldr_cons]
    exact congrArg (Operator.wrap · step) ih

theorem ofSteps_eq (steps : List Step) : ofSteps steps = ofChain steps.reverse :=
  congrArg mk List.foldr_reverse.symm

@[simp] theorem chain_ofSteps (steps : List Step) : (ofSteps steps).chain = steps.reverse := by
  rw [ofSteps_eq, chain_ofChain]

theorem steps_ofSteps (steps : List Step) : (ofSteps steps).steps = steps := by
  simp [Plan.steps]

theorem ofSteps_steps (plan : Plan) : ofSteps plan.steps = plan := by
  simp [ofSteps_eq, Plan.steps]

end Plan
end DocQuery
