import RelationGraph.RelationTree

set_option autoImplicit false

namespace RelationGraph

/-- A relation of a plan with the relations below it. -/
structure PlanTree where
  name : String
  base : RelationName
  link : Link
  nodes : List PlanTree

namespace Plan

mutual

/-- The relations at the top of a plan, headers opened, each with those below it. -/
def trees : Plan → List PlanTree
  | .relation name base link content => [⟨name, base, link, treesIn content⟩]
  | .header nodes => treesIn nodes
  | .attribute _ => []

def treesIn : List Plan → List PlanTree
  | [] => []
  | plan :: rest => trees plan ++ treesIn rest

end

mutual

/-- What stands behind the relations of a plan, all of them in pre-order. -/
def bases : Plan → List RelationName
  | .relation _ base _ content => base :: basesIn content
  | .header nodes => basesIn nodes
  | .attribute _ => []

def basesIn : List Plan → List RelationName
  | [] => []
  | plan :: rest => bases plan ++ basesIn rest

end

/-- A node stands among plans, possibly in headers inside headers. -/
inductive Among (node : Plan) : List Plan → Prop
  | here {rest : List Plan} : Among node (node :: rest)
  | later {plan : Plan} {rest : List Plan} (later : Among node rest) : Among node (plan :: rest)
  | inside {nodes rest : List Plan} (inside : Among node nodes) :
      Among node (.header nodes :: rest)

end Plan

namespace PlanTree

mutual

def bases : PlanTree → List RelationName
  | ⟨_, base, _, nodes⟩ => base :: basesIn nodes

def basesIn : List PlanTree → List RelationName
  | [] => []
  | tree :: rest => bases tree ++ basesIn rest

end

theorem sizeOf_lt_of_mem_nodes {tree node : PlanTree} (child : node ∈ tree.nodes) :
    sizeOf node < sizeOf tree := by
  have inside := List.sizeOf_lt_of_mem child
  cases tree
  simp only [mk.sizeOf_spec]
  dsimp only at inside
  omega

/-- What passes from the nodes of every tree to the tree itself holds of all trees. -/
theorem induction {motive : PlanTree → Prop}
    (step : ∀ tree, (∀ node ∈ tree.nodes, motive node) → motive tree) (tree : PlanTree) :
    motive tree :=
  step tree fun node _ => induction step node
termination_by sizeOf tree
decreasing_by exact sizeOf_lt_of_mem_nodes (by assumption)

theorem bases_eq (tree : PlanTree) : tree.bases = tree.base :: basesIn tree.nodes := by
  cases tree
  rfl

theorem basesIn_append (first second : List PlanTree) :
    basesIn (first ++ second) = basesIn first ++ basesIn second := by
  induction first with
  | nil => rfl
  | cons tree rest ih => rw [List.cons_append, basesIn, basesIn, ih, List.append_assoc]

end PlanTree

namespace Plan

mutual

theorem bases_trees (plan : Plan) : PlanTree.basesIn plan.trees = plan.bases := by
  match plan with
  | .relation name base link content =>
    rw [trees, bases, PlanTree.basesIn, PlanTree.basesIn, PlanTree.bases, basesIn_treesIn content,
      List.append_nil]
  | .header nodes =>
    rw [trees, bases]
    exact basesIn_treesIn nodes
  | .attribute name => rfl

theorem basesIn_treesIn (plans : List Plan) : PlanTree.basesIn (treesIn plans) = basesIn plans := by
  cases plans with
  | nil => rfl
  | cons plan rest =>
    rw [treesIn, basesIn, PlanTree.basesIn_append, bases_trees plan, basesIn_treesIn rest]

end

mutual

theorem exists_among_of_trees {plan : Plan} {rest : List Plan} {tree : PlanTree}
    (member : tree ∈ plan.trees) :
    ∃ name base link content, Among (.relation name base link content) (plan :: rest) := by
  match plan with
  | .relation name base link content => exact ⟨name, base, link, content, .here⟩
  | .header nodes =>
    rw [trees] at member
    obtain ⟨name, base, link, content, inside⟩ := exists_among_of_treesIn member
    exact ⟨name, base, link, content, .inside inside⟩
  | .attribute name => cases member

theorem exists_among_of_treesIn {plans : List Plan} {tree : PlanTree}
    (member : tree ∈ treesIn plans) :
    ∃ name base link content, Among (.relation name base link content) plans := by
  cases plans with
  | nil => cases member
  | cons plan rest =>
    rcases List.mem_append.mp member with here | later
    · exact exists_among_of_trees here
    · obtain ⟨name, base, link, content, among⟩ := exists_among_of_treesIn later
      exact ⟨name, base, link, content, .later among⟩

end

theorem treesIn_ne_nil_of_among {name : String} {base : RelationName} {link : Link}
    {content plans : List Plan} (among : Among (.relation name base link content) plans) :
    treesIn plans ≠ [] := by
  induction among with
  | here => simp [treesIn, trees]
  | later _ ih => simp [treesIn, ih]
  | inside _ ih => simp [treesIn, trees, ih]

/-- There are trees among plans exactly where a relation stands among them. -/
theorem treesIn_ne_nil_iff {plans : List Plan} :
    treesIn plans ≠ [] ↔
      ∃ name base link content, Among (.relation name base link content) plans := by
  constructor
  · intro some
    obtain ⟨tree, member⟩ := List.exists_mem_of_ne_nil _ some
    exact exists_among_of_treesIn member
  · rintro ⟨name, base, link, content, among⟩
    exact treesIn_ne_nil_of_among among

end Plan

/-! ### Plans of trees -/

namespace RelationTree

mutual

/-- The tree of the relations in the plan of a tree. -/
def planTree : RelationTree → PlanTree
  | ⟨relation, name, link, nodes⟩ => ⟨name, relation.name, link, planTrees nodes⟩

def planTrees : List RelationTree → List PlanTree
  | [] => []
  | tree :: rest => planTree tree :: planTrees rest

end

theorem planTrees_eq_map (trees : List RelationTree) : planTrees trees = trees.map planTree := by
  induction trees with
  | nil => rfl
  | cons tree rest ih => rw [planTrees, List.map_cons, ih]

theorem planTree_eq (tree : RelationTree) :
    tree.planTree = ⟨tree.name, tree.baseName, tree.link, tree.nodes.map planTree⟩ := by
  cases tree
  rw [planTree, planTrees_eq_map]
  rfl

theorem treesIn_attributes_append (names : List String) (plans : List Plan) :
    Plan.treesIn (names.map Plan.attribute ++ plans) = Plan.treesIn plans := by
  induction names with
  | nil => rfl
  | cons name rest ih =>
    rw [List.map_cons, List.cons_append, Plan.treesIn, ih]
    rfl

mutual

theorem trees_toPlan (tree : RelationTree) : tree.toPlan.trees = [tree.planTree] := by
  match tree with
  | ⟨relation, name, link, nodes⟩ =>
    rw [toPlan, Plan.trees, treesIn_attributes_append, treesIn_toPlans nodes, planTree]

theorem treesIn_toPlans (trees : List RelationTree) :
    Plan.treesIn (toPlans trees) = planTrees trees := by
  match trees with
  | [] => rfl
  | tree :: rest =>
    rw [toPlans, Plan.treesIn, trees_toPlan tree, treesIn_toPlans rest]
    rfl

end

end RelationTree

/-! ### Visits -/

section Visit

variable {m : Type → Type} {β : Type} [Monad m]

namespace PlanTree

mutual

def visit (visitor : Plan.Visitor m β) (depth : Nat) : PlanTree → m β
  | ⟨name, base, link, nodes⟩ =>
    visitor.onRelation name base link depth (visitAll visitor (depth + 1) nodes)

def visitAll (visitor : Plan.Visitor m β) (depth : Nat) : List PlanTree → m (List β)
  | [] => return []
  | tree :: rest => do
    let first ← visit visitor depth tree
    return first :: (← visitAll visitor depth rest)

end

theorem visit_eq (visitor : Plan.Visitor m β) (depth : Nat) (tree : PlanTree) :
    tree.visit visitor depth =
      visitor.onRelation tree.name tree.base tree.link depth
        (visitAll visitor (depth + 1) tree.nodes) := by
  cases tree
  rfl

theorem visitAll_append [LawfulMonad m] (visitor : Plan.Visitor m β) (depth : Nat)
    (first second : List PlanTree) :
    visitAll visitor depth (first ++ second) = (do
      let before ← visitAll visitor depth first
      return before ++ (← visitAll visitor depth second)) := by
  induction first with
  | nil => simp [visitAll]
  | cons tree rest ih => simp [visitAll, ih]

end PlanTree

namespace Plan

variable [LawfulMonad m] {visitor : Visitor m β}

mutual

theorem visit_eq_visitAll_trees (silent : ∀ name, visitor.onAttribute name = none) (depth : Nat)
    (plan : Plan) : visit visitor depth plan = PlanTree.visitAll visitor depth plan.trees := by
  match plan with
  | .relation name base link content =>
    rw [visit, trees, visitAll_eq silent (depth + 1) content]
    simp [PlanTree.visitAll, PlanTree.visit]
  | .header nodes =>
    rw [visit, trees]
    exact visitAll_eq silent depth nodes
  | .attribute name =>
    rw [visit, silent]
    rfl

/-- A visit of plans that passes over attributes visits the trees of their relations. -/
theorem visitAll_eq (silent : ∀ name, visitor.onAttribute name = none) (depth : Nat)
    (plans : List Plan) :
    visitAll visitor depth plans = PlanTree.visitAll visitor depth (treesIn plans) := by
  cases plans with
  | nil => rfl
  | cons plan rest =>
    rw [visitAll, treesIn, PlanTree.visitAll_append, visit_eq_visitAll_trees silent depth plan,
      visitAll_eq silent depth rest]

end

end Plan

end Visit

end RelationGraph
