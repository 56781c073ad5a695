import RelationGraph.Load

set_option autoImplicit false

namespace RelationGraph

namespace Link

def parentColumns (link : Link) : List String := link.keys.keys

def childColumns (link : Link) : List String := link.keys.values

end Link

namespace RelationTree

mutual

def subtrees : RelationTree → List RelationTree
  | ⟨relation, name, link, nodes⟩ => ⟨relation, name, link, nodes⟩ :: subtreesIn nodes

def subtreesIn : List RelationTree → List RelationTree
  | [] => []
  | tree :: rest => subtrees tree ++ subtreesIn rest

end

def descendants (tree : RelationTree) : List RelationTree := subtreesIn tree.nodes

theorem subtrees_eq (tree : RelationTree) : tree.subtrees = tree :: tree.descendants := by
  cases tree
  rfl

theorem mem_subtreesIn {node : RelationTree} {trees : List RelationTree} :
    node ∈ subtreesIn trees ↔ ∃ tree ∈ trees, node ∈ tree.subtrees := by
  induction trees with
  | nil => simp [subtreesIn]
  | cons tree rest ih => simp [subtreesIn, ih]

theorem self_mem_subtrees (tree : RelationTree) : tree ∈ tree.subtrees := by
  rw [subtrees_eq]
  exact List.mem_cons_self

theorem mem_descendants_of_mem_nodes {tree node other : RelationTree} (child : node ∈ tree.nodes)
    (inside : other ∈ node.subtrees) : other ∈ tree.descendants :=
  mem_subtreesIn.mpr ⟨node, child, inside⟩

theorem mem_subtrees_of_mem_descendants {tree node : RelationTree}
    (inside : node ∈ tree.descendants) : node ∈ tree.subtrees := by
  rw [subtrees_eq]
  exact List.mem_cons_of_mem _ inside

theorem mem_subtrees_of_mem_nodes {tree node other : RelationTree} (child : node ∈ tree.nodes)
    (inside : other ∈ node.subtrees) : other ∈ tree.subtrees :=
  mem_subtrees_of_mem_descendants (mem_descendants_of_mem_nodes child inside)

theorem sizeOf_lt_of_mem_nodes {tree node : RelationTree} (child : node ∈ tree.nodes) :
    sizeOf node < sizeOf tree := by
  have inside := List.sizeOf_lt_of_mem child
  cases tree
  simp only [mk.sizeOf_spec]
  dsimp only at inside
  omega

theorem induction {motive : RelationTree → Prop}
    (step : ∀ tree, (∀ node ∈ tree.nodes, motive node) → motive tree) (tree : RelationTree) :
    motive tree :=
  step tree fun node _ => induction step node
termination_by sizeOf tree
decreasing_by exact sizeOf_lt_of_mem_nodes (by assumption)

theorem mem_descendants_of_mem_subtrees {tree other node : RelationTree}
    (inside : other ∈ tree.subtrees) (child : node ∈ other.nodes) : node ∈ tree.descendants := by
  induction tree using induction with
  | step tree ih =>
    rw [subtrees_eq] at inside
    rcases List.mem_cons.mp inside with rfl | below
    · exact mem_descendants_of_mem_nodes child node.self_mem_subtrees
    · obtain ⟨top, given, within⟩ := mem_subtreesIn.mp below
      exact mem_descendants_of_mem_nodes given
        (mem_subtrees_of_mem_descendants (ih top given within))

/-- No name of a node is a column of the parent that a node beside it is joined on. -/
def SiblingsApart (tree : RelationTree) : Prop :=
  ∀ node ∈ tree.subtrees, node.nodes.Pairwise fun first second =>
    first.name ∉ second.link.parentColumns ∧ second.name ∉ first.link.parentColumns

theorem SiblingsApart.of_mem_nodes {tree node : RelationTree} (apart : tree.SiblingsApart)
    (child : node ∈ tree.nodes) : node.SiblingsApart :=
  fun other inside => apart other (mem_subtrees_of_mem_nodes child inside)

end RelationTree

end RelationGraph
