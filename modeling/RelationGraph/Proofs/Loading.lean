import RelationGraph.Proofs.Combining
import RelationGraph.Proofs.Joins

/-!
Loading a tree is joining it tuple by tuple.

A node is fetched once for all parents, given its own children first and handed out afterwards. Two
things could go wrong on the way: a value put into a parent or a child could cover a column that is
joined on, and the criteria of the fetch could leave out a child. The first is excluded where names
stand apart from join columns, the second never happens.
-/

set_option autoImplicit false

namespace RelationGraph

theorem Relation.load_eq {relation : Relation}
    (accepts : relation.gateway.refuse .fetch = none) (store : Store) :
    relation.load store = .ok ((relation.rows store).filter relation.criteria.matchesTuple) := by
  simp only [Relation.load, Gateway.fetch, Gateway.permit, accepts]
  rfl

namespace RelationTree

def Readable (tree : RelationTree) : Prop :=
  ∀ node ∈ tree.subtrees, node.relation.gateway.refuse .fetch = none

theorem Readable.of_mem_nodes {tree node : RelationTree} (readable : tree.Readable)
    (child : node ∈ tree.nodes) : node.Readable :=
  fun other inside => readable other (mem_subtrees_of_mem_nodes child inside)

theorem nestNode_eq {store : Store} {parents : List Tuple} {node : RelationTree}
    (given : parents ≠ []) (accepts : node.relation.gateway.refuse .fetch = none) :
    nestNode store parents node =
      (nestAll store ((node.relation.rows store).filter
        (node.relation.criteria.merge (node.link.keys.restriction parents)).matchesTuple)
          node.nodes).map fun children =>
            parents.map (giveChildren node.name node.link children) := by
  cases node with
  | mk relation name link nodes =>
    have fetched := @Relation.load_eq (relation.restrict (link.keys.restriction parents))
      accepts store
    rw [nestNode, if_neg (by simpa using given), fetched]
    exact bind_pure_comp (m := Except Fault) _ _

theorem load_eq {tree : RelationTree} (accepts : tree.relation.gateway.refuse .fetch = none)
    (store : Store) :
    tree.load store = nestAll store
      ((tree.relation.rows store).filter tree.relation.criteria.matchesTuple) tree.nodes := by
  rw [load, Relation.load_eq accepts]
  rfl

end RelationTree

end RelationGraph
