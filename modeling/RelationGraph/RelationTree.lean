import RelationGraph.JoinKeys.Between

set_option autoImplicit false

namespace RelationGraph

structure RelationTree where
  relation : Relation
  /-- The name its tuples are returned under. -/
  name : String
  link : Link
  nodes : List RelationTree

namespace RelationTree

def ofRelation (relation : Relation) : RelationTree :=
  ⟨relation, relation.name.relation, .root, []⟩

def ofCatalog (catalog : Catalog) (name : String) : Except Fault RelationTree :=
  (catalog.relation name).map ofRelation

def baseName (tree : RelationTree) : RelationName := tree.relation.name

def isRestricted (tree : RelationTree) : Bool := tree.relation.isRestricted

def restrict (tree : RelationTree) (criteria : Criteria) : RelationTree :=
  { tree with relation := tree.relation.restrict criteria }

def whereEq (tree : RelationTree) (column : String) (value : Json) : RelationTree :=
  { tree with relation := tree.relation.whereEq column value }

def view (tree : RelationTree) (name : String) (args : List Json) :
    Except Fault RelationTree := do
  return { tree with relation := (← tree.relation.view name args) }

/-- The tree as something to be combined into another. -/
def combined (tree : RelationTree) (name : String) (keys : JoinKeys)
    (cardinality : Cardinality) : RelationTree :=
  { tree with name := name, link := ⟨keys, some cardinality, some name⟩ }

/-- The name under which the tree is attached where none is given: the singular for a single tuple.
-/
def attachName (tree : RelationTree) : Cardinality → String
  | .one => String.ofList (Naming.singular tree.baseName.relation.toList)
  | .many => tree.baseName.relation

mutual

/-- The plan of a tree: the attributes of each relation, then what is combined into it. -/
def toPlan : RelationTree → Plan
  | ⟨relation, name, link, nodes⟩ =>
    .relation name relation.name link
      (relation.schema.attributes.map Plan.attribute ++ toPlans nodes)

def toPlans : List RelationTree → List Plan
  | [] => []
  | tree :: rest => toPlan tree :: toPlans rest

end

/-- Puts a node under a tree: in the place of the one with its name, or behind all others. -/
def placeNode (node : RelationTree) : List RelationTree → List RelationTree
  | [] => [node]
  | other :: rest => if other.name = node.name then node :: rest else other :: placeNode node rest

end RelationTree

end RelationGraph
