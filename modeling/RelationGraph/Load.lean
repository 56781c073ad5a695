import RelationGraph.RelationTree

/-!
Loading trees of relations.

`RelationTree.load` fetches every relation of a tree once: the rows of a node are restricted to the
key values that occur among all parents, are given their own children, and are then handed out to
the parents they join. `RelationTree.join` says what is loaded in the plainest way: for each parent
by itself, the rows of the node that meet its criteria and join that parent.
-/

set_option autoImplicit false

namespace RelationGraph

/-- Whether a child belongs to a parent: for every pair of keys the two have equal values, and the
parent's is not null. -/
def JoinKeys.joins (keys : JoinKeys) (parent child : Tuple) : Bool :=
  keys.pairs.all fun (parentColumn, childColumn) =>
    match parent.get? parentColumn, child.get? childColumn with
    | some value, some other => !value.isNull && value == other
    | _, _ => false

def addValue (values : List Json) (value : Json) : List Json :=
  if values.any (· == value) then values else values ++ [value]

/-- The different values of a column that are not null, in the order of their first occurrence. -/
def columnValues (tuples : List Tuple) (column : String) : List Json :=
  (tuples.filterMap (·.get? column)).foldl
    (fun values value => if value.isNull then values else addValue values value) []

/-- The criteria that every child of one of the parents meets: in each key column one of the
parents' values. -/
def JoinKeys.restriction (keys : JoinKeys) (parents : List Tuple) : Criteria :=
  keys.pairs.foldl (fun criteria (parentColumn, childColumn) =>
    criteria.whereWithin childColumn (columnValues parents parentColumn)) ∅

/-- What a parent is given: all its children, or the first of them or null. -/
def Link.nested (link : Link) (children : List Tuple) : Json :=
  match link.cardinality with
  | some .many => .array (children.map .object)
  | _ => .ofOption (children.head?.map .object)

namespace RelationTree

def giveChildren (name : String) (link : Link) (children : List Tuple) (parent : Tuple) : Tuple :=
  parent.insert name (link.nested (children.filter (link.keys.joins parent)))

mutual

/-- The parents, each with what it is given of a node. Without parents nothing is fetched. -/
def nestNode (store : Store) (parents : List Tuple) :
    RelationTree → Except Fault (List Tuple)
  | ⟨relation, name, link, nodes⟩ =>
    if parents.isEmpty then .ok []
    else do
      let rows ← (relation.restrict (link.keys.restriction parents)).load store
      let children ← nestAll store rows nodes
      return parents.map (giveChildren name link children)

def nestAll (store : Store) (parents : List Tuple) :
    List RelationTree → Except Fault (List Tuple)
  | [] => .ok parents
  | node :: rest => do
    let parents ← nestNode store parents node
    nestAll store parents rest

end

def load (tree : RelationTree) (store : Store) : Except Fault (List Tuple) := do
  nestAll store (← tree.relation.load store) tree.nodes

/-- The only tuple of a tree, if there is one; several are refused. -/
def loadOne (tree : RelationTree) (store : Store) : Except Fault (Option Tuple) := do
  atMostOne tree.name (← tree.load store)

def loadFirst (tree : RelationTree) (store : Store) : Except Fault (Option Tuple) := do
  return (← tree.load store).head?

/-! ### Joining tuple by tuple -/

mutual

/-- The tuples of a tree that satisfy a test, each with what is combined into it. -/
def joinWhere (store : Store) (test : Tuple → Bool) : RelationTree → List Tuple
  | ⟨relation, _, _, nodes⟩ =>
    let rows := (store.dataset relation.gateway.id relation.name.dataset).rows.filter fun row =>
      relation.criteria.matchesTuple row && test row
    rows.map fun row => extendAll store row row nodes

/-- A tuple with what is combined into it; `row` is the tuple as it is stored. -/
def extendAll (store : Store) (row tuple : Tuple) : List RelationTree → Tuple
  | [] => tuple
  | ⟨relation, name, link, nodes⟩ :: rest =>
    let children := joinWhere store (link.keys.joins row) ⟨relation, name, link, nodes⟩
    extendAll store row (tuple.insert name (link.nested children)) rest

end

/-- The tuples of a tree by a join of every tuple on its own. -/
def join (tree : RelationTree) (store : Store) : List Tuple :=
  joinWhere store (fun _ => true) tree

end RelationTree

end RelationGraph
