import RelationGraph.RelationTree

set_option autoImplicit false

namespace RelationGraph

inductive Attachment where
  /-- The target of an association, into which further entries are combined. -/
  | association (name : String) (nested : List Attachment)
  | explicit (cardinality : Cardinality) (name : String) (target : RelationTree)
    (keys : Option JoinKeys)

/-- Trees to be attached with one cardinality, with their names where they are given. -/
structure AttachGroup where
  cardinality : Cardinality
  targets : List (Option String × RelationTree)

namespace RelationTree

def association (tree : RelationTree) (name : String) : Except Fault Association :=
  match tree.relation.association? name with
  | some association => .ok association
  | none => .error (.unknownAssociation tree.baseName.relation name)

/-- The tree seen through the view of an association. -/
def throughAssociation (tree : RelationTree) (association : Association) :
    Except Fault RelationTree :=
  match association.view with
  | some view => tree.view view []
  | none => .ok tree

/-- Attaches a node under a tree. A node without keys cannot be joined. -/
def attach (tree node : RelationTree) : Except Fault RelationTree :=
  if node.link.keys.isEmpty then
    .error (.unjoinable tree.baseName.relation node.baseName.relation .emptyMapping)
  else .ok { tree with nodes := placeNode node tree.nodes }

/-- The keys of a tree given under a name: the given ones, or those of the association of that name,
or, for a sequence, those between the two relations. -/
def keysFor (catalog : Catalog) (tree : RelationTree) (cardinality : Cardinality)
    (name : String) (target : RelationTree) (keys : Option JoinKeys) :
    Except Fault JoinKeys :=
  match keys, tree.relation.association? name, cardinality with
  | some keys, _, _ => .ok keys
  | none, some association, _ => association.keys catalog
  | none, none, .many => keysBetween catalog tree.relation target.relation .children
  | none, none, .one => .error (.unknownAssociation tree.baseName.relation name)

/-- The node for a tree given under a name. Where an association has that name and the tree is not
narrowed, it is seen through the association's view. -/
def explicitNode (catalog : Catalog) (tree : RelationTree) (cardinality : Cardinality)
    (name : String) (target : RelationTree) (keys : Option JoinKeys) :
    Except Fault RelationTree := do
  let child ←
    match tree.relation.association? name with
    | some association =>
      if target.isRestricted then pure target else target.throughAssociation association
    | none => pure target
  let keys ← keysFor catalog tree cardinality name target keys
  return child.combined name keys cardinality

mutual

def nodeFor (catalog : Catalog) (tree : RelationTree) :
    Attachment → Except Fault RelationTree
  | .association name nested => do
    let association ← tree.association name
    let target ← ofCatalog catalog association.target
    let target ← target.throughAssociation association
    let target ← combine catalog target nested
    let keys ← association.keys catalog
    return target.combined name keys association.result
  | .explicit cardinality name target keys =>
    explicitNode catalog tree cardinality name target keys

/-- Combines entries into a tree, first to last. -/
def combine (catalog : Catalog) (tree : RelationTree) :
    List Attachment → Except Fault RelationTree
  | [] => .ok tree
  | entry :: rest => do
    let node ← nodeFor catalog tree entry
    combine catalog (← tree.attach node) rest

end

def combineAssociations (catalog : Catalog) (tree : RelationTree) (names : List String) :
    Except Fault RelationTree :=
  tree.combine catalog (names.map fun name => .association name [])

/-- The entries of a group, their keys found between the two relations. -/
def entriesFor (catalog : Catalog) (tree : RelationTree) (direction : JoinDirection)
    (group : AttachGroup) : Except Fault (List Attachment) :=
  group.targets.mapM fun (name, target) => do
    let keys ←
      match direction with
      | .parent => keysBetween catalog target.relation tree.relation .parent
      | .children => keysBetween catalog tree.relation target.relation .children
    return .explicit group.cardinality (name.getD (target.attachName group.cardinality)) target
      (some keys)

/-- Combines groups of trees after finding the keys of all of them. -/
def attachGroups (catalog : Catalog) (tree : RelationTree) (direction : JoinDirection)
    (groups : List AttachGroup) : Except Fault RelationTree := do
  let entries ← groups.mapM (tree.entriesFor catalog direction)
  tree.combine catalog entries.flatten

/-- Combines relations that the tree refers to. -/
def attachParents (catalog : Catalog) (tree : RelationTree) (groups : List AttachGroup) :
    Except Fault RelationTree :=
  tree.attachGroups catalog .parent groups

/-- Combines relations that refer to the tree. -/
def attachChildren (catalog : Catalog) (tree : RelationTree) (groups : List AttachGroup) :
    Except Fault RelationTree :=
  tree.attachGroups catalog .children groups

end RelationTree

end RelationGraph
