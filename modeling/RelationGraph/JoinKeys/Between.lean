import RelationGraph.Catalog

set_option autoImplicit false

namespace RelationGraph

inductive JoinDirection where
  /-- The source is attached to the target, which refers to it. -/
  | parent
  /-- The target is attached to the source, to which it refers. -/
  | children
deriving DecidableEq, Inhabited

/-- The keys of an association, from the columns of its source to those of its target. -/
def Association.keys (association : Association) (catalog : Catalog) :
    Except Fault JoinKeys := do
  let source ← catalog.relation association.source
  let target ← catalog.relation association.target
  match association.kind with
  | .oneToMany | .oneToOne =>
    match source.primaryKey with
    | none =>
      throw (.unjoinable association.source association.target .associationSourceKeyless)
    | some primaryKey =>
      return .single primaryKey (association.foreignKey.getD (target.foreignKeyFor source.name))
  | .manyToOne =>
    match target.primaryKey with
    | none =>
      throw (.unjoinable association.source association.target .associationTargetKeyless)
    | some primaryKey =>
      return .single (association.foreignKey.getD (source.foreignKeyFor target.name)) primaryKey

/-- Keys by convention: the primary key of the source and the column by which the target refers to
it. -/
def conventionalKeys (source target : Relation) (direction : JoinDirection) :
    Except Fault JoinKeys :=
  match source.primaryKey with
  | none => .error (.unjoinable source.name.relation target.name.relation .sourceKeyless)
  | some primaryKey =>
    let foreignKey := target.foreignKeyFor source.name
    if foreignKey = "" then
      .error (.unjoinable source.name.relation target.name.relation .noForeignKey)
    else
      match direction with
      | .parent => .ok (.single foreignKey primaryKey)
      | .children => .ok (.single primaryKey foreignKey)

/-- Keys between two relations. An association of the source that has the name of the target
decides; its keys are swapped where the source is the one attached. -/
def keysBetween (catalog : Catalog) (source target : Relation) (direction : JoinDirection) :
    Except Fault JoinKeys :=
  match source.association? target.name.relation with
  | some association => do
    let keys ← association.keys catalog
    match direction with
    | .children => return keys
    | .parent => return keys.invert
  | none => conventionalKeys source target direction

end RelationGraph
