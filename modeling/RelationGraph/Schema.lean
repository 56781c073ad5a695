import RelationGraph.Naming
import RelationGraph.Plan
import RelationGraph.Criteria

set_option autoImplicit false

namespace RelationGraph

inductive AssociationKind where
  /-- The target refers to the source; several tuples may. -/
  | oneToMany
  /-- The target refers to the source; one tuple is meant. -/
  | oneToOne
  /-- The source refers to the target. -/
  | manyToOne
deriving DecidableEq, Inhabited

namespace AssociationKind

def name : AssociationKind → String
  | .oneToMany => "OneToMany"
  | .oneToOne => "OneToOne"
  | .manyToOne => "ManyToOne"

def ofName? (name : String) : Option AssociationKind :=
  if name = "OneToMany" then some .oneToMany
  else if name = "OneToOne" then some .oneToOne
  else if name = "ManyToOne" then some .manyToOne
  else none

/-- How many tuples of the target belong to one of the source. -/
def result : AssociationKind → Cardinality
  | .oneToMany => .many
  | .oneToOne | .manyToOne => .one

end AssociationKind

/-- A named way from one relation to another. -/
structure Association where
  name : String
  source : String
  target : String
  kind : AssociationKind
  /-- The foreign key column, where it is not the one that the target or source would name. -/
  foreignKey : Option String
  view : Option String
deriving DecidableEq, Inhabited

def Association.result (association : Association) : Cardinality := association.kind.result

structure Schema where
  name : RelationName
  primaryKey : Option String
  /-- Whether the relation goes without a primary key, also where a default is configured. -/
  keyless : Bool
  /-- Columns that refer to other relations, by the name of the relation. -/
  foreignKeys : SortedMap String String
  attributes : List String
  associations : SortedMap String Association
  views : SortedMap String View
  gateway : String
  convention : ForeignKeyNaming

namespace Schema

/-- A schema without declarations, over a dataset of the same name. -/
def named (relation : String) : Schema where
  name := ⟨relation, relation⟩
  primaryKey := none
  keyless := false
  foreignKeys := ∅
  attributes := []
  associations := ∅
  views := ∅
  gateway := "default"
  convention := .underscore

def withPrimaryKey (schema : Schema) (column : String) : Schema :=
  { schema with primaryKey := some column, keyless := false }

def withoutPrimaryKey (schema : Schema) : Schema :=
  { schema with primaryKey := none, keyless := true }

def withForeignKey (schema : Schema) (relation column : String) : Schema :=
  { schema with foreignKeys := schema.foreignKeys.insert relation column }

def withAssociation (schema : Schema) (association : Association) : Schema :=
  { schema with
    associations := schema.associations.insert association.name
      { association with source := schema.name.relation } }

/-- Declares an association to several tuples of the relation that it is named like. -/
def hasMany (schema : Schema) (target : String) : Schema :=
  schema.withAssociation ⟨target, "", target, .oneToMany, none, none⟩

def withView (schema : Schema) (view : View) : Schema :=
  { schema with views := schema.views.insert view.name view }

/-- The column that refers to `other`: the declared one, or the one by convention. -/
def foreignKeyFor (schema : Schema) (other : RelationName) : String :=
  (schema.foreignKeys.get? other.relation).getD (schema.convention.column other.relation)

end Schema

end RelationGraph
