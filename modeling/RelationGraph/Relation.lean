import RelationGraph.Gateway
import RelationGraph.Schema

set_option autoImplicit false

namespace RelationGraph

structure Relation where
  schema : Schema
  gateway : Gateway
  criteria : Criteria

namespace Relation

def name (relation : Relation) : RelationName := relation.schema.name

def primaryKey (relation : Relation) : Option String := relation.schema.primaryKey

def adapter (relation : Relation) : String := relation.gateway.adapter

def foreignKeyFor (relation : Relation) (other : RelationName) : String :=
  relation.schema.foreignKeyFor other

def association? (relation : Relation) (name : String) : Option Association :=
  relation.schema.associations.get? name

def isRestricted (relation : Relation) : Bool := !relation.criteria.isEmpty

def restrict (relation : Relation) (criteria : Criteria) : Relation :=
  { relation with criteria := relation.criteria.merge criteria }

def whereEq (relation : Relation) (column : String) (value : Json) : Relation :=
  relation.restrict ((∅ : Criteria).whereEq column value)

def view (relation : Relation) (name : String) (args : List Json) : Except Fault Relation :=
  match relation.schema.views.get? name with
  | none => .error (.unknownView relation.name.relation name)
  | some view => do return relation.restrict (← view.criteriaFor args)

def load (relation : Relation) (store : Store) : Except Fault (List Tuple) :=
  relation.gateway.fetch relation.name.dataset relation.criteria store

end Relation

/-- The tuple of a list of one at most; `name` says whose tuples they are. -/
def atMostOne (name : String) : List Tuple → Except Fault (Option Tuple)
  | [] => .ok none
  | [tuple] => .ok (some tuple)
  | tuples => .error (.invalidInput (.severalTuples name tuples.length))

end RelationGraph
