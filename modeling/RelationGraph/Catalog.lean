import RelationGraph.Relation
import RelationGraph.Settings

set_option autoImplicit false

namespace RelationGraph

/-- Relations, gateways and plugins, with their settings. -/
structure Catalog where
  id : Nat
  settings : Settings
  relations : SortedMap String Relation
  gateways : SortedMap String Gateway
  plugins : Plugins

namespace Catalog

def withDefaults (settings : Settings) (schema : Schema) : Schema :=
  { schema with
    primaryKey :=
      if schema.keyless then schema.primaryKey
      else some (schema.primaryKey.getD settings.defaultPrimaryKey)
    convention := settings.convention }

/-- Registers schemas, first to last, behind the relations that are there. -/
def register (settings : Settings) (gateways : SortedMap String Gateway) :
    List Schema → SortedMap String Relation → Except Fault (SortedMap String Relation)
  | [], relations => .ok relations
  | schema :: rest, relations =>
    match gateways.get? schema.gateway with
    | none => .error (.unknownGateway schema.gateway)
    | some gateway =>
      if relations.contains schema.name.relation then
        .error (.configuration (.registeredTwice schema.name.relation))
      else
        register settings gateways rest
          (relations.insert schema.name.relation ⟨withDefaults settings schema, gateway, ∅⟩)

/-- The first association that leads nowhere. -/
def danglingAssociation? (relations : SortedMap String Relation) : Option Association :=
  relations.values.findSome? fun relation =>
    relation.schema.associations.values.find? fun association =>
      !relations.contains association.target

def build (id : Nat) (settings : Settings) (gateways : SortedMap String Gateway)
    (schemas : List Schema) (plugins : Plugins) : Except Fault Catalog := do
  let relations ← register settings gateways schemas ∅
  match danglingAssociation? relations with
  | some association =>
    throw (.configuration
      (.unknownTarget association.name association.source association.target))
  | none => return ⟨id, settings, relations, gateways, plugins⟩

def relation (catalog : Catalog) (name : String) : Except Fault Relation :=
  match catalog.relations.get? name with
  | some relation => .ok relation
  | none => .error (.unknownRelation name)

def gateway (catalog : Catalog) (name : String) : Except Fault Gateway :=
  match catalog.gateways.get? name with
  | some gateway => .ok gateway
  | none => .error (.unknownGateway name)

end Catalog

end RelationGraph
