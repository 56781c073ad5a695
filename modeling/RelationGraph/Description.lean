import RelationGraph.Load
import RelationGraph.Plan.Encoding
import RelationGraph.Repository.Methods

set_option autoImplicit false

namespace RelationGraph

/-! ### Results -/

def Fault.kind : Fault → String
  | .unknownCommandType _ => "UnsupportedCommandType"
  | .unknownAssociation _ _ => "UnresolvedAssociation"
  | .malformedPlan _ => "MalformedPlan"
  | .unjoinable _ _ _ => "KeyInferenceFailure"
  | .unknownRelation _ => "RelationNotFound"
  | .unknownGateway _ => "GatewayNotFound"
  | .unknownView _ _ => "ViewNotFound"
  | .unknownPlugin _ => "PluginNotFound"
  | .invalidInput _ => "InvalidInput"
  | .gateway _ => "Gateway"
  | .serialization _ => "Serialization"
  | .configuration _ => "Configuration"

def Fault.describe (fault : Fault) : Json :=
  .ofMembers [("error", .string fault.kind), ("message", .string fault.message)]

def Json.success (value : Json) : Json := .ofMembers [("ok", value)]

def describeResult {α : Type} (describe : α → Json) : Except Fault α → Json
  | .ok value => .success (describe value)
  | .error fault => fault.describe

/-! ### Parts of relations -/

def JoinKeys.describe (keys : JoinKeys) : Json :=
  .array (keys.pairs.map fun (left, right) => .ofTexts [left, right])

def Criteria.describe (criteria : Criteria) : Json :=
  .array (criteria.conditions.map fun (column, condition) =>
    match condition with
    | .eq value => .array [.string column, .string "eq", value]
    | .within values => .array [.string column, .string "in", .array values])

def describeTuples (tuples : List Tuple) : Json := .array (tuples.map .object)

def Cardinality.describe (cardinality : Cardinality) : Json := .string cardinality.name

def Association.describe (association : Association) : Json :=
  .ofMembers
    [("name", .string association.name),
      ("source", .string association.source),
      ("target", .string association.target),
      ("kind", .string association.kind.name),
      ("foreign_key", .ofMaybe .string association.foreignKey),
      ("view", .ofMaybe .string association.view),
      ("result", association.result.describe)]

def Relation.describe (relation : Relation) : Json :=
  .ofMembers
    [("name", .string relation.name.relation),
      ("dataset", .string relation.name.dataset),
      ("pk", .ofMaybe .string relation.primaryKey),
      ("adapter", .string relation.adapter),
      ("restricted", .bool relation.isRestricted),
      ("criteria", relation.criteria.describe),
      ("associations", .array (relation.schema.associations.values.map (·.describe))),
      ("views", .ofTexts relation.schema.views.keys),
      ("attributes", .ofTexts relation.schema.attributes),
      ("keyless", .bool relation.schema.keyless)]

/-! ### Trees and plans -/

mutual

def RelationTree.describe : RelationTree → Json
  | ⟨relation, name, link, nodes⟩ =>
    .ofMembers
      [("name", .string name),
        ("relation", .string relation.name.relation),
        ("dataset", .string relation.name.dataset),
        ("keys", link.keys.describe),
        ("type", .ofMaybe Cardinality.describe link.cardinality),
        ("combine_name", .ofMaybe .string link.name),
        ("root", .bool link.isRoot),
        ("curried", .bool relation.isRestricted),
        ("criteria", relation.criteria.describe),
        ("nodes", .array (RelationTree.describeAll nodes))]

def RelationTree.describeAll : List RelationTree → List Json
  | [] => []
  | tree :: rest => RelationTree.describe tree :: RelationTree.describeAll rest

end

/-- The members of a plan's description: its text, its depth, what its root holds and two walks over
it. -/
def Plan.description (plan : Plan) : List (String × Json) :=
  let (relations, attributes) :=
    match plan with
    | .relation _ _ _ content =>
      (Json.ofTexts ((Plan.relationsIn content).filterMap Plan.name?),
        Json.ofTexts (Plan.attributesIn content))
    | _ => (.null, .null)
  [("json", .string plan.text),
    ("depth", .ofNat plan.depth),
    ("relations", relations),
    ("attributes", attributes),
    ("walk", describeResult .string plan.outline),
    ("count", describeResult .ofNat plan.relationCount)]

/-! ### Commands -/

def Command.describe (command : Command) : Json :=
  .ofMembers
    [("class", .string command.template.title),
      ("relation", .string command.name.relation),
      ("dataset", .string command.name.dataset),
      ("type", .string command.type.name),
      ("adapter", .string command.template.adapter),
      ("result", command.template.result.describe),
      ("extensions", .ofTexts (command.template.inputs.map (·.name))),
      ("associated", .ofMaybe JoinKeys.describe command.template.parentKeys),
      ("criteria", command.relation.criteria.describe)]

mutual

def CommandTree.describe : CommandTree → Json
  | ⟨key, command, nodes⟩ =>
    .ofMembers
      [("key", .string key), ("command", command.describe),
        ("nodes", .array (CommandTree.describeAll nodes))]

def CommandTree.describeAll : List CommandTree → List Json
  | [] => []
  | tree :: rest => CommandTree.describe tree :: CommandTree.describeAll rest

end

def NestedCommand.describe (command : NestedCommand) : Json :=
  .ofMembers
    [("graph", .bool true), ("root_name", .string command.tree.key),
      ("size", .ofNat command.tree.size), ("tree", command.tree.describe)]

def Compiled.describe : Compiled → Json
  | .flat command => .ofMembers [("graph", .bool false), ("command", command.describe)]
  | .nested command => command.describe

def MappedCommand.describe (command : MappedCommand) : Json :=
  .ofMembers
    [("is_graph", .bool command.command.compiled.isNested),
      ("compiled", command.command.compiled.describe)]

def CacheCounts.describe (counts : CacheCounts) : Json :=
  .ofMembers
    [("hits", .ofNat counts.hits), ("misses", .ofNat counts.misses),
      ("entries", .ofNat counts.entries), ("ratio", .number (.float counts.ratio))]

def OnceCache.description {κ υ : Type} (cache : OnceCache κ υ) :
    List (String × Json) :=
  [("stats", cache.counts.describe), ("len", .ofNat cache.size), ("empty", .bool cache.isEmpty)]

/-! ### Structs -/

def Struct.describe (struct : Struct) : Json :=
  .ofMembers
    [("name", .string struct.name),
      ("names", .ofTexts struct.attributeNames),
      ("len", .ofNat struct.attributes.length),
      ("hash", .object struct.toTuple),
      ("json", .string struct.text)]

def describeStructs (structs : List Struct) : Json := .array (structs.map (·.describe))

def Mapped.describe (mapped : Mapped) : Json :=
  let content :=
    match mapped with
    | .one struct => ("one", Json.ofMaybe Struct.describe struct)
    | .many structs => ("many", describeStructs structs)
  .ofMembers [content, ("empty", .bool mapped.isEmpty)]

/-- What a struct holds under a name: the kind of attribute and what each way of asking for it
yields. -/
def Struct.describeAttribute (struct : Struct) (name : String) : Json :=
  let kind :=
    match struct.get? name with
    | none => "none"
    | some (.value _) => "value"
    | some .absent => "one"
    | some (.one _) => "one"
    | some (.many _) => "many"
  .ofMembers
    [("kind", .string kind),
      ("value", .ofOption (struct.value? name)),
      ("one", .ofMaybe Struct.describe (struct.one? name)),
      ("many", describeStructs (struct.many name))]

end RelationGraph
