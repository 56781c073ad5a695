import RelationGraph.Command.Type
import RelationGraph.Settings
import RelationGraph.Json.Fields
import RelationGraph.Schema

set_option autoImplicit false

namespace RelationGraph

open Json (Document)

def Json.Document.ofOption {α : Type} (write : α → Document) : Option α → Document
  | none => .null
  | some value => write value

/-! ### Names and keys -/

def RelationName.toDocument (name : RelationName) : Document :=
  .object [("relation", .string name.relation), ("dataset", .string name.dataset)]

def RelationName.ofDocument? (document : Document) : Option RelationName := do
  match ← document.fields? ["relation", "dataset"] with
  | [relation, dataset] =>
    return ⟨← Document.required Document.string? relation,
      ← Document.required Document.string? dataset⟩
  | _ => none

def JoinKeys.toDocument (keys : JoinKeys) : Document :=
  .object (keys.pairs.map fun (left, right) => (left, .string right))

/-- Reads a key mapping; of members with one key the last stays. -/
def JoinKeys.ofDocument? : Document → Option JoinKeys
  | .object members => do
    let pairs ← members.mapM fun (left, right) => do return (left, ← right.string?)
    return .ofList pairs
  | _ => none

/-! ### Variants without payload -/

def Json.Document.named? {α : Type} (ofName? : String → Option α) (rereading : Bool)
    (document : Document) : Option α := do
  let (name, payload) ← document.variant?
  if Document.isUnit rereading payload then ofName? name else none

def Cardinality.toDocument (cardinality : Cardinality) : Document := .string cardinality.name

def Cardinality.ofDocument? (rereading : Bool) : Document → Option Cardinality :=
  Document.named? ofName? rereading

def CommandType.toDocument (type : CommandType) : Document := .string type.name

def CommandType.ofDocument? : Document → Option CommandType := Document.named? ofName? false

/-! ### Links -/

def Link.members (link : Link) : List (String × Document) :=
  [("keys", link.keys.toDocument),
    ("combine_type", .ofOption Cardinality.toDocument link.cardinality),
    ("combine_name", .ofOption .string link.name)]

def Link.toDocument (link : Link) : Document := .object link.members

def Link.ofDocument? (rereading : Bool) (document : Document) : Option Link := do
  match ← document.fields? ["keys", "combine_type", "combine_name"] with
  | [keys, cardinality, name] =>
    return ⟨← Document.required JoinKeys.ofDocument? keys,
      ← Document.optional (Cardinality.ofDocument? rereading) cardinality,
      ← Document.optional Document.string? name⟩
  | _ => none

/-! ### Criteria -/

def Condition.toDocument : Condition → Document
  | .eq value => .object [("Eq", value.toDocument)]
  | .within values => .object [("In", (Json.array values).toDocument)]

def Condition.ofDocument? (depth : Nat) (document : Document) : Option Condition := do
  let (name, payload) ← document.variant?
  let value ← payload.bind (Document.toJson? depth)
  if name = "Eq" then return .eq value
  else if name = "In" then
    match value with
    | .array values => return .within values
    | _ => none
  else none

def Criteria.toDocument (criteria : Criteria) : Document :=
  .object [("conditions", .array (criteria.conditions.map fun (column, condition) =>
    .array [.string column, condition.toDocument]))]

def Criteria.columnOfDocument? (depth : Nat) : Document → Option (String × Condition)
  | .array [column, condition] => do
    return (← column.string?, ← Condition.ofDocument? depth condition)
  | _ => none

def Criteria.ofDocument? (depth : Nat) (document : Document) : Option Criteria := do
  match ← document.fields? ["conditions"] with
  | [conditions] =>
    let items ← Document.required Document.items? conditions
    return ⟨← items.mapM (Criteria.columnOfDocument? depth)⟩
  | _ => none

/-! ### Associations -/

def Association.toDocument (association : Association) : Document :=
  .object
    [("name", .string association.name),
      ("source", .string association.source),
      ("target", .string association.target),
      ("kind", .string association.kind.name),
      ("foreign_key", .ofOption .string association.foreignKey),
      ("view", .ofOption .string association.view)]

def Association.ofDocument? (document : Document) : Option Association := do
  match ← document.fields? ["name", "source", "target", "kind", "foreign_key", "view"] with
  | [name, source, target, kind, foreignKey, view] =>
    return ⟨← Document.required Document.string? name,
      ← Document.required Document.string? source,
      ← Document.required Document.string? target,
      ← Document.required (Document.named? AssociationKind.ofName? false) kind,
      ← Document.optional Document.string? foreignKey,
      ← Document.optional Document.string? view⟩
  | _ => none

/-! ### Settings -/

def ForeignKeyNaming.toDocument : ForeignKeyNaming → Document
  | .underscore => .string "Underscore"
  | .camelCase => .string "CamelCase"
  | .pascalCase => .string "PascalCase"
  | .custom pattern => .object [("Custom", .string pattern)]

def ForeignKeyNaming.ofDocument? (document : Document) : Option ForeignKeyNaming := do
  let (name, payload) ← document.variant?
  if name = "Custom" then
    return .custom (← Document.required Document.string? payload)
  else if !Document.isUnit false payload then none
  else if name = "Underscore" then return .underscore
  else if name = "CamelCase" then return .camelCase
  else if name = "PascalCase" then return .pascalCase
  else none

def Settings.toDocument (settings : Settings) : Document :=
  .object
    [("default_primary_key", .string settings.defaultPrimaryKey),
      ("foreign_key_convention", settings.convention.toDocument),
      ("max_plan_depth", .number (.int settings.maxPlanDepth)),
      ("cache_compiled_commands", .bool settings.cacheCommands)]

def Settings.ofDocument? (document : Document) : Option Settings := do
  match ← document.fields?
      ["default_primary_key", "foreign_key_convention", "max_plan_depth",
        "cache_compiled_commands"] with
  | [key, convention, depth, cache] =>
    return ⟨← Document.required Document.string? key,
      ← Document.required ForeignKeyNaming.ofDocument? convention,
      ← Document.required Document.nat? depth,
      ← Document.required Document.bool? cache⟩
  | _ => none

end RelationGraph
