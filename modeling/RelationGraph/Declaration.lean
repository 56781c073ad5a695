import RelationGraph.Command.OutputMap
import RelationGraph.Encoding
import RelationGraph.Gateway

/-!
Declarations: settings, schemas and input maps as callers write them in JSON.

A declaration is lenient: a member that is missing, null or of another type counts as not given, and
only what cannot be done without is asked for.
-/

set_option autoImplicit false

namespace RelationGraph

inductive DeclarationFault where
  /-- A member that has to be there is missing or is no text, or is a text that means nothing. -/
  | member (key : String)
  | unreadable

abbrev Declared := Except DeclarationFault

namespace Declaration

/-- The text of a member that has to be there. -/
def text (value : Json) (key : String) : Declared String :=
  match value.memberText? key with
  | some text => .ok text
  | none => .error (.member key)

/-! ### Keys and criteria -/

def pair? : Json → Option (String × String)
  | .array (.string left :: .string right :: _) => some (left, right)
  | _ => none

def keys? (value : Json) : Option JoinKeys :=
  value.items?.map fun items => .ofList (items.filterMap pair?)

/-- The mapping of a member; the empty one where it is not given. -/
def keys (value : Json) (key : String) : JoinKeys := (keys? (value.member key)).getD ∅

/-- A column with its condition. A value that is not given is null, and a list of values that is not
given is empty. -/
def condition? : Json → Option (String × Condition)
  | .array (.string column :: .string "eq" :: given) => some (column, .eq (given.headD .null))
  | .array (.string column :: .string "in" :: given) =>
    some (column, .within ((given.headD .null).items?.getD []))
  | _ => none

def criteria (value : Json) (key : String) : Criteria :=
  ⟨(value.memberItems key).filterMap condition?⟩

def cardinality? (value : Json) (key : String) : Option Cardinality :=
  (value.memberText? key).bind Cardinality.ofName?

/-! ### Settings -/

def settings (value : Json) : Declared Settings := do
  let preset : Settings :=
    match value.memberText? "preset" with
    | some "development" => .development
    | some "testing" => .testing
    | _ => .standard
  let convention ←
    match value.member "foreign_key_convention" with
    | .null => pure preset.convention
    | given =>
      match ForeignKeyNaming.ofDocument? given.toDocument with
      | some convention => pure convention
      | none => throw .unreadable
  return {
    defaultPrimaryKey := (value.memberText? "default_primary_key").getD preset.defaultPrimaryKey
    convention := convention
    maxPlanDepth := (value.member "max_plan_depth").nat?.getD preset.maxPlanDepth
    cacheCommands := (value.member "cache_compiled_commands").bool?.getD preset.cacheCommands }

/-! ### Schemas -/

def view (value : Json) : Declared View := do
  return ⟨← text value "name", value.memberTexts "columns", criteria value "fixed"⟩

def association (value : Json) : Declared Association := do
  let name ← text value "name"
  let target ← text value "target"
  match AssociationKind.ofName? (← text value "kind") with
  | some kind =>
    return ⟨name, "", target, kind, value.memberText? "foreign_key", value.memberText? "view"⟩
  | none => throw (.member "kind")

/-- An association in one of the short forms, or with all its parts. -/
def schemaAssociation (value : Json) : Declared Association :=
  let plain (name target : String) (kind : AssociationKind) : Association :=
    ⟨name, "", target, kind, none, none⟩
  match value.member "has_many", pair? (value.member "has_one"),
      pair? (value.member "belongs_to") with
  | .string name, _, _ => .ok (plain name name .oneToMany)
  | _, some (name, target), _ => .ok (plain name target .oneToOne)
  | _, _, some (name, target) => .ok (plain name target .manyToOne)
  | _, _, _ => association value

def withForeignKeys (schema : Schema) (columns : List (String × Json)) : Schema :=
  columns.foldl (fun schema (relation, column) =>
    match column with
    | .string column => schema.withForeignKey relation column
    | _ => schema) schema

def schema (value : Json) : Declared Schema := do
  let name ← text value "name"
  let empty := Schema.named name
  let named : Schema :=
    { empty with
      name := ⟨name, (value.memberText? "dataset").getD name⟩
      attributes := value.memberTexts "attrs"
      gateway := (value.memberText? "gateway").getD empty.gateway }
  let keyed :=
    match value.member "pk" with
    | .string column => named.withPrimaryKey column
    | .bool false => named.withoutPrimaryKey
    | _ => named
  let linked := withForeignKeys keyed (value.member "fks").columns
  let associated ← (value.memberItems "assocs").foldlM
    (fun schema item => do return schema.withAssociation (← schemaAssociation item)) linked
  (value.memberItems "views").foldlM
    (fun schema item => do return schema.withView (← view item)) associated

/-! ### Commands -/

def columnEdit (value : Json) : Declared ColumnEdit := do
  match ← text value "kind" with
  | "upcase" => return .upcase (← text value "column")
  | "append" => return .append (← text value "column") (← text value "text")
  | "set" => return .set (← text value "column") (value.member "value")
  | "remove" => return .remove (← text value "column")
  | "parent" => return .fromParent (← text value "column") (← text value "from")
  | "fail" => return .fail (← text value "message")
  | _ => throw (.member "kind")

def inputMap (value : Json) : Declared InputMap := do
  return (← columnEdit value).inputMap

def directives (value : Json) : Declared Directives := do
  let input ←
    match value.member "extension" with
    | .null => pure none
    | given => some <$> inputMap given
  return {
    only := value.memberText? "only"
    plugins := value.memberTexts "plugins"
    parentKeys := keys? (value.member "associates")
    result := cardinality? value "result"
    input := input
    fail := value.memberText? "fail" }

def outputMap (value : Json) : Declared OutputMap :=
  match value.memberText? "pluck", value.memberText? "wrap", value.memberText? "fail" with
  | some key, _, _ => .ok (.pluck key)
  | _, some key, _ => .ok (.wrap key)
  | _, _, some text => .ok (.fail text)
  | _, _, _ =>
    match value.member "first", value.member "count" with
    | .bool true, _ => .ok .first
    | _, .bool true => .ok .count
    | _, _ => .error (.member "mapper")

def operationName : Operation → String
  | .fetch => "fetch"
  | .insert => "insert"
  | .update => "update"
  | .delete => "delete"

def gateway (id : Nat) (value : Json) : Declared Gateway := do
  let hook ←
    match value.member "hook" with
    | .null => pure Directives.none
    | given => directives given
  return {
    id := id
    adapter := (value.memberText? "adapter").getD "memory"
    configure := fun template => hook.run.applyPartly template
    refuse := fun operation => (value.member "fail").memberText? (operationName operation) }

def error? (kind : String) (texts : List String) : Option Fault :=
  let first := texts[0]?.getD ""
  let second := texts[1]?.getD ""
  let third := texts[2]?.getD ""
  match kind with
  | "UnsupportedCommandType" => some (.unknownCommandType first)
  | "UnresolvedAssociation" => some (.unknownAssociation first second)
  | "MalformedPlan" => some (.malformedPlan (.stated first))
  | "KeyInferenceFailure" => some (.unjoinable first second (.stated third))
  | "RelationNotFound" => some (.unknownRelation first)
  | "GatewayNotFound" => some (.unknownGateway first)
  | "ViewNotFound" => some (.unknownView first second)
  | "PluginNotFound" => some (.unknownPlugin first)
  | "InvalidInput" => some (.invalidInput (.stated first))
  | "Gateway" => some (.gateway (.stated first))
  | "Serialization" => some (.serialization first)
  | "Configuration" => some (.configuration (.stated first))
  | _ => none

end Declaration

end RelationGraph
