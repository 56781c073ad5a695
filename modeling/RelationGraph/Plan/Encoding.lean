import RelationGraph.Encoding

set_option autoImplicit false

namespace RelationGraph.Plan

open Json (Document)

/-! ### Writing -/

def metaDocument (base : RelationName) (link : Link) : Document :=
  .object (("base_name", base.toDocument) :: link.members)

mutual

def toDocument : Plan → Document
  | .relation name base link content =>
    .object
      [("kind", .string "relation"),
        ("name", .string name),
        ("meta", metaDocument base link),
        ("header", .array (toDocuments content))]
  | .header nodes => .object [("kind", .string "header"), ("nodes", .array (toDocuments nodes))]
  | .attribute name => .object [("kind", .string "attribute"), ("name", .string name)]

def toDocuments : List Plan → List Document
  | [] => []
  | plan :: rest => toDocument plan :: toDocuments rest

end

def text (plan : Plan) : String := String.ofList plan.toDocument.chars

/-! ### Reading -/

inductive Kind where
  | relation
  | header
  | attribute
deriving DecidableEq

/-- Reads a kind; by its number only below the root. -/
def Kind.ofDocument? (belowRoot : Bool) : Document → Option Kind
  | .string name =>
    if name = "relation" then some .relation
    else if name = "header" then some .header
    else if name = "attribute" then some .attribute
    else none
  | .number (.int number) =>
    if belowRoot = false then none
    else if number = 0 then some .relation
    else if number = 1 then some .header
    else if number = 2 then some .attribute
    else none
  | _ => none

def kindOf? (belowRoot : Bool) : Document → Option (Kind × Document)
  | .object members => do
    let kind ← Document.required (Kind.ofDocument? belowRoot) (← Document.member? members "kind")
    return (kind, .object (members.filter (·.1 ≠ "kind")))
  | .array (kind :: fields) => do return (← Kind.ofDocument? belowRoot kind, .array fields)
  | _ => none

/-- Reads what a relation is backed by and linked with, which has to be an object. -/
def metaOf? : Document → Option (RelationName × Link)
  | .object members => do
    let base ← Document.required RelationName.ofDocument? (← Document.member? members "base_name")
    return (base, ← Link.ofDocument? true (.object members))
  | _ => none

def ofDocument? (belowRoot : Bool) : (depth : Nat) → Document → Option Plan
  | 0, _ => none
  | depth + 1, document => do
    let (kind, fields) ← kindOf? belowRoot document
    match kind with
    | .relation =>
      match ← fields.fields? ["name", "meta", "header"] with
      | [name, data, content] =>
        let name ← Document.required Document.string? name
        let (base, link) ← Document.required metaOf? data
        let content ← Document.required Document.items? content
        return .relation name base link (← content.mapM (ofDocument? true depth))
      | _ => none
    | .header =>
      match ← fields.fields? ["nodes"] with
      | [nodes] =>
        let nodes ← Document.required Document.items? nodes
        return .header (← nodes.mapM (ofDocument? true depth))
      | _ => none
    | .attribute =>
      match ← fields.fields? ["name"] with
      | [name] => return .attribute (← Document.required Document.string? name)
      | _ => none

def read? (document : Document) : Option Plan := do
  let _ ← document.toJson? Json.depthLimit
  ofDocument? false Json.depthLimit document

def ofText? (text : String) : Option Plan := (Document.ofChars? text.toList).bind read?

end RelationGraph.Plan
