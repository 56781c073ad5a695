import RelationGraph.Command.OutputMap
import RelationGraph.Relation

set_option autoImplicit false

namespace RelationGraph

structure Command where
  template : CommandTemplate
  /-- The relation it writes to, with the criteria that bound its effect. -/
  relation : Relation
  /-- What its output is passed through. -/
  outputs : List OutputMap

/-- The columns of an input; null stands for no columns. -/
def Json.toTuple : Json → Except Fault Tuple
  | .object members => .ok members
  | .null => .ok []
  | value => .error (.invalidInput (.notAnObject value))

namespace Command

def bind (template : CommandTemplate) (relation : Relation) : Command := ⟨template, relation, []⟩

def name (command : Command) : RelationName := command.relation.name

def type (command : Command) : CommandType := command.template.type

def restrict (command : Command) (criteria : Criteria) : Command :=
  { command with relation := command.relation.restrict criteria }

def view (command : Command) (name : String) (args : List Json) : Except Fault Command := do
  return { command with relation := (← command.relation.view name args) }

/-- The command with one more step behind its output. -/
def andThen (command : Command) (output : OutputMap) : Command :=
  { command with outputs := command.outputs ++ [output] }

def mapped (command : Command) (tuple : Tuple) (parent : Option Tuple) :
    Except Fault Tuple :=
  InputMap.applyAll parent command.template.inputs tuple

/-- A new tuple as it is inserted: first with the keys of its parent, then through the input maps.
-/
def prepared (command : Command) (tuple : Tuple) (parent : Option Tuple) :
    Except Fault Tuple := do
  let tuple ←
    match command.template.parentKeys with
    | some keys => ParentKeys.copyInto keys tuple parent
    | none => pure tuple
  command.mapped tuple parent

/-- The criteria of the rows the command works on; in a nested write only children of the parent. -/
def criteria (command : Command) (parent : Option Tuple) : Except Fault Criteria :=
  match command.template.parentKeys, parent with
  | some keys, some parent => do
    return command.relation.criteria.merge (← ParentKeys.criteriaFor keys parent)
  | _, _ => .ok command.relation.criteria

/-- Runs the command for one input tuple; yields the rows it touched. -/
def run (command : Command) (tuple : Tuple) (parent : Option Tuple) : StoreM (List Tuple) := do
  let gateway := command.relation.gateway
  let dataset := command.name.dataset
  match command.type with
  | .create =>
    let tuple ← MonadExcept.ofExcept (command.prepared tuple parent)
    return [← gateway.insert dataset command.relation.primaryKey tuple]
  | .update =>
    let criteria ← MonadExcept.ofExcept (command.criteria parent)
    let changes ← MonadExcept.ofExcept (command.mapped tuple parent)
    gateway.update dataset criteria changes
  | .delete =>
    let criteria ← MonadExcept.ofExcept (command.criteria parent)
    gateway.delete dataset criteria

/-- The output for the rows touched: all of them, or the first or null. -/
def shape (command : Command) (tuples : List Tuple) : Json :=
  match command.template.result with
  | .many => .array (tuples.map .object)
  | .one => .ofOption (tuples.head?.map .object)

def createAll (command : Command) (parent : Option Tuple) : List Json → StoreM (List Json)
  | [] => return []
  | item :: rest => do
    let tuple ← MonadExcept.ofExcept item.toTuple
    let created ← command.run tuple parent
    return created.map .object ++ (← command.createAll parent rest)

/-- Runs the command for an input: an object, for a create also an array of objects. A delete takes
no notice of its input. -/
def execute (command : Command) (input : Json) (parent : Option Tuple) : StoreM Json := do
  match command.type, input with
  | .create, .array items => return .array (← command.createAll parent items)
  | .delete, _ => return command.shape (← command.run [] parent)
  | _, input =>
    let tuple ← MonadExcept.ofExcept input.toTuple
    return command.shape (← command.run tuple parent)

/-- Runs the command and passes its output on. -/
def call (command : Command) (input : Json) : StoreM Json := do
  let output ← command.execute input none
  MonadExcept.ofExcept (OutputMap.applyAll command.outputs output)

end Command

end RelationGraph
