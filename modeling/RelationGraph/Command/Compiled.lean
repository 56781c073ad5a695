import RelationGraph.Command.Tree

set_option autoImplicit false

namespace RelationGraph

/-- A command tree that is called with the payload of its root. -/
structure NestedCommand where
  tree : CommandTree
  outputs : List OutputMap

namespace NestedCommand

def ofTree (tree : CommandTree) : NestedCommand := ⟨tree, []⟩

def call (command : NestedCommand) (input : Json) : StoreM Json := do
  let output ← command.tree.call (.object [(command.tree.key, input)])
  MonadExcept.ofExcept (OutputMap.applyAll command.outputs output)

def andThen (command : NestedCommand) (output : OutputMap) : NestedCommand :=
  { command with outputs := command.outputs ++ [output] }

def view (command : NestedCommand) (name : String) (args : List Json) :
    Except Fault NestedCommand := do
  return { command with
    tree := command.tree.withRoot (← command.tree.command.view name args) }

end NestedCommand

/-- What compiling a plan yields. -/
inductive Compiled where
  | flat (command : Command)
  | nested (command : NestedCommand)

namespace Compiled

/-- The command of a tree: the bare root where there is nothing below it. -/
def ofTree (tree : CommandTree) : Compiled :=
  if tree.isNested then .nested (.ofTree tree) else .flat tree.command

def isNested : Compiled → Bool
  | .flat _ => false
  | .nested _ => true

def root : Compiled → Command
  | .flat command => command
  | .nested command => command.tree.command

def call (compiled : Compiled) (input : Json) : StoreM Json :=
  match compiled with
  | .flat command => command.call input
  | .nested command => command.call input

def andThen (compiled : Compiled) (output : OutputMap) : Compiled :=
  match compiled with
  | .flat command => .flat (command.andThen output)
  | .nested command => .nested (command.andThen output)

def view (compiled : Compiled) (name : String) (args : List Json) :
    Except Fault Compiled :=
  match compiled with
  | .flat command => return .flat (← command.view name args)
  | .nested command => return .nested (← command.view name args)

end Compiled

end RelationGraph
