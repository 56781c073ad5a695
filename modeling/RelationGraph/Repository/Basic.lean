import RelationGraph.Compiler
import RelationGraph.Combine
import RelationGraph.Load

set_option autoImplicit false

namespace RelationGraph

namespace CompiledInstance

/-- The command with the root narrowed by a view; a command of its own. -/
def view (command : CompiledInstance) (name : String) (args : List Json) :
    WorkM CompiledInstance := do
  let compiled ← MonadExcept.ofExcept (command.compiled.view name args)
  return ⟨← WorkM.fresh, compiled⟩

end CompiledInstance

namespace MappedCommand

def call (command : MappedCommand) (input : Json) : StoreM Mapped := do
  let output ← command.command.compiled.call input
  MonadExcept.ofExcept (command.layout.map output)

def view (command : MappedCommand) (name : String) (args : List Json) : WorkM MappedCommand := do
  return ⟨← command.command.view name args, command.layout⟩

end MappedCommand

structure Repository where
  /-- The identity of what the repository keeps. -/
  id : Nat
  relations : SortedMap String RelationTree
  compiler : Compiler

namespace Repository

def ofCompiler (id : Nat) (compiler : Compiler) (names : List String) :
    Except Fault Repository := do
  let relations ← names.mapM fun name => do
    return (name, ← RelationTree.ofCatalog compiler.catalog name)
  return ⟨id, .ofList relations, compiler⟩

def catalog (repository : Repository) : Catalog := repository.compiler.catalog

def relation (repository : Repository) (name : String) : Except Fault RelationTree :=
  match repository.relations.get? name with
  | some tree => .ok tree
  | none => .error (.unknownRelation name)

def layout (repository : Repository) (plan : Plan) : WorkM StructLayout := do
  let memory := (← get).memory repository.id
  let (layout, layouts) ← MonadExcept.ofExcept (memory.layouts.get plan)
  modify (·.withMemory repository.id { memory with layouts := layouts })
  return layout

def compileCommand (repository : Repository) (type : CommandType) (tree : RelationTree)
    (customization : Option Customization) : WorkM MappedCommand := do
  let plan := tree.toPlan
  let compiled ← repository.compiler.compileType type tree.relation.adapter plan customization
  return ⟨compiled, ← repository.layout plan⟩

/-- The command of a tree; one kept by the repository, unless the settings forbid it. -/
def command (repository : Repository) (typeName : String) (tree : RelationTree)
    (customization : Option Customization) : WorkM MappedCommand := do
  let type ← MonadExcept.ofExcept (CommandType.ofName typeName)
  if repository.catalog.settings.cacheCommands then
    let key : RepositoryKey := ⟨type, tree.toPlan, customization.map (·.id)⟩
    WorkM.getOrCompute (·.commands repository.id) (·.withCommands repository.id ·) key
      (repository.compileCommand type tree customization)
  else repository.compileCommand type tree customization

def commandFor (repository : Repository) (typeName relation : String)
    (customization : Option Customization) : WorkM MappedCommand := do
  let tree ← MonadExcept.ofExcept (repository.relation relation)
  repository.command typeName tree customization

def loadAll (repository : Repository) (tree : RelationTree) : WorkM (List Struct) := do
  let layout ← repository.layout tree.toPlan
  let tuples ← WorkM.reading tree.load
  MonadExcept.ofExcept (tuples.mapM layout.mapTuple)

/-- Loads the only tuple of a tree, if there is one. -/
def loadOne (repository : Repository) (tree : RelationTree) : WorkM (Option Struct) := do
  let layout ← repository.layout tree.toPlan
  let tuple ← WorkM.reading tree.loadOne
  MonadExcept.ofExcept (tuple.mapM layout.mapTuple)

def loadFirst (repository : Repository) (tree : RelationTree) : WorkM (Option Struct) := do
  let layout ← repository.layout tree.toPlan
  let tuple ← WorkM.reading tree.loadFirst
  MonadExcept.ofExcept (tuple.mapM layout.mapTuple)

end Repository

end RelationGraph
