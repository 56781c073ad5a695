import RelationGraph.Repository.Basic

set_option autoImplicit false

namespace RelationGraph

/-- A repository of one relation with commands for single tuples. -/
structure KeyedRepository where
  repository : Repository
  relation : Relation
  createCommand : Command
  updateCommand : Command
  deleteCommand : Command

namespace KeyedRepository

/-- A command for single tuples of a relation, configured by its gateway. -/
def commandFor (catalog : Catalog) (relation : Relation) (type : CommandType) :
    StoreM Command := do
  let template ← relation.gateway.register
    (.fresh relation.name type relation.adapter catalog.plugins)
  return .bind (template.withResult .one) relation

def ofCompiler (id : Nat) (compiler : Compiler) (name : String) :
    StoreM KeyedRepository := do
  let repository ← MonadExcept.ofExcept (Repository.ofCompiler id compiler [name])
  let tree ← MonadExcept.ofExcept (repository.relation name)
  let relation := tree.relation
  return ⟨repository, relation,
    ← commandFor compiler.catalog relation .create,
    ← commandFor compiler.catalog relation .update,
    ← commandFor compiler.catalog relation .delete⟩

def tree (model : KeyedRepository) : Except Fault RelationTree :=
  model.repository.relation model.relation.name.relation

def create (model : KeyedRepository) (attributes : Json) : StoreM Tuple := do
  match ← model.createCommand.call attributes with
  | .object tuple => return tuple
  | output => throw (.invalidInput (.notASingleTuple output))

def withKey (model : KeyedRepository) (command : Command) (key : Json) :
    Except Fault Command :=
  match model.relation.primaryKey with
  | some column => .ok (command.restrict ((∅ : Criteria).whereEq column key))
  | none => .error (.configuration (.keyless model.relation.name.relation))

def tuple? : Json → Option Tuple
  | .object tuple => some tuple
  | _ => none

def update (model : KeyedRepository) (key attributes : Json) : StoreM (Option Tuple) := do
  let command ← MonadExcept.ofExcept (model.withKey model.updateCommand key)
  return tuple? (← command.call attributes)

def delete (model : KeyedRepository) (key : Json) : StoreM (Option Tuple) := do
  let command ← MonadExcept.ofExcept (model.withKey model.deleteCommand key)
  return tuple? (← command.call .null)

end KeyedRepository

end RelationGraph
