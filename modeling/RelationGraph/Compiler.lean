import RelationGraph.Catalog
import RelationGraph.Workspace

set_option autoImplicit false

namespace RelationGraph

/-- A request for the commands of a plan, up to the plan itself. -/
structure CompileRequest where
  catalog : Catalog
  type : CommandType
  adapter : String
  customization : Option Customization

namespace CompileRequest

/-- Checks the place of a relation in a plan: not too deep, and below the root linked to its parent.
-/
def checkNode (request : CompileRequest) (name : String) (link : Link) (depth : Nat) :
    Except Fault Unit :=
  if request.catalog.settings.maxPlanDepth < depth then
    .error (.malformedPlan (.tooDeep request.catalog.settings.maxPlanDepth))
  else if depth = 0 then .ok ()
  else if link.cardinality.isNone then .error (.malformedPlan (.noCombineType name))
  else if link.keys.isEmpty then .error (.malformedPlan (.noCombineKeys name))
  else .ok ()

/-- The template of a command before its gateway sees it. -/
def initialTemplate (request : CompileRequest) (relation : Relation) (link : Link) (depth : Nat) :
    CommandTemplate :=
  let template := CommandTemplate.fresh relation.name request.type request.adapter
    request.catalog.plugins
  if depth = 0 then template else template.withParentKeys link.keys.invert

def command (request : CompileRequest) (base : RelationName) (link : Link) (depth : Nat) :
    StoreM Command := do
  let relation ← MonadExcept.ofExcept (request.catalog.relation base.relation)
  let template ← relation.gateway.register (request.initialTemplate relation link depth)
  let template := template.withResult (link.cardinality.getD .one)
  match request.customization with
  | some customization =>
    return .bind (← MonadExcept.ofExcept (customization.configure.apply template)) relation
  | none => return .bind template relation

/-- What compiling does at the nodes of a plan. The payload of the root is under the name of its
relation, that of every other node under the node's name. -/
def visitor (request : CompileRequest) : Plan.Visitor StoreM CommandTree where
  onRelation name base link depth children := do
    MonadExcept.ofExcept (request.checkNode name link depth)
    let command ← request.command base link depth
    return ⟨if depth = 0 then base.relation else name, command, ← children⟩

def run (request : CompileRequest) (plan : Plan) : StoreM Compiled := do
  return .ofTree (← plan.walk request.visitor)

end CompileRequest

structure Compiler where
  catalog : Catalog
  /-- The identity of the cache it shares with other compilers. -/
  cache : Nat

namespace Compiler

def compileAnew (compiler : Compiler) (type : CommandType) (adapter : String) (plan : Plan)
    (customization : Option Customization) : WorkM CompiledInstance := do
  let compiled ← WorkM.ofStore
    (CompileRequest.run ⟨compiler.catalog, type, adapter, customization⟩ plan)
  return ⟨← WorkM.fresh, compiled⟩

/-- The compiled command of a plan; from the cache, unless the settings forbid it. -/
def compileType (compiler : Compiler) (type : CommandType) (adapter : String) (plan : Plan)
    (customization : Option Customization) : WorkM CompiledInstance := do
  if compiler.catalog.settings.cacheCommands then
    let key : RequestKey :=
      ⟨compiler.catalog.id, type, adapter, plan, customization.map (·.id)⟩
    WorkM.getOrCompute (·.cache compiler.cache) (·.withCache compiler.cache ·) key
      (compiler.compileAnew type adapter plan customization)
  else compiler.compileAnew type adapter plan customization

def compile (compiler : Compiler) (typeName : String) (adapter : String) (plan : Plan)
    (customization : Option Customization) : WorkM CompiledInstance := do
  let type ← MonadExcept.ofExcept (CommandType.ofName typeName)
  compiler.compileType type adapter plan customization

end Compiler

end RelationGraph
