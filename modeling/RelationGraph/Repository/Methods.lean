import RelationGraph.Repository.Basic

set_option autoImplicit false

namespace RelationGraph

structure MethodDefinition where
  type : CommandType
  views : List String
  customization : Option Customization

/-- The methods of a definition, each with the view it goes through: for one view or none the method
has the name of the type, for several each has the view's name behind it. -/
def MethodDefinition.methods (definition : MethodDefinition) : List (String × Option String) :=
  match definition.views with
  | [] => [(definition.type.name, none)]
  | [view] => [(definition.type.name, some view)]
  | views => views.map fun view => (s!"{definition.type.name}_{view}", some view)

structure Method where
  type : CommandType
  view : Option String
  customization : Option Customization

/-- A repository of one relation with command methods. -/
structure MethodRepository where
  repository : Repository
  root : String
  methods : SortedMap String Method

namespace MethodRepository

/-- Adds methods, first to last; none may have the name of one that is there. -/
def defineAll : List (String × Method) → SortedMap String Method →
    Except Fault (SortedMap String Method)
  | [], methods => .ok methods
  | (name, method) :: rest, methods =>
    if methods.contains name then .error (.configuration (.definedTwice name))
    else defineAll rest (methods.insert name method)

def methodsOf (definitions : List MethodDefinition) : List (String × Method) :=
  definitions.flatMap fun definition =>
    definition.methods.map fun (name, view) =>
      (name, ⟨definition.type, view, definition.customization⟩)

def ofCompiler (id : Nat) (compiler : Compiler) (root : String)
    (definitions : List MethodDefinition) : Except Fault MethodRepository := do
  let repository ← Repository.ofCompiler id compiler [root]
  return ⟨repository, root, ← defineAll (methodsOf definitions) ∅⟩

def tree (repository : MethodRepository) : Except Fault RelationTree :=
  repository.repository.relation repository.root

def methodCommand (repository : MethodRepository) (name : String) (args : List Json) :
    WorkM MappedCommand := do
  match repository.methods.get? name with
  | none => throw (.invalidInput (.unknownMethod repository.root name))
  | some method =>
    let tree ← MonadExcept.ofExcept repository.tree
    let command ← repository.repository.command method.type.name tree method.customization
    match method.view with
    | some view => command.view view args
    | none => return command

def callMethod (repository : MethodRepository) (name : String) (args : List Json) (input : Json) :
    WorkM Mapped := do
  let command ← repository.methodCommand name args
  WorkM.ofStore (command.call input)

def create (repository : MethodRepository) (input : Json) : WorkM Mapped :=
  repository.callMethod "create" [] input

def update (repository : MethodRepository) (args : List Json) (input : Json) : WorkM Mapped :=
  repository.callMethod "update" args input

def delete (repository : MethodRepository) (args : List Json) : WorkM Mapped :=
  repository.callMethod "delete" args .null

end MethodRepository

end RelationGraph
