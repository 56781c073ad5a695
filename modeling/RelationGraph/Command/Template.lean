import RelationGraph.Command.Type
import RelationGraph.Command.InputMap
import RelationGraph.Plan

set_option autoImplicit false

namespace RelationGraph

/-- Input maps that configurations can ask for by name. -/
abbrev Plugins := SortedMap String InputMap

structure CommandTemplate where
  title : String
  relation : RelationName
  type : CommandType
  adapter : String
  result : Cardinality
  inputs : List InputMap
  /-- In a nested write, the child columns that take the values of parent columns. -/
  parentKeys : Option JoinKeys
  plugins : Plugins

namespace CommandTemplate

/-- A template without input maps, answering with one tuple. -/
def fresh (relation : RelationName) (type : CommandType) (adapter : String)
    (plugins : Plugins) : CommandTemplate where
  title := s!"{type.title}[{adapter}]({relation.relation})"
  relation := relation
  type := type
  adapter := adapter
  result := .one
  inputs := []
  parentKeys := none
  plugins := plugins

def withInputMap (template : CommandTemplate) (map : InputMap) : CommandTemplate :=
  { template with inputs := template.inputs ++ [map] }

def withParentKeys (template : CommandTemplate) (keys : JoinKeys) : CommandTemplate :=
  { template with parentKeys := some keys }

def withResult (template : CommandTemplate) (result : Cardinality) : CommandTemplate :=
  { template with result := result }

end CommandTemplate

def Plugins.find (plugins : Plugins) (name : String) : Except Fault InputMap :=
  match plugins.get? name with
  | some map => .ok map
  | none => .error (.unknownPlugin name)

/-- A step that configures a template and may fail. -/
abbrev Configure := ExceptT Fault (StateM CommandTemplate)

namespace Configure

def usePlugin (name : String) : Configure Unit := do
  match (← get).plugins.find name with
  | .ok map => modify (·.withInputMap map)
  | .error error => throw error

/-- Adds the input maps registered under names, up to the first that is not registered. -/
def usePlugins : List String → Configure Unit
  | [] => return
  | name :: rest => do
    usePlugin name
    usePlugins rest

/-- The configured template, or the error that stopped the configuration. -/
def apply (configure : Configure Unit) (template : CommandTemplate) :
    Except Fault CommandTemplate :=
  match configure.run.run template with
  | (.ok _, configured) => .ok configured
  | (.error error, _) => .error error

/-- The template as far as the configuration got. -/
def applyPartly (configure : Configure Unit) (template : CommandTemplate) : CommandTemplate :=
  (configure.run.run template).2

end Configure

structure Directives where
  only : Option String
  plugins : List String
  parentKeys : Option JoinKeys
  result : Option Cardinality
  input : Option InputMap
  fail : Option String

def Directives.none : Directives :=
  ⟨Option.none, [], Option.none, Option.none, Option.none, Option.none⟩

def Directives.run (directives : Directives) : Configure Unit := do
  if directives.only.all (· = (← get).relation.relation) then
    Configure.usePlugins directives.plugins
    modify fun template =>
      { template with
        parentKeys := directives.parentKeys.or template.parentKeys
        result := directives.result.getD template.result
        inputs := template.inputs ++ directives.input.toList }
    match directives.fail with
    | some text => throw (.invalidInput (.stated text))
    | Option.none => return

end RelationGraph
