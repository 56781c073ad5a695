import RelationGraph.Naming

set_option autoImplicit false

namespace RelationGraph

structure Settings where
  defaultPrimaryKey : String
  convention : ForeignKeyNaming
  /-- The depth below the root up to which plans are compiled. -/
  maxPlanDepth : Nat
  cacheCommands : Bool
deriving DecidableEq, Inhabited

namespace Settings

def standard : Settings where
  defaultPrimaryKey := "id"
  convention := .underscore
  maxPlanDepth := 16
  cacheCommands := true

def development : Settings := { standard with maxPlanDepth := 32, cacheCommands := false }

def testing : Settings := { standard with maxPlanDepth := 4 }

end Settings

end RelationGraph
