import RelationGraph.Json.Document
import RelationGraph.Text.Quoted

set_option autoImplicit false

namespace RelationGraph

inductive PlanFault where
  | rootIsHeader
  | rootIsAttribute (name : String)
  | tooDeep (limit : Nat)
  /-- A nested relation does not say how many tuples it yields. -/
  | noCombineType (name : String)
  | noCombineKeys (name : String)
  /-- A struct layout was asked for a plan that is no relation. -/
  | notARelation
  | stated (text : String)

def PlanFault.message : PlanFault → String
  | .rootIsHeader => "plan root must be a relation node, found a header"
  | .rootIsAttribute name => s!"plan root must be a relation node, found attribute '{name}'"
  | .tooDeep limit => s!"plan is deeper than the configured limit of {limit}"
  | .noCombineType name => s!"nested relation '{name}' has no combine type"
  | .noCombineKeys name => s!"nested relation '{name}' has no combine keys"
  | .notARelation => "struct mappers are built from relation nodes"
  | .stated text => text

inductive KeyFault where
  | associationSourceKeyless
  | associationTargetKeyless
  /-- The one side of a join by convention has no primary key. -/
  | sourceKeyless
  /-- The convention yields an empty column name. -/
  | noForeignKey
  | emptyMapping
  | stated (text : String)

def KeyFault.message : KeyFault → String
  | .associationSourceKeyless => "source has no primary key"
  | .associationTargetKeyless => "target has no primary key"
  | .sourceKeyless => "source relation has no primary key"
  | .noForeignKey => "no foreign key could be derived"
  | .emptyMapping => "combine keys resolved to an empty mapping"
  | .stated text => text

inductive InputFault where
  | notAnObject (value : Json)
  /-- A node of a command tree was given something else than an object. -/
  | notAnEntry (key : String) (value : Json)
  /-- The input of a command tree lacks the key of its root. -/
  | missingKey (key : String)
  /-- A parent lacks a column that its children refer to. -/
  | missingParentColumn (column : String)
  /-- More than one tuple was found where one at most may be. -/
  | severalTuples (name : String) (count : Nat)
  | wrongArity (view : String) (expected given : Nat)
  | unmappableValue (name : String) (value : Json)
  | unmappableItem (name : String) (value : Json)
  | unmappableOutput (name : String) (value : Json)
  | unknownMethod (repository method : String)
  /-- A model was not created from a single object. -/
  | notASingleTuple (value : Json)
  | stated (text : String)

def InputFault.message : InputFault → String
  | .notAnObject value => s!"expected an object as command input, got {value.text}"
  | .notAnEntry key value => s!"expected an object as '{key}' input, got {value.text}"
  | .missingKey key => s!"command graph input has no '{key}' key"
  | .missingParentColumn column => s!"parent tuple has no '{column}' attribute to associate"
  | .severalTuples name count => s!"expected at most one tuple from '{name}', got {count}"
  | .wrongArity view expected given =>
    s!"view '{view}' expects {expected} argument(s), got {given}"
  | .unmappableValue name value => s!"cannot map '{name}' value {value.text} into a struct"
  | .unmappableItem name value => s!"expected an object in '{name}' collection, got {value.text}"
  | .unmappableOutput name value => s!"cannot map {value.text} into '{name}' structs"
  | .unknownMethod repository method =>
    s!"'{repository}' repository has no command method '{method}'"
  | .notASingleTuple value => s!"create expects a single tuple, got {value.text}"
  | .stated text => text

inductive GatewayFault where
  | duplicateKey (value : Json) (dataset : String)
  | stated (text : String)

def GatewayFault.message : GatewayFault → String
  | .duplicateKey value dataset => s!"duplicate primary key {value.text} in '{dataset}'"
  | .stated text => text

inductive ConfigurationFault where
  | registeredTwice (relation : String)
  | unknownTarget (association relation target : String)
  | definedTwice (method : String)
  /-- A tuple is addressed by its primary key in a relation without one. -/
  | keyless (relation : String)
  | stated (text : String)

def ConfigurationFault.message : ConfigurationFault → String
  | .registeredTwice relation => s!"relation '{relation}' is registered twice"
  | .unknownTarget association relation target =>
    s!"association '{association}' on '{relation}' targets unknown relation '{target}'"
  | .definedTwice method => s!"command method '{method}' is defined twice"
  | .keyless relation => s!"relation '{relation}' has no primary key"
  | .stated text => text

/-- A failure of combining, compiling, loading or writing. The kinds of causes have a `stated` one
each, for what callers of the library say in their own words. -/
inductive Fault where
  | unknownCommandType (name : String)
  /-- There is no association of this name, and no keys were given in its place. -/
  | unknownAssociation (relation name : String)
  | malformedPlan (fault : PlanFault)
  | unjoinable (source target : String) (fault : KeyFault)
  | unknownRelation (name : String)
  | unknownGateway (name : String)
  | unknownView (relation view : String)
  | unknownPlugin (name : String)
  | invalidInput (fault : InputFault)
  | gateway (fault : GatewayFault)
  | serialization (text : String)
  | configuration (fault : ConfigurationFault)

namespace Fault

def message : Fault → String
  | .unknownCommandType name => s!"{Text.quoted name} is not a supported command type"
  | .unknownAssociation relation name =>
    s!"Relation '{relation}' has no association named '{name}' and no keys were given"
  | .malformedPlan fault => s!"Malformed plan: {fault.message}"
  | .unjoinable source target fault =>
    s!"Cannot infer combine keys from '{source}' to '{target}': {fault.message}"
  | .unknownRelation name => s!"Relation '{name}' is not registered"
  | .unknownGateway name => s!"Gateway '{name}' is not registered"
  | .unknownView relation view => s!"Relation '{relation}' has no view named '{view}'"
  | .unknownPlugin name => s!"Command plugin '{name}' is not registered"
  | .invalidInput fault => s!"Invalid input: {fault.message}"
  | .gateway fault => s!"Gateway error: {fault.message}"
  | .serialization text => s!"Serialization error: {text}"
  | .configuration fault => s!"Configuration error: {fault.message}"

def isUnknownCommandType : Fault → Bool
  | .unknownCommandType _ => true
  | _ => false

def isUnknownAssociation : Fault → Bool
  | .unknownAssociation _ _ => true
  | _ => false

def isMalformedPlan : Fault → Bool
  | .malformedPlan _ => true
  | _ => false

def isUnjoinable : Fault → Bool
  | .unjoinable _ _ _ => true
  | _ => false

def isUnknownRelation : Fault → Bool
  | .unknownRelation _ => true
  | _ => false

end Fault

end RelationGraph
