import RelationGraph.Struct
import RelationGraph.Plan

set_option autoImplicit false

namespace RelationGraph

/-- How tuples become structs. -/
structure StructLayout where
  name : String
  cardinality : Cardinality
  attributes : List String
  nodes : List StructLayout

namespace StructLayout

mutual

/-- The layouts of a plan and of what its headers group. -/
def layoutsOf : Plan → List StructLayout
  | .relation name _ link content =>
    [⟨name, link.cardinality.getD .one, Plan.attributesIn content, layoutsIn content⟩]
  | .header nodes => layoutsIn nodes
  | .attribute _ => []

def layoutsIn : List Plan → List StructLayout
  | [] => []
  | plan :: rest => layoutsOf plan ++ layoutsIn rest

end

/-- The layout of a plan, which has to be a relation. -/
def ofPlan : Plan → Except Fault StructLayout
  | .relation name _ link content =>
    .ok ⟨name, link.cardinality.getD .one, Plan.attributesIn content, layoutsIn content⟩
  | _ => .error (.malformedPlan .notARelation)

/-- The plain attributes of a tuple: the declared ones, or else every column but those of `nodes`.
-/
def plainAttributes (declared : List String) (nodes : List StructLayout) (tuple : Tuple) :
    List (String × Attribute) :=
  if declared.isEmpty then
    (tuple.filter fun column => !nodes.any (·.name = column.1)).map fun column =>
      (column.1, .value column.2)
  else declared.map fun column => (column, .value (tuple.read column))

/-- Maps a tuple in a collection, which has to be an object. -/
def mapItem (name : String) (map : Tuple → Except Fault Struct) :
    Json → Except Fault Struct
  | .object tuple => map tuple
  | value => .error (.invalidInput (.unmappableItem name value))

/-- Maps the value under the name of a node: an array, an object, or nothing. -/
def mapNested (name : String) (cardinality : Cardinality)
    (map : Tuple → Except Fault Struct) : Json → Except Fault Attribute
  | .array items => do return .many (← items.mapM (mapItem name map))
  | .object tuple => do return .one (← map tuple)
  | .null =>
    match cardinality with
    | .one => .ok .absent
    | .many => .ok (.many [])
  | value => .error (.invalidInput (.unmappableValue name value))

mutual

def mapTuple : StructLayout → Tuple → Except Fault Struct
  | ⟨name, _, attributes, nodes⟩, tuple => do
    return .mk name (plainAttributes attributes nodes tuple ++ (← mapNodes tuple nodes))

def mapNodes (tuple : Tuple) :
    List StructLayout → Except Fault (List (String × Attribute))
  | [] => .ok []
  | ⟨name, cardinality, attributes, nodes⟩ :: rest => do
    let nested ← mapNested name cardinality (mapTuple ⟨name, cardinality, attributes, nodes⟩)
      (tuple.read name)
    return (name, nested) :: (← mapNodes tuple rest)

end

/-- Maps an output: an object, an array of objects, or null. -/
def map (layout : StructLayout) : Json → Except Fault Mapped
  | .object tuple => do return .one (some (← layout.mapTuple tuple))
  | .array items => do return .many (← items.mapM (mapItem layout.name layout.mapTuple))
  | .null => .ok (.one none)
  | value => .error (.invalidInput (.unmappableOutput layout.name value))

end StructLayout

structure LayoutCache where
  entries : List (Plan × StructLayout)

namespace LayoutCache

def empty : LayoutCache := ⟨[]⟩

instance : EmptyCollection LayoutCache := ⟨empty⟩

def size (cache : LayoutCache) : Nat := cache.entries.length

/-- The layout of a plan, made if it is not there, and the layouts afterwards. -/
def get (cache : LayoutCache) (plan : Plan) : Except Fault (StructLayout × LayoutCache) :=
  match Entries.get? plan cache.entries with
  | some layout => .ok (layout, cache)
  | none => do
    let layout ← StructLayout.ofPlan plan
    return (layout, ⟨(plan, layout) :: cache.entries⟩)

end LayoutCache

end RelationGraph
