import RelationGraph.Tuple
import RelationGraph.Json.Document

set_option autoImplicit false

namespace RelationGraph

mutual

/-- A mapped tuple. -/
inductive Struct where
  /-- The name of the relation it was mapped from, and the attributes. -/
  | mk (name : String) (attributes : List (String × Attribute))

inductive Attribute where
  | value (value : Json)
  /-- No struct where there could be one. -/
  | absent
  | one (struct : Struct)
  | many (structs : List Struct)

end

namespace Struct

def name : Struct → String
  | .mk name _ => name

def attributes : Struct → List (String × Attribute)
  | .mk _ attributes => attributes

/-- The names of the attributes in order. -/
def attributeNames (struct : Struct) : List String := struct.attributes.map (·.1)

/-- The attribute of a name; the first if there are several. -/
def get? (struct : Struct) (name : String) : Option Attribute :=
  Entries.get? name struct.attributes

def value? (struct : Struct) (name : String) : Option Json :=
  match struct.get? name with
  | some (.value value) => some value
  | _ => none

def one? (struct : Struct) (name : String) : Option Struct :=
  match struct.get? name with
  | some (.one nested) => some nested
  | _ => none

def many (struct : Struct) (name : String) : List Struct :=
  match struct.get? name with
  | some (.many nested) => nested
  | _ => []

mutual

/-- The tuple of a struct; of attributes with one name the last stays. -/
def toTuple : Struct → Tuple
  | .mk _ attributes => Tuple.ofList (columns attributes)

def columns : List (String × Attribute) → List (String × Json)
  | [] => []
  | (name, value) :: rest => (name, attributeValue value) :: columns rest

def attributeValue : Attribute → Json
  | .value value => value
  | .absent => .null
  | .one struct => .object (toTuple struct)
  | .many structs => .array (itemValues structs)

def itemValues : List Struct → List Json
  | [] => []
  | struct :: rest => .object (toTuple struct) :: itemValues rest

end

mutual

def toDocument : Struct → Json.Document
  | .mk _ attributes => .object (memberDocuments attributes)

def memberDocuments : List (String × Attribute) → List (String × Json.Document)
  | [] => []
  | (name, value) :: rest => (name, attributeDocument value) :: memberDocuments rest

def attributeDocument : Attribute → Json.Document
  | .value value => value.toDocument
  | .absent => .null
  | .one struct => toDocument struct
  | .many structs => .array (itemDocuments structs)

def itemDocuments : List Struct → List Json.Document
  | [] => []
  | struct :: rest => toDocument struct :: itemDocuments rest

end

def text (struct : Struct) : String := String.ofList struct.toDocument.chars

end Struct

inductive Mapped where
  | one (struct : Option Struct)
  | many (structs : List Struct)

namespace Mapped

/-- One struct: of a sequence the first. -/
def one? : Mapped → Option Struct
  | .one struct => struct
  | .many structs => structs.head?

def toList : Mapped → List Struct
  | .one struct => struct.toList
  | .many structs => structs

def isEmpty (mapped : Mapped) : Bool := mapped.toList.isEmpty

end Mapped

end RelationGraph
