import RelationGraph.Json.Document

/-!
Records and variants inside documents.

A record stands as an object, where unknown members are passed over and no known one may be
repeated, or as a sequence of all its fields in their order. A variant stands as its name, or as an
object with the name as its only key and the payload as its value.
-/

set_option autoImplicit false

namespace RelationGraph.Json.Document

/-- The value of the only member with a key; absent where there is none, refused where there are
several. -/
def member? (members : List (String × Document)) (key : String) : Option (Option Document) :=
  match members.filter (·.1 = key) with
  | [] => some none
  | [(_, value)] => some (some value)
  | _ => none

def fields? (names : List String) : Document → Option (List (Option Document))
  | .object members => names.mapM (member? members)
  | .array items => if items.length = names.length then some (items.map some) else none
  | _ => none

def required {α : Type} (read : Document → Option α) (field : Option Document) : Option α :=
  field.bind read

def optional {α : Type} (read : Document → Option α) : Option Document → Option (Option α)
  | none => some none
  | some .null => some none
  | some value => (read value).map some

def variant? : Document → Option (String × Option Document)
  | .string name => some (name, none)
  | .object [(name, payload)] => some (name, some payload)
  | _ => none

/-- Whether a payload may stand at a variant without one: none at all or null, and inside a document
that is read through a first pass also the empty object. -/
def isUnit (rereading : Bool) : Option Document → Bool
  | none => true
  | some .null => true
  | some (.object []) => rereading
  | _ => false

def string? : Document → Option String
  | .string value => some value
  | _ => none

def bool? : Document → Option Bool
  | .bool value => some value
  | _ => none

def nat? : Document → Option Nat
  | .number (.int n) => if 0 ≤ n ∧ n < 0x10000000000000000 then some n.toNat else none
  | _ => none

def items? : Document → Option (List Document)
  | .array items => some items
  | _ => none

end RelationGraph.Json.Document
