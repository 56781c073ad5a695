import RelationGraph.Criteria
import RelationGraph.JoinKeys

set_option autoImplicit false

namespace RelationGraph

/-- A change to input tuples. In a nested write it also sees the parent tuple as stored. -/
structure InputMap where
  name : String
  apply : (tuple : Tuple) → (parent : Option Tuple) → Except Fault Tuple

/-- Passes a tuple through input maps, first to last. -/
def InputMap.applyAll (parent : Option Tuple) : List InputMap → Tuple → Except Fault Tuple
  | [], tuple => .ok tuple
  | map :: rest, tuple => do
    let tuple ← map.apply tuple parent
    InputMap.applyAll parent rest tuple

inductive ColumnEdit where
  /-- Puts the ASCII letters of a text column in upper case. -/
  | upcase (column : String)
  | append (column text : String)
  | set (column : String) (value : Json)
  | remove (column : String)
  /-- Copies a column of the parent, where there is a parent that has it. -/
  | fromParent (column source : String)
  | fail (text : String)

namespace ColumnEdit

/-- The tuple with a text column changed; other values stay. -/
def editText (tuple : Tuple) (column : String) (edit : String → String) : Tuple :=
  match tuple.get? column with
  | some (.string text) => tuple.insert column (.string (edit text))
  | _ => tuple

def name : ColumnEdit → String
  | .upcase _ => "upcase"
  | .append _ _ => "append"
  | .set _ _ => "set"
  | .remove _ => "remove"
  | .fromParent _ _ => "parent"
  | .fail _ => "fail"

def apply (tuple : Tuple) (parent : Option Tuple) : ColumnEdit → Except Fault Tuple
  | .upcase column => .ok (editText tuple column fun text => text.map Char.toUpper)
  | .append column text => .ok (editText tuple column (· ++ text))
  | .set column value => .ok (tuple.insert column value)
  | .remove column => .ok (tuple.erase column)
  | .fromParent column source =>
    match parent.bind (·.get? source) with
    | some value => .ok (tuple.insert column value)
    | none => .ok tuple
  | .fail text => .error (.invalidInput (.stated text))

def inputMap (edit : ColumnEdit) : InputMap :=
  ⟨edit.name, fun tuple parent => edit.apply tuple parent⟩

end ColumnEdit

/-! ### Keys of the parent -/

namespace ParentKeys

/-- The value of a parent's column; a parent without it is refused. -/
def parentValue (parent : Tuple) (column : String) : Except Fault Json :=
  match parent.get? column with
  | some value => .ok value
  | none => .error (.invalidInput (.missingParentColumn column))

/-- The child column of each pair with the parent's value. -/
def values (parent : Tuple) : List (String × String) → Except Fault (List (String × Json))
  | [] => .ok []
  | (child, column) :: rest => do
    let value ← parentValue parent column
    return (child, value) :: (← values parent rest)

/-- The child's tuple with the parent's key values; `keys` maps child columns to parent columns.
Without a parent the tuple stays. -/
def copyInto (keys : JoinKeys) (tuple : Tuple) : Option Tuple → Except Fault Tuple
  | none => .ok tuple
  | some parent => do return tuple.merge (← values parent keys.pairs)

def criteriaFor (keys : JoinKeys) (parent : Tuple) : Except Fault Criteria := do
  let columns ← values parent keys.pairs
  return ⟨columns.map fun (child, value) => (child, .eq value)⟩

def inputMap (keys : JoinKeys) : InputMap := ⟨"associates", copyInto keys⟩

end ParentKeys

end RelationGraph
