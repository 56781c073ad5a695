import RelationGraph.Tuple
import RelationGraph.Fault

set_option autoImplicit false

namespace RelationGraph

abbrev OutputMap := Json → Except Fault Json

namespace OutputMap

def applyAll : List OutputMap → Json → Except Fault Json
  | [], value => .ok value
  | map :: rest, value => (map value).bind (applyAll rest)

def pluck (key : String) : OutputMap := fun value => .ok (value.member key)

/-- An object with the output as its only member. -/
def wrap (key : String) : OutputMap := fun value => .ok (.object [(key, value)])

def fail (text : String) : OutputMap := fun _ => .error (.invalidInput (.stated text))

/-- The first item of an array, or null. -/
def first : OutputMap
  | .array (item :: _) => .ok item
  | _ => .ok .null

/-- The number of items of an array or of members of an object; none for all else. -/
def count : OutputMap
  | .array items => .ok (.ofNat items.length)
  | .object members => .ok (.ofNat members.length)
  | _ => .ok (.ofNat 0)

theorem applyAll_append (first second : List OutputMap) (value : Json) :
    applyAll (first ++ second) value = (applyAll first value).bind (applyAll second) := by
  induction first generalizing value with
  | nil => rfl
  | cons map rest ih =>
    simp only [List.cons_append, applyAll]
    cases map value with
    | error error => rfl
    | ok mapped => exact ih mapped

end OutputMap

end RelationGraph
