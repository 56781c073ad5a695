import RelationGraph.SortedMap

set_option autoImplicit false

namespace RelationGraph

/-- Whether a parent is given one value or a sequence. -/
inductive Cardinality where
  | one
  | many
deriving DecidableEq, Inhabited

namespace Cardinality

def name : Cardinality → String
  | .one => "one"
  | .many => "many"

def ofName? (name : String) : Option Cardinality :=
  if name = "one" then some .one
  else if name = "many" then some .many
  else none

theorem ofName?_name (cardinality : Cardinality) : ofName? cardinality.name = some cardinality := by
  cases cardinality <;> decide

end Cardinality

/-- Columns of the parent side, each with its column of the child side. -/
abbrev JoinKeys := SortedMap String String

namespace JoinKeys

def single (left right : String) : JoinKeys := SortedMap.ofList [(left, right)]

def pairs (keys : JoinKeys) : List (String × String) := keys.entries

/-- The pairs with both sides swapped; of pairs with one right column the last by left column stays.
-/
def invert (keys : JoinKeys) : JoinKeys := SortedMap.ofList (keys.pairs.map Prod.swap)

def display (keys : JoinKeys) : String :=
  "\x7b" ++ ", ".intercalate (keys.pairs.map fun pair => s!"{pair.1} => {pair.2}") ++ "\x7d"

/-- The order of lists of pairs: by the first pair that differs, left column before right; a proper
beginning comes first. -/
def comparePairs : List (String × String) → List (String × String) → Ordering
  | [], [] => .eq
  | [], _ :: _ => .lt
  | _ :: _, [] => .gt
  | (left, right) :: rest, (left', right') :: rest' =>
    ((compare left left').then (compare right right')).then (comparePairs rest rest')

def order (keys other : JoinKeys) : Ordering := comparePairs keys.pairs other.pairs

@[simp] theorem pairs_single (left right : String) : (single left right).pairs = [(left, right)] :=
  rfl

@[simp] theorem invert_single (left right : String) :
    (single left right).invert = single right left := rfl

end JoinKeys

end RelationGraph
