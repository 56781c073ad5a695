import RelationGraph.Entries

set_option autoImplicit false

namespace RelationGraph

/-- A finite map from ordered keys to values. -/
@[ext] structure SortedMap (κ α : Type) [LT κ] where
  entries : List (κ × α)
  sorted : Entries.Sorted entries
deriving DecidableEq

namespace SortedMap

variable {κ α : Type} [LT κ]

def empty : SortedMap κ α := ⟨[], List.Pairwise.nil⟩

instance : EmptyCollection (SortedMap κ α) := ⟨empty⟩

instance : Inhabited (SortedMap κ α) := ⟨empty⟩

def keys (map : SortedMap κ α) : List κ := map.entries.map (·.1)

def values (map : SortedMap κ α) : List α := map.entries.map (·.2)

def size (map : SortedMap κ α) : Nat := map.entries.length

def isEmpty (map : SortedMap κ α) : Bool := map.entries.isEmpty

variable [DecidableEq κ]

def get? (map : SortedMap κ α) (key : κ) : Option α := Entries.get? key map.entries

def contains (map : SortedMap κ α) (key : κ) : Bool := (map.get? key).isSome

@[simp] theorem get?_empty (key : κ) : (∅ : SortedMap κ α).get? key = none := rfl

variable [DecidableLT κ] [LE κ] [Std.IsLinearOrder κ] [Std.LawfulOrderLT κ]

def insert (map : SortedMap κ α) (key : κ) (value : α) : SortedMap κ α :=
  ⟨Entries.insert key value map.entries, map.sorted.insert key value⟩

/-- The map of the given pairs; of pairs with one key the last stays. -/
def ofList (pairs : List (κ × α)) : SortedMap κ α :=
  ⟨Entries.ofList pairs, Entries.sorted_ofList pairs⟩

theorem get?_insert (map : SortedMap κ α) (key other : κ) (value : α) :
    (map.insert key value).get? other = if other = key then some value else map.get? other :=
  Entries.get?_insert key other value map.entries

end SortedMap

end RelationGraph
