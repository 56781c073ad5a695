import RelationGraph.Json.Value

set_option autoImplicit false

namespace RelationGraph

/-- A row as loaded from or written to a dataset. -/
abbrev Tuple := List (String × Json)

namespace Tuple

def get? (tuple : Tuple) (column : String) : Option Json := Entries.get? column tuple

/-- The value of a column; a missing column reads as null. -/
def read (tuple : Tuple) (column : String) : Json := (tuple.get? column).getD .null

def insert (tuple : Tuple) (column : String) (value : Json) : Tuple :=
  Entries.insert column value tuple

def erase (tuple : Tuple) (column : String) : Tuple := Entries.erase column tuple

def merge (tuple changes : Tuple) : Tuple := Entries.insertAll changes tuple

/-- The tuple with the given columns; of columns with one name the last stays. -/
def ofList (columns : List (String × Json)) : Tuple := Entries.ofList columns

theorem get?_insert (tuple : Tuple) (column other : String) (value : Json) :
    (tuple.insert column value).get? other =
      if other = column then some value else tuple.get? other :=
  Entries.get?_insert column other value tuple

theorem get?_erase (tuple : Tuple) (column other : String) :
    (tuple.erase column).get? other = if other = column then none else tuple.get? other :=
  Entries.get?_erase column other tuple

end Tuple

end RelationGraph
