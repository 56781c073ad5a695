import RelationGraph.Fault

set_option autoImplicit false

namespace RelationGraph

inductive CommandType where
  | create
  | update
  | delete
deriving DecidableEq, Inhabited

namespace CommandType

def name : CommandType → String
  | .create => "create"
  | .update => "update"
  | .delete => "delete"

def title : CommandType → String
  | .create => "Create"
  | .update => "Update"
  | .delete => "Delete"

def ofName? (name : String) : Option CommandType :=
  if name = "create" then some .create
  else if name = "update" then some .update
  else if name = "delete" then some .delete
  else none

def ofName (name : String) : Except Fault CommandType :=
  match ofName? name with
  | some type => .ok type
  | none => .error (.unknownCommandType name)

/-- Whether the command works on tuples that are there, so that criteria can narrow it. -/
def isRestrictable : CommandType → Bool
  | .create => false
  | .update | .delete => true

theorem ofName?_name (type : CommandType) : ofName? type.name = some type := by
  cases type <;> decide

end CommandType

end RelationGraph
