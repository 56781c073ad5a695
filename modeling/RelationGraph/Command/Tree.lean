import RelationGraph.Command.Bound

/-!
Command trees: trees of commands for nested writes.

Every node reads its payload from under its key, in the entry of the node above it.
`CommandTree.call` checks the shape of the whole payload first and then writes in pre-order: an
entry, then for every row it touched the payloads of the children, each child seeing that row as its
parent.
-/

set_option autoImplicit false

namespace RelationGraph

/-- A command with the commands for what is nested in its payload. -/
structure CommandTree where
  key : String
  command : Command
  nodes : List CommandTree

namespace CommandTree

mutual

def size : CommandTree → Nat
  | ⟨_, _, nodes⟩ => 1 + sizeAll nodes

def sizeAll : List CommandTree → Nat
  | [] => 0
  | tree :: rest => size tree + sizeAll rest

end

def isNested (tree : CommandTree) : Bool := !tree.nodes.isEmpty

def withRoot (tree : CommandTree) (command : Command) : CommandTree :=
  { tree with command := command }

/-! ### Checking payloads -/

/-- Checks an entry: null, or an object with sound payloads for the nodes below. -/
def validateEntry (key : String) (children : Tuple → Except Fault Unit) :
    Json → Except Fault Unit
  | .null => .ok ()
  | .object members => children members
  | value => .error (.invalidInput (.notAnEntry key value))

mutual

/-- Checks a payload: an entry, for a create also an array of entries. -/
def validate : CommandTree → Json → Except Fault Unit
  | ⟨key, command, nodes⟩, payload =>
    match command.type, payload with
    | .create, .array items => items.forM (validateEntry key (validateChildren · nodes))
    | _, entry => validateEntry key (validateChildren · nodes) entry

def validateChildren (entry : Tuple) : List CommandTree → Except Fault Unit
  | [] => .ok ()
  | ⟨key, command, nodes⟩ :: rest => do
    match entry.get? key with
    | some payload => validate ⟨key, command, nodes⟩ payload
    | none => pure ()
    validateChildren entry rest

end

/-! ### Writing -/

/-- Takes the payloads of nodes out of an entry, in the order of the nodes. Of nodes with one key
the first is given the payload. -/
def takePayloads : List CommandTree → Tuple → List (Option Json) × Tuple
  | [], entry => ([], entry)
  | node :: rest, entry =>
    let (payloads, remaining) := takePayloads rest (entry.erase node.key)
    (entry.get? node.key :: payloads, remaining)

def collect {α β : Type} (act : α → StoreM (List β)) : List α → StoreM (List β)
  | [] => return []
  | item :: rest => do
    let first ← act item
    return first ++ (← collect act rest)

/-- Runs the root command for an entry without the payloads of its nodes, and then `children` for
every row that it touched. -/
def runEntry (command : Command) (nodes : List CommandTree) (parent : Option Tuple)
    (children : List (Option Json) → Tuple → StoreM Tuple) (entry : Json) :
    StoreM (List Tuple) := do
  let tuple ← MonadExcept.ofExcept entry.toTuple
  let (payloads, own) := takePayloads nodes tuple
  let stored ← command.run own parent
  collect (fun row => return [← children payloads row]) stored

def runPayload (command : Command) (act : Json → StoreM (List Tuple)) (payload : Json) :
    StoreM Json := do
  match command.type, payload with
  | .create, .array items => return .array ((← collect act items).map .object)
  | _, entry => return command.shape (← act entry)

mutual

def execute (parent : Option Tuple) : CommandTree → Json → StoreM Json
  | ⟨_, command, nodes⟩, payload =>
    runPayload command
      (runEntry command nodes parent fun payloads row => executeChildren payloads row nodes)
      payload

/-- Runs the nodes for which there is a payload; each puts its output under its key in the row, and
the next one sees it there. -/
def executeChildren (payloads : List (Option Json)) (row : Tuple) :
    List CommandTree → StoreM Tuple
  | [] => return row
  | ⟨key, command, nodes⟩ :: rest => do
    match payloads with
    | some payload :: payloads =>
      let nested ← execute (some row) ⟨key, command, nodes⟩ payload
      executeChildren payloads (row.insert key nested) rest
    | none :: payloads => executeChildren payloads row rest
    | [] => return row

end

/-- Runs a tree for an input that holds the payload of the root under its key. -/
def call (tree : CommandTree) (input : Json) : StoreM Json := do
  let members ← MonadExcept.ofExcept input.toTuple
  match members.get? tree.key with
  | none => throw (.invalidInput (.missingKey tree.key))
  | some payload =>
    MonadExcept.ofExcept (tree.validate payload)
    tree.execute none payload

end CommandTree

end RelationGraph
