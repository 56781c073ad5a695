import RelationGraph.Command.Template

/-!
Gateways: where datasets are stored.

A `Dataset` holds rows in the order of their insertion and the last key that it has given out or
taken over from a row; its operations are functions. A `Gateway` is a description without state. The
rows of all gateways are in the `Store`, by the identity of the gateway, and every access goes
through `StoreM`, whose changes stay when a later step fails.
-/

set_option autoImplicit false

namespace RelationGraph

structure Dataset where
  /-- The rows in the order of their insertion. -/
  rows : List Tuple
  /-- The last key given out, or a greater one that came with a row. -/
  lastKey : Int

namespace Dataset

def empty : Dataset := ⟨[], 0⟩

instance : EmptyCollection Dataset := ⟨empty⟩

instance : Inhabited Dataset := ⟨empty⟩

def fetch (dataset : Dataset) (criteria : Criteria) : List Tuple :=
  dataset.rows.filter criteria.matchesTuple

def insertNext (dataset : Dataset) (column : String) (tuple : Tuple) : Tuple × Dataset :=
  let row := tuple.insert column (.number (.int (dataset.lastKey + 1)))
  (row, ⟨dataset.rows ++ [row], dataset.lastKey + 1⟩)

def hasValue (dataset : Dataset) (column : String) (value : Json) : Bool :=
  dataset.rows.any fun row => (row.get? column).any (· == value)

/-- Adds a row. Where there is a primary key, a row that brings none is given the next; a key that
is taken is refused. -/
def insert (name : String) (primaryKey : Option String) (tuple : Tuple) (dataset : Dataset) :
    Except Fault (Tuple × Dataset) :=
  match primaryKey with
  | none => .ok (tuple, { dataset with rows := dataset.rows ++ [tuple] })
  | some column =>
    match tuple.read column with
    | .null => .ok (dataset.insertNext column tuple)
    | given =>
      if dataset.hasValue column given then .error (.gateway (.duplicateKey given name))
      else
        let lastKey :=
          match given.toInt64? with
          | some key => max dataset.lastKey key
          | none => dataset.lastKey
        .ok (tuple, ⟨dataset.rows ++ [tuple], lastKey⟩)

/-- Sets columns in the rows that meet the criteria; also those rows as they are then. -/
def update (criteria : Criteria) (changes : Tuple) (dataset : Dataset) : List Tuple × Dataset :=
  ((dataset.fetch criteria).map (·.merge changes),
    { dataset with
      rows := dataset.rows.map fun row =>
        if criteria.matchesTuple row then row.merge changes else row })

def delete (criteria : Criteria) (dataset : Dataset) : List Tuple × Dataset :=
  (dataset.fetch criteria,
    { dataset with rows := dataset.rows.filter fun row => !criteria.matchesTuple row })

end Dataset

structure Storage where
  datasets : SortedMap String Dataset
  /-- How many command templates it was asked to configure. -/
  registrations : Nat

namespace Storage

def empty : Storage := ⟨∅, 0⟩

/-- The dataset of a name; one that was never written to is empty. -/
def dataset (storage : Storage) (name : String) : Dataset := (storage.datasets.get? name).getD ∅

def withDataset (storage : Storage) (name : String) (dataset : Dataset) : Storage :=
  { storage with datasets := storage.datasets.insert name dataset }

end Storage

/-- What every gateway holds, by its identity. -/
abbrev Store := SortedMap Nat Storage

namespace Store

def storage (store : Store) (gateway : Nat) : Storage := (store.get? gateway).getD .empty

def dataset (store : Store) (gateway : Nat) (name : String) : Dataset :=
  (store.storage gateway).dataset name

def withDataset (store : Store) (gateway : Nat) (name : String) (dataset : Dataset) : Store :=
  store.insert gateway ((store.storage gateway).withDataset name dataset)

end Store

/-- A step that reads and writes stored rows and may fail; what it has written stays. -/
abbrev StoreM := ExceptT Fault (StateM Store)

inductive Operation where
  | fetch
  | insert
  | update
  | delete
deriving DecidableEq, Inhabited

structure Gateway where
  /-- The identity under which the rows are stored. -/
  id : Nat
  adapter : String
  configure : CommandTemplate → CommandTemplate
  /-- The operations that it always refuses, with its words. -/
  refuse : Operation → Option String

namespace Gateway

def plain (id : Nat) (adapter : String) : Gateway :=
  ⟨id, adapter, fun template => template, fun _ => none⟩

def permit (gateway : Gateway) (operation : Operation) : Except Fault Unit :=
  match gateway.refuse operation with
  | some text => .error (.gateway (.stated text))
  | none => .ok ()

def fetch (gateway : Gateway) (dataset : String) (criteria : Criteria) (store : Store) :
    Except Fault (List Tuple) := do
  gateway.permit .fetch
  return (store.dataset gateway.id dataset).fetch criteria

def change {α : Type} (gateway : Gateway) (operation : Operation) (dataset : String)
    (act : Dataset → Except Fault (α × Dataset)) : StoreM α := do
  MonadExcept.ofExcept (gateway.permit operation)
  match act ((← get).dataset gateway.id dataset) with
  | .ok (result, changed) =>
    modify (·.withDataset gateway.id dataset changed)
    return result
  | .error error => throw error

def insert (gateway : Gateway) (dataset : String) (primaryKey : Option String) (tuple : Tuple) :
    StoreM Tuple :=
  gateway.change .insert dataset (Dataset.insert dataset primaryKey tuple)

def update (gateway : Gateway) (dataset : String) (criteria : Criteria) (changes : Tuple) :
    StoreM (List Tuple) :=
  gateway.change .update dataset fun rows => .ok (rows.update criteria changes)

def delete (gateway : Gateway) (dataset : String) (criteria : Criteria) : StoreM (List Tuple) :=
  gateway.change .delete dataset fun rows => .ok (rows.delete criteria)

/-- Configures a command that is bound to one of the gateway's datasets, and counts it. -/
def register (gateway : Gateway) (template : CommandTemplate) : StoreM CommandTemplate := do
  modify fun store =>
    let storage := store.storage gateway.id
    store.insert gateway.id { storage with registrations := storage.registrations + 1 }
  return gateway.configure template

end Gateway

end RelationGraph
