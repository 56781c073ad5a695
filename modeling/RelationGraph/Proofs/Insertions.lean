import RelationGraph.Proofs.StoreSteps
import RelationGraph.Proofs.Tuples

set_option autoImplicit false

namespace RelationGraph

theorem Dataset.rows_insert {name : String} {primaryKey : Option String} {given row : Tuple}
    {dataset changed : Dataset}
    (success : insert name primaryKey given dataset = .ok (row, changed)) :
    changed.rows = dataset.rows ++ [row] := by
  unfold insert at success
  split at success
  · cases success
    rfl
  · split at success
    · cases success
      rfl
    · split at success
      · cases success
      · cases success
        rfl

/-- An inserted row holds what was given, but for a key that was null. -/
theorem Dataset.get?_of_insert {name : String} {primaryKey : Option String} {given row : Tuple}
    {dataset changed : Dataset}
    (success : insert name primaryKey given dataset = .ok (row, changed)) {column : String}
    (present : (given.read column).isNull = false) : row.get? column = given.get? column := by
  unfold insert at success
  split at success
  · cases success
    rfl
  · split at success
    · rename_i key absent
      cases success
      rw [Tuple.get?_insert_of_ne]
      rintro rfl
      rw [absent] at present
      cases present
    · split at success
      · cases success
      · cases success
        rfl

/-- A row that is added to a dataset. -/
structure Insertion where
  relation : Relation
  /-- The tuple handed to the gateway. -/
  given : Tuple
  row : Tuple

namespace Insertion

def isIn (insertion : Insertion) (gateway : Nat) (dataset : String) : Bool :=
  insertion.relation.gateway.id == gateway && insertion.relation.name.dataset == dataset

/-- The insertion leads from one store to the other. -/
def Adds (insertion : Insertion) (store after : Store) : Prop :=
  ∃ dataset,
    Dataset.insert insertion.relation.name.dataset insertion.relation.primaryKey insertion.given
        (store.dataset insertion.relation.gateway.id insertion.relation.name.dataset) =
      .ok (insertion.row, dataset) ∧
    after = store.withDataset insertion.relation.gateway.id insertion.relation.name.dataset dataset

theorem Adds.rows_eq {insertion : Insertion} {store after : Store}
    (added : insertion.Adds store after) (gateway : Nat) (name : String) :
    (after.dataset gateway name).rows = (store.dataset gateway name).rows ++
      if insertion.isIn gateway name then [insertion.row] else [] := by
  obtain ⟨dataset, inserted, rfl⟩ := added
  rw [Store.dataset_withDataset]
  by_cases here : insertion.isIn gateway name = true
  · obtain ⟨rfl, rfl⟩ : insertion.relation.gateway.id = gateway ∧
        insertion.relation.name.dataset = name := by simpa [isIn] using here
    simp [here, Dataset.rows_insert inserted]
  · have elsewhere : ¬(gateway = insertion.relation.gateway.id ∧
        name = insertion.relation.name.dataset) := by
      rintro ⟨rfl, rfl⟩
      exact here (by simp [isIn])
    simp [here, elsewhere]

end Insertion

/-- Rows are added one after another. -/
inductive Inserted : Store → List Insertion → Store → Prop
  | nil {store : Store} : Inserted store [] store
  | cons {store between after : Store} {insertion : Insertion} {log : List Insertion}
      (first : insertion.Adds store between) (rest : Inserted between log after) :
      Inserted store (insertion :: log) after

theorem Inserted.append {store between after : Store} {first second : List Insertion}
    (earlier : Inserted store first between) (later : Inserted between second after) :
    Inserted store (first ++ second) after := by
  induction earlier with
  | nil => exact later
  | cons added _ ih => exact .cons added (ih later)

/-- A dataset grows by the rows that were added to it, in their order. -/
theorem Inserted.rows_eq {store after : Store} {log : List Insertion}
    (inserted : Inserted store log after) (gateway : Nat) (name : String) :
    (after.dataset gateway name).rows = (store.dataset gateway name).rows ++
      (log.filter (·.isIn gateway name)).map (·.row) := by
  induction inserted with
  | nil => simp
  | @cons _ _ _ insertion _ added _ ih =>
    rw [ih, added.rows_eq, List.append_assoc, List.filter_cons]
    by_cases here : insertion.isIn gateway name = true
    · simp [here]
    · simp [here]

end RelationGraph
