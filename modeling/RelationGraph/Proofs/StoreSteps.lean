import Mathlib.Data.List.Forall2
import RelationGraph.Command.Tree

set_option autoImplicit false

namespace RelationGraph

theorem Except.bind_eq_ok {α β : Type} {first : Except Fault α} {next : α → Except Fault β}
    {result : β} :
    first >>= next = .ok result ↔ ∃ value, first = .ok value ∧ next value = .ok result := by
  cases first with
  | error error => simp [bind, Except.bind]
  | ok value => simp [bind, Except.bind]

theorem Except.mem_of_mapM {α β : Type} {make : α → Except Fault β} {items : List α}
    {made : List β} (success : items.mapM make = .ok made) {result : β} (member : result ∈ made) :
    ∃ item ∈ items, make item = .ok result := by
  induction items generalizing made with
  | nil =>
    cases success
    cases member
  | cons item rest ih =>
    rw [List.mapM_cons] at success
    obtain ⟨first, here, success⟩ := Except.bind_eq_ok.mp success
    obtain ⟨others, later, success⟩ := Except.bind_eq_ok.mp success
    cases success
    rcases List.mem_cons.mp member with rfl | inside
    · exact ⟨item, List.mem_cons_self, here⟩
    · obtain ⟨other, given, same⟩ := ih later inside
      exact ⟨other, List.mem_cons_of_mem _ given, same⟩

theorem Except.mapM_eq_ok {α β : Type} {make : α → Except Fault β} {items : List α}
    {made : List β} :
    items.mapM make = .ok made ↔
      List.Forall₂ (fun item result => make item = .ok result) items made := by
  induction items generalizing made with
  | nil =>
    rw [List.forall₂_nil_left_iff]
    exact ⟨fun success => (by cases success; rfl), fun empty => empty ▸ rfl⟩
  | cons item rest ih =>
    rw [List.mapM_cons, Except.bind_eq_ok, List.forall₂_cons_left_iff]
    constructor
    · rintro ⟨first, here, success⟩
      obtain ⟨others, later, finished⟩ := Except.bind_eq_ok.mp success
      cases finished
      exact ⟨first, others, here, ih.mp later, rfl⟩
    · rintro ⟨first, others, here, later, rfl⟩
      exact ⟨first, here, Except.bind_eq_ok.mpr ⟨others, ih.mpr later, rfl⟩⟩

theorem Except.exists_mapM_iff {α β : Type} {make : α → Except Fault β} {items : List α} :
    (∃ made, items.mapM make = .ok made) ↔ ∀ item ∈ items, ∃ result, make item = .ok result := by
  induction items with
  | nil => exact ⟨fun _ _ member => (by cases member), fun _ => ⟨[], rfl⟩⟩
  | cons item rest ih =>
    rw [List.forall_mem_cons, ← ih, List.mapM_cons]
    constructor
    · rintro ⟨made, success⟩
      obtain ⟨first, here, success⟩ := Except.bind_eq_ok.mp success
      obtain ⟨others, later, _⟩ := Except.bind_eq_ok.mp success
      exact ⟨⟨first, here⟩, others, later⟩
    · rintro ⟨⟨first, here⟩, others, later⟩
      rw [here, later]
      exact ⟨first :: others, rfl⟩

theorem Except.forM_eq_ok {α : Type} {check : α → Except Fault Unit} {items : List α} :
    items.forM check = .ok () ↔ ∀ item ∈ items, check item = .ok () := by
  induction items with
  | nil => exact ⟨fun _ _ member => (by cases member), fun _ => rfl⟩
  | cons item rest ih =>
    change (check item >>= fun _ => rest.forM check) = .ok () ↔ _
    rw [Except.bind_eq_ok, List.forall_mem_cons, ih]
    exact ⟨fun ⟨_, here, others⟩ => ⟨here, others⟩, fun ⟨here, others⟩ => ⟨(), here, others⟩⟩

theorem Except.forM_eq_error {α : Type} {check : α → Except Fault Unit} {items : List α}
    {fault : Fault} :
    items.forM check = .error fault ↔
      ∃ before item after, items = before ++ item :: after ∧
        (∀ other ∈ before, check other = .ok ()) ∧ check item = .error fault := by
  induction items with
  | nil =>
    refine ⟨fun failed => (by cases failed), ?_⟩
    rintro ⟨before, item, after, split, _⟩
    cases before <;> cases split
  | cons first rest ih =>
    change (check first >>= fun _ => rest.forM check) = .error fault ↔ _
    cases passed : check first with
    | error own =>
      constructor
      · intro failed
        cases failed
        exact ⟨[], first, rest, rfl, fun _ member => (by cases member), passed⟩
      · rintro ⟨before, item, after, split, clear, failed⟩
        cases before with
        | nil =>
          obtain ⟨rfl, _⟩ := List.cons.inj split
          exact passed.symm.trans failed
        | cons other before =>
          obtain ⟨rfl, _⟩ := List.cons.inj split
          have here := clear first List.mem_cons_self
          rw [passed] at here
          cases here
    | ok _ =>
      change rest.forM check = .error fault ↔ _
      rw [ih]
      constructor
      · rintro ⟨before, item, after, rfl, clear, failed⟩
        exact ⟨first :: before, item, after, rfl, List.forall_mem_cons.mpr ⟨passed, clear⟩, failed⟩
      · rintro ⟨before, item, after, split, clear, failed⟩
        cases before with
        | nil =>
          obtain ⟨rfl, _⟩ := List.cons.inj split
          rw [passed] at failed
          cases failed
        | cons other before =>
          obtain ⟨rfl, rfl⟩ := List.cons.inj split
          exact ⟨before, item, after, rfl, (List.forall_mem_cons.mp clear).2, failed⟩

/-- One step after another on a state; the second is not run if the first fails. -/
theorem ExceptT.run_run_bind {σ α β : Type} (act : ExceptT Fault (StateM σ) α)
    (next : α → ExceptT Fault (StateM σ) β) (state : σ) :
    (act >>= next).run.run state =
      match act.run.run state with
      | (.ok value, after) => (next value).run.run after
      | (.error error, after) => (.error error, after) := by
  simp only [ExceptT.run_bind, StateT.run_bind]
  generalize act.run.run state = first
  obtain ⟨error | value, after⟩ := first <;> rfl

namespace StoreM

variable {α β : Type}

/-- What a step yields in a store, and the store that it leaves. -/
def outcome (act : StoreM α) (store : Store) : Except Fault α × Store := act.run.run store

@[simp] theorem outcome_pure (value : α) (store : Store) :
    outcome (pure value) store = (.ok value, store) := rfl

@[simp] theorem outcome_ofExcept (result : Except Fault α) (store : Store) :
    outcome (MonadExcept.ofExcept result) store = (result, store) := by
  cases result <;> rfl

theorem outcome_bind (act : StoreM α) (next : α → StoreM β) (store : Store) :
    outcome (act >>= next) store =
      match outcome act store with
      | (.ok value, after) => outcome (next value) after
      | (.error error, after) => (.error error, after) := by
  rw [outcome, ExceptT.run_run_bind, outcome]
  rcases act.run.run store with ⟨_ | _, _⟩ <;> rfl

theorem outcome_bind_of_ok {act : StoreM α} {next : α → StoreM β} {store after : Store}
    {value : α} (success : outcome act store = (.ok value, after)) :
    outcome (act >>= next) store = outcome (next value) after := by
  rw [outcome_bind, success]

theorem outcome_bind_eq_ok {act : StoreM α} {next : α → StoreM β} {store after : Store}
    {result : β} :
    outcome (act >>= next) store = (.ok result, after) ↔
      ∃ value middle, outcome act store = (.ok value, middle) ∧
        outcome (next value) middle = (.ok result, after) := by
  rw [outcome_bind]
  rcases outcome act store with ⟨error | value, middle⟩
  · simp
  · constructor
    · intro success
      exact ⟨value, middle, rfl, success⟩
    · rintro ⟨other, between, first, second⟩
      cases first
      exact second

@[simp] theorem outcome_ofExcept_bind {result : Except Fault α} {next : α → StoreM β}
    {store : Store} :
    outcome (MonadExcept.ofExcept result >>= next) store =
      match result with
      | .ok value => outcome (next value) store
      | .error error => (.error error, store) := by
  rw [outcome_bind, outcome_ofExcept]
  cases result <;> rfl

end StoreM

open StoreM

namespace Store

theorem storage_withDataset (store : Store) (gateway other : Nat) (name : String)
    (dataset : Dataset) :
    (store.withDataset gateway name dataset).storage other =
      if other = gateway then (store.storage gateway).withDataset name dataset
      else store.storage other := by
  rw [storage, withDataset, SortedMap.get?_insert]
  split <;> rfl

theorem dataset_withDataset (store : Store) (gateway other : Nat) (name label : String)
    (dataset : Dataset) :
    (store.withDataset gateway name dataset).dataset other label =
      if other = gateway ∧ label = name then dataset else store.dataset other label := by
  rw [Store.dataset, storage_withDataset]
  by_cases here : other = gateway
  · subst here
    rw [if_pos rfl, Storage.dataset, Storage.withDataset, SortedMap.get?_insert]
    by_cases same : label = name <;> simp [same, Store.dataset, Storage.dataset]
  · simp [here, Store.dataset]

end Store

def Relation.rows (relation : Relation) (store : Store) : List Tuple :=
  (store.dataset relation.gateway.id relation.name.dataset).rows

theorem Relation.rows_withDataset (relation : Relation) (store : Store) (dataset : Dataset) :
    relation.rows (store.withDataset relation.gateway.id relation.name.dataset dataset) =
      dataset.rows := by
  rw [rows, Store.dataset_withDataset, if_pos ⟨rfl, rfl⟩]

namespace Gateway

/-- A gateway that leaves commands as they are and refuses nothing. -/
structure InMemory (gateway : Gateway) : Prop where
  configures : ∀ template, gateway.configure template = template
  accepts : ∀ operation, gateway.refuse operation = none

theorem inMemory_plain (id : Nat) (adapter : String) : (plain id adapter).InMemory :=
  ⟨fun _ => rfl, fun _ => rfl⟩

theorem outcome_change {α : Type} {gateway : Gateway} {operation : Operation}
    (accepts : gateway.refuse operation = none) (dataset : String)
    (act : Dataset → Except Fault (α × Dataset)) (store : Store) :
    outcome (gateway.change operation dataset act) store =
      match act (store.dataset gateway.id dataset) with
      | .ok (result, changed) => (.ok result, store.withDataset gateway.id dataset changed)
      | .error error => (.error error, store) := by
  rw [change, permit, accepts]
  change outcome (match act (store.dataset gateway.id dataset) with
    | .ok (result, changed) => _
    | .error error => _) store = _
  rcases act (store.dataset gateway.id dataset) with error | ⟨result, changed⟩ <;> rfl

end Gateway

end RelationGraph
