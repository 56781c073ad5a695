import RelationGraph.Repository.Keyed
import RelationGraph.Proofs.SingleCommands

set_option autoImplicit false

namespace RelationGraph

open StoreM

namespace Command

variable {command : Command}

theorem outcome_run_alone (bare : command.Bare) (creates : command.type = .create) (tuple : Tuple)
    (store : Store) :
    outcome (command.run tuple none) store =
      match Dataset.insert command.name.dataset command.relation.primaryKey tuple
          (store.dataset command.relation.gateway.id command.name.dataset) with
      | .ok (row, changed) =>
        (.ok [row],
          store.withDataset command.relation.gateway.id command.name.dataset changed)
      | .error fault => (.error fault, store) := by
  have prepared : command.prepared tuple none = .ok tuple :=
    (prepared_eq_ok bare).mpr ⟨fun _ member => (by cases member), rfl⟩
  simp only [run, creates, prepared, outcome_ofExcept_bind]
  rw [Gateway.insert, outcome_bind, Gateway.outcome_change (bare.inMemory.accepts .insert)]
  cases Dataset.insert command.name.dataset command.relation.primaryKey tuple
    (store.dataset command.relation.gateway.id command.name.dataset) <;> rfl

theorem outcome_runItem (bare : command.Bare) (creates : command.type = .create) (item : Json)
    (store : Store) :
    outcome (command.runItem item) store =
      match item.toTuple with
      | .ok tuple =>
        match Dataset.insert command.name.dataset command.relation.primaryKey tuple
            (store.dataset command.relation.gateway.id command.name.dataset) with
        | .ok (row, changed) =>
          (.ok [row],
            store.withDataset command.relation.gateway.id command.name.dataset changed)
        | .error fault => (.error fault, store)
      | .error fault => (.error fault, store) := by
  rw [runItem, outcome_ofExcept_bind]
  cases item.toTuple with
  | error _ => rfl
  | ok tuple => exact outcome_run_alone bare creates tuple store

theorem rows_runItem (bare : command.Bare) (creates : command.type = .create) (item : Json)
    (store : Store) :
    match outcome (command.runItem item) store with
    | (.ok made, after) => ∃ row, made = [row] ∧
      command.relation.rows after = command.relation.rows store ++ [row]
    | (.error _, after) => after = store := by
  rw [outcome_runItem bare creates]
  cases item.toTuple with
  | error _ => rfl
  | ok tuple =>
    dsimp only
    cases inserted : Dataset.insert command.name.dataset command.relation.primaryKey tuple
        (store.dataset command.relation.gateway.id command.name.dataset) with
    | error _ => rfl
    | ok result =>
      refine ⟨result.1, rfl, ?_⟩
      show (Store.dataset _ _ _).rows = _
      rw [Store.dataset_withDataset, if_pos ⟨rfl, rfl⟩, Dataset.rows_insert inserted]
      rfl

theorem store_createAll_of_error (bare : command.Bare) (creates : command.type = .create)
    {item : Json} {store after : Store} {fault : Fault}
    (failed : outcome (command.runItem item) store = (.error fault, after)) (rest : List Json) :
    (outcome (command.createAll none (item :: rest)) store).2 = store := by
  have same := command.rows_runItem bare creates item store
  rw [failed] at same
  obtain rfl : after = store := same
  rw [createAll_cons, outcome_bind, failed]

theorem store_createAll_of_ok {item : Json} {store between : Store} {made : List Tuple}
    (ran : outcome (command.runItem item) store = (.ok made, between)) (rest : List Json) :
    (outcome (command.createAll none (item :: rest)) store).2 =
      (outcome (command.createAll none rest) between).2 := by
  rw [createAll_cons, outcome_bind_of_ok ran, outcome_bind]
  rcases outcome (command.createAll none rest) between with ⟨_ | _, _⟩ <;> rfl

/-- However creating several items ends, the rows that were there are followed by new ones. -/
theorem rows_createAll (bare : command.Bare) (creates : command.type = .create) (items : List Json)
    (store : Store) :
    command.relation.rows store <+:
      command.relation.rows (outcome (command.createAll none items) store).2 := by
  induction items generalizing store with
  | nil => exact List.prefix_refl _
  | cons item rest ih =>
    have first := command.rows_runItem bare creates item store
    rcases ran : outcome (command.runItem item) store with ⟨_ | made, between⟩
    · have kept := store_createAll_of_error bare creates ran rest
      exact ⟨[], by rw [List.append_nil, kept]⟩
    · rw [ran] at first
      obtain ⟨row, _, added⟩ := first
      have later := ih between
      rw [added] at later
      rw [store_createAll_of_ok ran]
      exact (List.prefix_append _ _).trans later

end Command

namespace KeyedRepository

variable {model : KeyedRepository}

/-- The create command of a model is a bare one for single tuples of its relation. -/
structure CreatesAlone (model : KeyedRepository) : Prop where
  creates : model.createCommand.type = .create
  bare : model.createCommand.Bare
  single : model.createCommand.template.result = .one
  relation : model.createCommand.relation = model.relation
  outputs : model.createCommand.outputs = []

/-- A model over a gateway in memory has such a command. -/
theorem createsAlone_of_ofCompiler {id : Nat} {compiler : Compiler} {name : String}
    {start opened : Store}
    (success : outcome (ofCompiler id compiler name) start = (.ok model, opened))
    (memory : model.relation.gateway.InMemory) : model.CreatesAlone := by
  obtain ⟨repository, _, _, success⟩ := outcome_bind_eq_ok.mp success
  obtain ⟨tree, _, _, success⟩ := outcome_bind_eq_ok.mp success
  obtain ⟨creates, _, made, success⟩ := outcome_bind_eq_ok.mp success
  obtain ⟨updates, _, _, success⟩ := outcome_bind_eq_ok.mp success
  obtain ⟨deletes, _, _, success⟩ := outcome_bind_eq_ok.mp success
  cases success
  have bound : creates = .bind ((tree.relation.gateway.configure (.fresh tree.relation.name .create
      tree.relation.adapter compiler.catalog.plugins)).withResult .one) tree.relation := by
    cases made
    rfl
  rw [memory.configures] at bound
  subst bound
  exact ⟨rfl, ⟨rfl, memory⟩, rfl, rfl, rfl⟩

/-- The create of an array writes its first entry. -/
def Begins (model : KeyedRepository) (attributes : Json) (store : Store) : Prop :=
  ∃ first rest row, attributes = .array (first :: rest) ∧
    (outcome (model.create first) store).1 = .ok row

/-- The rows of an entry that is created are its row. -/
theorem outcome_create_entry (alone : model.CreatesAlone) {attributes : Json}
    (single : ∀ items, attributes ≠ .array items) (store : Store) :
    outcome (model.create attributes) store =
      match attributes.toTuple with
      | .ok tuple =>
        match Dataset.insert model.relation.name.dataset model.relation.primaryKey tuple
            (store.dataset model.relation.gateway.id model.relation.name.dataset) with
        | .ok (row, changed) =>
          (.ok row,
            store.withDataset model.relation.gateway.id model.relation.name.dataset changed)
        | .error fault => (.error fault, store)
      | .error fault => (.error fault, store) := by
  have takes : model.createCommand.type ≠ .delete := by
    rw [alone.creates]
    decide
  have called : model.createCommand.call attributes = do
      return model.createCommand.shape (← model.createCommand.runItem attributes) := by
    rw [Command.call, Command.execute_entry takes fun _ => single, alone.outputs]
    simp only [bind_assoc, pure_bind]
    rfl
  have shaped (row : Tuple) : model.createCommand.shape [row] = .object row := by
    rw [Command.shape, alone.single]
    rfl
  rw [create, called, Command.runItem, outcome_bind, outcome_bind, outcome_ofExcept_bind]
  cases attributes.toTuple with
  | error _ => rfl
  | ok tuple =>
    dsimp only
    rw [Command.outcome_run_alone alone.bare alone.creates, Command.name, alone.relation]
    cases Dataset.insert model.relation.name.dataset model.relation.primaryKey tuple
        (store.dataset model.relation.gateway.id model.relation.name.dataset) with
    | error _ => rfl
    | ok result =>
      dsimp only
      rw [outcome_pure, shaped]
      rfl

theorem outcome_create_array (alone : model.CreatesAlone) (items : List Json) (store : Store) :
    ∃ fault, outcome (model.create (.array items)) store =
      (.error fault, (outcome (model.createCommand.createAll none items) store).2) := by
  have called : model.createCommand.call (.array items) = do
      return .array (← model.createCommand.createAll none items) := by
    have executed : model.createCommand.execute (.array items) none = do
        return .array (← model.createCommand.createAll none items) := by
      simp only [Command.execute, alone.creates]
    rw [Command.call, executed, alone.outputs]
    simp only [bind_assoc, pure_bind]
    rfl
  rw [create, called, outcome_bind, outcome_bind]
  rcases outcome (model.createCommand.createAll none items) store with ⟨fault | made, after⟩
  · exact ⟨fault, rfl⟩
  · exact ⟨_, rfl⟩

theorem not_begins_of_single {attributes : Json} (single : ∀ items, attributes ≠ .array items)
    (store : Store) : ¬model.Begins attributes store := by
  rintro ⟨first, rest, _, array, _⟩
  exact single _ array

/-- A model creates an entry exactly if its command runs for it. -/
theorem create_eq_ok_iff (alone : model.CreatesAlone) {item : Json} {row : Tuple} {store : Store} :
    (outcome (model.create item) store).1 = .ok row ↔
      (outcome (model.createCommand.runItem item) store).1 = .ok [row] := by
  by_cases array : ∃ items, item = .array items
  · obtain ⟨items, rfl⟩ := array
    obtain ⟨fault, ran⟩ := outcome_create_array alone items store
    have refused : (outcome (model.createCommand.runItem (.array items)) store).1 =
        .error (.invalidInput (.notAnObject (.array items))) := rfl
    rw [ran, refused]
    exact ⟨fun same => (by cases same), fun same => (by cases same)⟩
  · rw [outcome_create_entry alone fun items same => array ⟨items, same⟩,
      Command.outcome_runItem alone.bare alone.creates, Command.name, alone.relation]
    cases item.toTuple with
    | error _ => exact ⟨fun same => (by cases same), fun same => (by cases same)⟩
    | ok tuple =>
      dsimp only
      cases Dataset.insert model.relation.name.dataset model.relation.primaryKey tuple
          (store.dataset model.relation.gateway.id model.relation.name.dataset) with
      | error _ => exact ⟨fun same => (by cases same), fun same => (by cases same)⟩
      | ok _ => simp

/-- An array leaves more rows if its first entry is written, and otherwise the store as it was. -/
theorem create_array_cases (alone : model.CreatesAlone) (items : List Json) (store : Store) :
    let after := (outcome (model.create (.array items)) store).2
    (¬model.Begins (.array items) store ∧ after = store) ∨
      (model.Begins (.array items) store ∧ model.relation.rows after ≠ model.relation.rows store)
    := by
  intro after
  obtain ⟨fault, ran⟩ := outcome_create_array alone items store
  have left : after = (outcome (model.createCommand.createAll none items) store).2 := by
    rw [show after = _ from congrArg Prod.snd ran]
  cases items with
  | nil =>
    refine Or.inl ⟨?_, left⟩
    rintro ⟨_, _, _, impossible, _⟩
    cases impossible
  | cons first rest =>
    have begins_iff : model.Begins (.array (first :: rest)) store ↔
        ∃ row, (outcome (model.createCommand.runItem first) store).1 = .ok [row] := by
      simp only [← create_eq_ok_iff alone, Begins]
      constructor
      · rintro ⟨_, _, row, same, created⟩
        cases same
        exact ⟨row, created⟩
      · rintro ⟨row, created⟩
        exact ⟨first, rest, row, rfl, created⟩
    have started := Command.rows_runItem alone.bare alone.creates first store
    rw [left, begins_iff]
    rcases ran : outcome (model.createCommand.runItem first) store with ⟨_ | made, between⟩
    · refine Or.inl ⟨?_, Command.store_createAll_of_error alone.bare alone.creates ran rest⟩
      rintro ⟨row, impossible⟩
      cases impossible
    · rw [ran] at started
      obtain ⟨row, rfl, added⟩ := started
      refine Or.inr ⟨⟨row, rfl⟩, fun same => ?_⟩
      have grown := Command.rows_createAll alone.bare alone.creates rest between
      rw [Command.store_createAll_of_ok ran, ← alone.relation] at same
      rw [added, same] at grown
      have length := grown.length_le
      rw [List.length_append, List.length_singleton] at length
      omega

theorem rows_of_create (alone : model.CreatesAlone) {attributes : Json} {store after : Store}
    {row : Tuple} (success : outcome (model.create attributes) store = (.ok row, after)) :
    model.relation.rows after = model.relation.rows store ++ [row] ∧
      ∀ gateway dataset,
        ¬(gateway = model.relation.gateway.id ∧ dataset = model.relation.name.dataset) →
          after.dataset gateway dataset = store.dataset gateway dataset := by
  by_cases array : ∃ items, attributes = .array items
  · obtain ⟨items, rfl⟩ := array
    obtain ⟨_, ran⟩ := outcome_create_array alone items store
    rw [ran] at success
    cases success
  · rw [outcome_create_entry alone fun items same => array ⟨items, same⟩] at success
    split at success
    · split at success
      · rename_i inserted
        cases success
        refine ⟨?_, fun _ _ other => by rw [Store.dataset_withDataset, if_neg other]⟩
        rw [Relation.rows_withDataset, Dataset.rows_insert inserted]
        rfl
      · cases success
    · cases success

/-- Where creating fails, it has begun to write an array or it leaves the store. -/
theorem store_of_create_error (alone : model.CreatesAlone) {attributes : Json}
    {store after : Store} {fault : Fault}
    (failed : outcome (model.create attributes) store = (.error fault, after)) :
    (¬model.Begins attributes store ∧ after = store) ∨
      (model.Begins attributes store ∧
        model.relation.rows after ≠ model.relation.rows store) := by
  obtain rfl : (outcome (model.create attributes) store).2 = after := congrArg Prod.snd failed
  by_cases array : ∃ items, attributes = .array items
  · obtain ⟨items, rfl⟩ := array
    exact create_array_cases alone items store
  · have single : ∀ items, attributes ≠ .array items := fun items same => array ⟨items, same⟩
    refine Or.inl ⟨not_begins_of_single single store, ?_⟩
    rw [outcome_create_entry alone single] at failed ⊢
    split at failed
    · split at failed
      · cases failed
      · rfl
    · rfl

/-- An entry is inserted and answered as stored, or nothing changes. Creating succeeds only so: then
the dataset has one more row, and no other dataset changes. An array is never answered. Where
creating fails, it leaves the store, and the rows, as they were exactly if it was given no array of
which the first entry can be created. -/
theorem create_keeps_iff {id : Nat} {compiler : Compiler} {name : String} {start opened : Store}
    (success : outcome (ofCompiler id compiler name) start = (.ok model, opened))
    (memory : model.relation.gateway.InMemory) (attributes : Json) (store : Store) :
    (∀ tuple, attributes.toTuple = .ok tuple →
      outcome (model.create attributes) store =
        match Dataset.insert model.relation.name.dataset model.relation.primaryKey tuple
            (store.dataset model.relation.gateway.id model.relation.name.dataset) with
        | .ok (row, changed) =>
          (.ok row,
            store.withDataset model.relation.gateway.id model.relation.name.dataset changed)
        | .error fault => (.error fault, store)) ∧
    (∀ row after, outcome (model.create attributes) store = (.ok row, after) →
      model.relation.rows after = model.relation.rows store ++ [row] ∧
        ∀ gateway dataset,
          ¬(gateway = model.relation.gateway.id ∧ dataset = model.relation.name.dataset) →
            after.dataset gateway dataset = store.dataset gateway dataset) ∧
    (∀ fault after, outcome (model.create attributes) store = (.error fault, after) →
      (after = store ↔ ¬model.Begins attributes store) ∧
        (model.relation.rows after = model.relation.rows store ↔
          ¬model.Begins attributes store)) ∧
    ∀ items, ∃ fault, (outcome (model.create (.array items)) store).1 = .error fault := by
  have alone := createsAlone_of_ofCompiler success memory
  refine ⟨fun tuple object => ?_, fun row after => rows_of_create alone,
    fun fault after failed => ?_, fun items => ?_⟩
  · have single : ∀ items, attributes ≠ .array items := by
      rintro items rfl
      cases object
    rw [outcome_create_entry alone single, object]
  · rcases store_of_create_error alone failed with ⟨spared, rfl⟩ | ⟨begins, changed⟩
    · exact ⟨iff_of_true rfl spared, iff_of_true rfl spared⟩
    · exact ⟨iff_of_false (fun same => changed (congrArg _ same)) (not_not_intro begins),
        iff_of_false changed (not_not_intro begins)⟩
  · obtain ⟨fault, ran⟩ := outcome_create_array alone items store
    exact ⟨fault, congrArg Prod.fst ran⟩

end KeyedRepository

/-- A user who is created, and is then refused, by itself and as the first of an array. -/
theorem KeyedRepository.create_keeps_iff_users :
    ∃ model opened, outcome (ofCompiler 0 ⟨Sample.catalog, 0⟩ "users") ∅ = (.ok model, opened) ∧
      model.relation.gateway.InMemory ∧
      let user : Json := .object [("id", .ofNat 1)]
      let stored := (outcome (model.create user) opened).2
      (outcome (model.create user) opened).1 = .ok [("id", .ofNat 1)] ∧
        (outcome (model.create user) stored).2 = stored ∧
        ((outcome (model.create (.array [user])) stored).2 = stored ↔
          ¬model.Begins (.array [user]) stored) := by
  have opens : outcome (ofCompiler 0 ⟨Sample.catalog, 0⟩ "users") ∅ = (.ok _, _) := rfl
  refine ⟨_, _, opens, Gateway.inMemory_plain 0 "memory", ?_⟩
  intro user stored
  obtain ⟨_, _, fails, _⟩ := create_keeps_iff opens (Gateway.inMemory_plain 0 "memory")
    (.array [user]) stored
  exact ⟨rfl, rfl, (fails _ _ rfl).1⟩

namespace Sample

/-- An array of one user is refused, and the user is there. -/
theorem not_create_keeps_array :
    ∃ model opened, outcome (KeyedRepository.ofCompiler 0 ⟨catalog, 0⟩ "users") ∅ =
        (.ok model, opened) ∧
      let user : Tuple := [("id", .ofNat 1), ("name", .string "Ann")]
      let created := outcome (model.create (.array [.object user])) opened
      created.1 = .error (.invalidInput (.notASingleTuple (.array [.object user]))) ∧
        model.relation.rows opened = [] ∧ model.relation.rows created.2 = [user] :=
  ⟨_, _, rfl, rfl, rfl, rfl⟩

end Sample

end RelationGraph
