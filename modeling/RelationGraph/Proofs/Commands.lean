import RelationGraph.Proofs.Insertions

set_option autoImplicit false

namespace RelationGraph

open StoreM

namespace ParentKeys

theorem values_eq_ok {parent : Tuple} {pairs : List (String × String)}
    {found : List (String × Json)} :
    values parent pairs = .ok found ↔ (∀ pair ∈ pairs, (parent.get? pair.2).isSome = true) ∧
      found = pairs.map fun pair => (pair.1, parent.read pair.2) := by
  induction pairs generalizing found with
  | nil =>
    rw [values, Except.ok.injEq]
    exact ⟨fun same => ⟨fun _ member => absurd member List.not_mem_nil, same.symm⟩,
      fun same => same.2.symm⟩
  | cons pair rest ih =>
    obtain ⟨child, column⟩ := pair
    rw [values, Except.bind_eq_ok]
    simp only [Except.bind_eq_ok, ih, parentValue, List.forall_mem_cons, List.map_cons]
    cases given : parent.get? column with
    | none => simp
    | some value =>
      rw [Tuple.read_of_get? given]
      constructor
      · rintro ⟨_, ⟨⟩, others, ⟨supplied, rfl⟩, ⟨⟩⟩
        exact ⟨⟨rfl, supplied⟩, rfl⟩
      · rintro ⟨⟨_, supplied⟩, rfl⟩
        exact ⟨value, rfl, _, ⟨supplied, rfl⟩, rfl⟩

theorem values_congr {parent parent' : Tuple} {pairs : List (String × String)}
    (agree : ∀ column ∈ pairs.map (·.2), parent.get? column = parent'.get? column) :
    values parent pairs = values parent' pairs := by
  induction pairs with
  | nil => rfl
  | cons pair rest ih =>
    obtain ⟨child, column⟩ := pair
    obtain ⟨here, others⟩ := List.forall_mem_cons.mp agree
    rw [values, values, ih others, parentValue, parentValue, here]

end ParentKeys

namespace Command

/-- A command without input maps whose rows are in memory. -/
structure Bare (command : Command) : Prop where
  inputs : command.template.inputs = []
  inMemory : command.relation.gateway.InMemory

/-- The child columns that take a value of the parent, each with the parent's column. -/
def parentPairs (command : Command) : List (String × String) :=
  (command.template.parentKeys.map (·.pairs)).getD []

def parentColumns (command : Command) : List String := command.parentPairs.map (·.2)

/-- The tuple with every column that takes a value of the parent overwritten by it. -/
def handed (command : Command) (tuple : Tuple) : Option Tuple → Tuple
  | some parent => tuple.merge (command.parentPairs.map fun pair => (pair.1, parent.read pair.2))
  | none => tuple

/-- The parent has all columns that its children take a value of. -/
def Supplies (command : Command) (parent : Option Tuple) : Prop :=
  ∀ row ∈ parent, ∀ pair ∈ command.parentPairs, (row.get? pair.2).isSome = true

theorem get?_handed {command : Command} (distinct : (command.parentPairs.map (·.1)).Nodup)
    {pair : String × String} (member : pair ∈ command.parentPairs) (tuple parent : Tuple) :
    (command.handed tuple (some parent)).get? pair.1 = some (parent.read pair.2) := by
  let copied := command.parentPairs.map fun pair => (pair.1, parent.read pair.2)
  have names : (copied.map (·.1)).Nodup := by
    rw [List.map_map]
    exact distinct
  have given : (pair.1, parent.read pair.2) ∈ copied := List.mem_map_of_mem member
  exact Entries.get?_insertAll_of_mem names given

theorem mapped_eq {command : Command} (bare : command.Bare) (tuple : Tuple)
    (parent : Option Tuple) : command.mapped tuple parent = .ok tuple := by
  rw [mapped, bare.inputs]
  rfl

theorem prepared_eq_ok {command : Command} (bare : command.Bare) {tuple given : Tuple}
    {parent : Option Tuple} :
    command.prepared tuple parent = .ok given ↔
      command.Supplies parent ∧ given = command.handed tuple parent := by
  unfold prepared
  simp only [mapped_eq bare, Supplies, handed, parentPairs]
  cases command.template.parentKeys with
  | none =>
    change Except.ok tuple = .ok given ↔ _
    cases parent with
    | none => simpa using ⟨Eq.symm, Eq.symm⟩
    | some row => simpa [Tuple.merge, Entries.insertAll] using ⟨Eq.symm, Eq.symm⟩
  | some keys =>
    cases parent with
    | none =>
      change Except.ok tuple = .ok given ↔ _
      simpa using ⟨Eq.symm, Eq.symm⟩
    | some row =>
      simp only [ParentKeys.copyInto, Except.bind_eq_ok, ParentKeys.values_eq_ok]
      constructor
      · rintro ⟨_, ⟨_, ⟨supplied, rfl⟩, ⟨⟩⟩, ⟨⟩⟩
        refine ⟨fun _ same => ?_, rfl⟩
        cases same
        exact supplied
      · rintro ⟨supplied, rfl⟩
        exact ⟨_, ⟨_, ⟨supplied row rfl, rfl⟩, rfl⟩, rfl⟩

/-- What a command prepares depends on the columns of the parent that it takes a value of. -/
theorem prepared_congr {command : Command} (bare : command.Bare) {parent parent' : Tuple}
    (agree : ∀ column ∈ command.parentColumns, parent.get? column = parent'.get? column)
    (tuple : Tuple) :
    command.prepared tuple (some parent) = command.prepared tuple (some parent') := by
  unfold prepared
  unfold parentColumns parentPairs at agree
  simp only [mapped_eq bare]
  cases keyed : command.template.parentKeys with
  | none => rfl
  | some keys =>
    rw [keyed] at agree
    have same : ParentKeys.values parent keys.pairs = ParentKeys.values parent' keys.pairs :=
      ParentKeys.values_congr agree
    simp only [ParentKeys.copyInto, same]

theorem run_congr {command : Command} (creates : command.type = .create) {tuple : Tuple}
    {parent parent' : Option Tuple}
    (same : command.prepared tuple parent = command.prepared tuple parent') :
    command.run tuple parent = command.run tuple parent' := by
  simp only [run, creates, same]

theorem outcome_run_create {command : Command} (bare : command.Bare)
    (creates : command.type = .create) {tuple : Tuple} {parent : Option Tuple}
    {store after : Store} {rows : List Tuple}
    (success : outcome (command.run tuple parent) store = (.ok rows, after)) :
    ∃ row, rows = [row] ∧ command.Supplies parent ∧
      Insertion.Adds ⟨command.relation, command.handed tuple parent, row⟩ store after := by
  simp only [run, creates, outcome_ofExcept_bind] at success
  split at success
  · rename_i given prepared
    obtain ⟨supplied, rfl⟩ := (prepared_eq_ok bare).mp prepared
    obtain ⟨row, _, inserted, success⟩ := outcome_bind_eq_ok.mp success
    cases success
    refine ⟨row, rfl, supplied, ?_⟩
    rw [Gateway.insert, Gateway.outcome_change (bare.inMemory.accepts .insert)] at inserted
    split at inserted
    · rename_i result dataset added
      cases inserted
      exact ⟨dataset, added, rfl⟩
    · cases inserted
  · cases success

/-- The criteria of the rows that a command works on for a parent that has all columns. -/
def selection (command : Command) : Option Tuple → Criteria
  | some parent => command.relation.criteria.merge
      ⟨command.parentPairs.map fun pair => (pair.1, .eq (parent.read pair.2))⟩
  | none => command.relation.criteria

theorem criteria_eq_ok {command : Command} {parent : Option Tuple} {criteria : Criteria} :
    command.criteria parent = .ok criteria ↔
      command.Supplies parent ∧ criteria = command.selection parent := by
  unfold Command.criteria selection Supplies parentPairs
  cases command.template.parentKeys with
  | none =>
    cases parent with
    | none => simpa using ⟨Eq.symm, Eq.symm⟩
    | some row => simpa [Criteria.merge] using ⟨Eq.symm, Eq.symm⟩
  | some keys =>
    cases parent with
    | none => simpa using ⟨Eq.symm, Eq.symm⟩
    | some row =>
      simp only [ParentKeys.criteriaFor, Except.bind_eq_ok, ParentKeys.values_eq_ok]
      constructor
      · rintro ⟨_, ⟨_, ⟨supplied, rfl⟩, ⟨⟩⟩, ⟨⟩⟩
        refine ⟨fun _ same => ?_, ?_⟩
        · cases same
          exact supplied
        · rw [List.map_map]
          rfl
      · rintro ⟨supplied, rfl⟩
        refine ⟨_, ⟨_, ⟨supplied row rfl, rfl⟩, rfl⟩, ?_⟩
        rw [List.map_map]
        rfl

def change (command : Command) (criteria : Criteria) (tuple : Tuple) (dataset : Dataset) :
    List Tuple × Dataset :=
  match command.type with
  | .update => dataset.update criteria tuple
  | _ => dataset.delete criteria

theorem outcome_run_change {command : Command} (bare : command.Bare)
    (changes : command.type ≠ .create) (tuple : Tuple) (parent : Option Tuple) (store : Store) :
    outcome (command.run tuple parent) store =
      match command.criteria parent with
      | .ok criteria =>
        let changed := command.change criteria tuple
          (store.dataset command.relation.gateway.id command.relation.name.dataset)
        (.ok changed.1, store.withDataset command.relation.gateway.id
          command.relation.name.dataset changed.2)
      | .error error => (.error error, store) := by
  unfold run change
  cases typed : command.type with
  | create => exact absurd typed changes
  | update =>
    dsimp only
    rw [outcome_ofExcept_bind]
    cases command.criteria parent with
    | error error => rfl
    | ok criteria =>
      dsimp only
      rw [mapped_eq bare, outcome_ofExcept_bind]
      dsimp only
      rw [Gateway.update, Gateway.outcome_change (bare.inMemory.accepts .update)]
      rfl
  | delete =>
    dsimp only
    rw [outcome_ofExcept_bind]
    cases command.criteria parent with
    | error error => rfl
    | ok criteria =>
      dsimp only
      rw [Gateway.delete, Gateway.outcome_change (bare.inMemory.accepts .delete)]
      rfl

theorem outcome_run_error {command : Command} (bare : command.Bare) {tuple : Tuple}
    {parent : Option Tuple} {store after : Store} {error : Fault}
    (failed : outcome (command.run tuple parent) store = (.error error, after)) :
    after = store := by
  by_cases typed : command.type = .create
  · simp only [run, typed] at failed
    rw [outcome_ofExcept_bind] at failed
    split at failed
    · rw [outcome_bind, Gateway.insert, Gateway.outcome_change (bare.inMemory.accepts .insert)]
        at failed
      split at failed
      · cases failed
      · rename_i unchanged
        split at unchanged
        · cases unchanged
        · cases unchanged
          cases failed
          rfl
    · cases failed
      rfl
  · rw [outcome_run_change bare typed] at failed
    split at failed
    · cases failed
    · cases failed
      rfl

/-- A create only adds rows, behind those that are there. -/
theorem rows_run_create {command : Command} (bare : command.Bare)
    (creates : command.type = .create) (tuple : Tuple) (parent : Option Tuple) (store : Store)
    (gateway : Nat) (name : String) :
    ∃ added, ((outcome (command.run tuple parent) store).2.dataset gateway name).rows =
      (store.dataset gateway name).rows ++ added := by
  rcases ran : outcome (command.run tuple parent) store with ⟨error | rows, after⟩
  · rw [outcome_run_error bare ran]
    exact ⟨[], (List.append_nil _).symm⟩
  · obtain ⟨row, _, _, added⟩ := outcome_run_create bare creates ran
    exact ⟨_, added.rows_eq gateway name⟩

end Command

namespace CommandTree

theorem sizeOf_lt_of_mem_nodes {tree node : CommandTree} (child : node ∈ tree.nodes) :
    sizeOf node < sizeOf tree := by
  have inside := List.sizeOf_lt_of_mem child
  cases tree
  simp only [mk.sizeOf_spec]
  dsimp only at inside
  omega

theorem execute_eq (parent : Option Tuple) (tree : CommandTree) (payload : Json) :
    execute parent tree payload =
      runPayload tree.command (runEntry tree.command tree.nodes parent fun payloads row =>
        executeChildren payloads row tree.nodes) payload := by
  cases tree
  rfl

theorem executeChildren_absent (payloads : List (Option Json)) (row : Tuple)
    (node : CommandTree) (rest : List CommandTree) :
    executeChildren (none :: payloads) row (node :: rest) = executeChildren payloads row rest := by
  cases node
  rfl

theorem executeChildren_present (payload : Json) (payloads : List (Option Json)) (row : Tuple)
    (node : CommandTree) (rest : List CommandTree) :
    executeChildren (some payload :: payloads) row (node :: rest) = (do
      let nested ← execute (some row) node payload
      executeChildren payloads (row.insert node.key nested) rest) := by
  cases node
  rfl

theorem runPayload_array {command : Command} (typed : command.type = .create)
    (act : Json → StoreM (List Tuple)) (items : List Json) :
    runPayload command act (.array items) = (do
      return .array ((← collect act items).map .object)) := by
  simp only [runPayload, typed]

theorem runPayload_entry {command : Command} {payload : Json}
    (single : command.type = .create → ∀ items, payload ≠ .array items)
    (act : Json → StoreM (List Tuple)) :
    runPayload command act payload = (do return command.shape (← act payload)) := by
  unfold runPayload
  split
  · rename_i typed
    exact absurd rfl (single typed _)
  · rfl

/-- An entry of a create is stored in one row, for which the nodes below are run. -/
theorem outcome_runEntry_create {tree : CommandTree} (bare : tree.command.Bare)
    (typed : tree.command.type = .create) {parent : Option Tuple} {entry : Json}
    {rows : List Tuple} {store after : Store}
    (success : outcome (runEntry tree.command tree.nodes parent (fun payloads row =>
      executeChildren payloads row tree.nodes) entry) store = (.ok rows, after)) :
    ∃ columns row result middle, entry.toTuple = .ok columns ∧
      tree.command.Supplies parent ∧
      Insertion.Adds ⟨tree.command.relation,
        tree.command.handed (takePayloads tree.nodes columns).2 parent, row⟩ store middle ∧
      outcome (executeChildren (takePayloads tree.nodes columns).1 row tree.nodes) middle =
        (.ok result, after) ∧
      rows = [result] := by
  simp only [runEntry, outcome_ofExcept_bind] at success
  split at success
  · rename_i columns object
    obtain ⟨stored, middle, ran, success⟩ := outcome_bind_eq_ok.mp success
    obtain ⟨row, rfl, supplied, added⟩ := Command.outcome_run_create bare typed ran
    obtain ⟨single, _, executed, success⟩ := outcome_bind_eq_ok.mp success
    cases success
    obtain ⟨result, _, executed, made⟩ := outcome_bind_eq_ok.mp executed
    cases made
    exact ⟨columns, row, result, middle, object, supplied, added, executed, rfl⟩
  · cases success

theorem call_eq_ok {tree : CommandTree} {input output : Json} {store after : Store}
    (success : outcome (tree.call input) store = (.ok output, after)) :
    ∃ members payload, input.toTuple = .ok members ∧ members.get? tree.key = some payload ∧
      tree.validate payload = .ok () ∧
      outcome (execute none tree payload) store = (.ok output, after) := by
  simp only [call, outcome_ofExcept_bind] at success
  split at success
  · rename_i members object
    split at success
    · cases success
    · rename_i payload found
      rw [outcome_ofExcept_bind] at success
      split at success
      · rename_i valid
        exact ⟨members, payload, object, found, valid, success⟩
      · cases success
  · cases success

/-- A tree of bare commands of one type, in which nodes beside each other have different keys. -/
inductive Regular (type : CommandType) : CommandTree → Prop
  | intro {tree : CommandTree} (typed : tree.command.type = type) (bare : tree.command.Bare)
      (distinct : (tree.nodes.map (·.key)).Nodup)
      (nodes : ∀ node ∈ tree.nodes, Regular type node) : Regular type tree

theorem Regular.typed {type : CommandType} {tree : CommandTree} (regular : tree.Regular type) :
    tree.command.type = type := by
  cases regular
  assumption

theorem Regular.node {type : CommandType} {tree node : CommandTree} (regular : tree.Regular type)
    (child : node ∈ tree.nodes) : node.Regular type := by
  cases regular with
  | intro _ _ _ nodes => exact nodes node child

theorem Regular.bare {type : CommandType} {tree : CommandTree} (regular : tree.Regular type) :
    tree.command.Bare := by
  cases regular
  assumption

theorem takePayloads_eq {nodes : List CommandTree} (distinct : (nodes.map (·.key)).Nodup)
    (entry : Tuple) :
    takePayloads nodes entry =
      (nodes.map fun node => entry.get? node.key, entry.without (nodes.map (·.key))) := by
  induction nodes generalizing entry with
  | nil =>
    rw [takePayloads, List.map_nil, Tuple.without, List.filter_eq_self.mpr (by simp)]
  | cons node rest ih =>
    obtain ⟨fresh, distinct⟩ := List.nodup_cons.mp distinct
    have others : (rest.map fun other => (entry.erase node.key).get? other.key) =
        rest.map fun other => entry.get? other.key := by
      apply List.map_congr_left
      intro other member
      rw [Tuple.get?_erase, if_neg]
      intro same
      exact fresh (List.mem_map.mpr ⟨other, member, same⟩)
    rw [takePayloads, ih distinct, others]
    simp only [List.map_cons, Prod.mk.injEq, true_and, Tuple.without, Tuple.erase,
      Entries.erase_eq_filter, List.filter_filter]
    apply List.filter_congr
    intro column _
    rw [Bool.eq_iff_iff]
    simp [and_comm]

theorem Regular.isNull_output {tree : CommandTree} (regular : tree.Regular .create)
    {parent : Option Tuple} {payload output : Json} {store after : Store}
    (success : outcome (execute parent tree payload) store = (.ok output, after)) :
    output.isNull = false := by
  cases regular with
  | intro typed bare _ _ =>
    rw [execute_eq] at success
    by_cases array : ∃ items, payload = .array items
    · obtain ⟨items, rfl⟩ := array
      rw [runPayload_array typed] at success
      obtain ⟨results, _, _, success⟩ := outcome_bind_eq_ok.mp success
      cases success
      rfl
    · have single : ∀ items, payload ≠ .array items := fun items same => array ⟨items, same⟩
      rw [runPayload_entry fun _ => single] at success
      obtain ⟨rows, _, entered, success⟩ := outcome_bind_eq_ok.mp success
      cases success
      obtain ⟨_, _, result, _, _, _, _, _, rfl⟩ := outcome_runEntry_create bare typed entered
      unfold Command.shape
      split <;> rfl

end CommandTree

end RelationGraph
