import Mathlib.Order.Nat
import RelationGraph.Proofs.NestedLinks
import RelationGraph.Proofs.PayloadShapes
import RelationGraph.Proofs.RowFates

set_option autoImplicit false

namespace RelationGraph

open StoreM

/-! ### How commands fail -/

theorem ParentKeys.values_eq_error {parent : Tuple} {pairs : List (String × String)}
    {fault : Fault} (failed : values parent pairs = .error fault) :
    ∃ pair ∈ pairs, parent.get? pair.2 = none ∧
      fault = .invalidInput (.missingParentColumn pair.2) := by
  induction pairs with
  | nil => cases failed
  | cons pair rest ih =>
    obtain ⟨child, column⟩ := pair
    rw [values, parentValue] at failed
    cases given : parent.get? column with
    | none =>
      rw [given] at failed
      cases failed
      exact ⟨_, List.mem_cons_self, given, rfl⟩
    | some value =>
      rw [given] at failed
      cases others : values parent rest with
      | error error =>
        have same : error = fault := by
          rw [others] at failed
          exact Except.error.inj failed
        obtain ⟨pair, member, rest⟩ := ih (same ▸ others)
        exact ⟨pair, List.mem_cons_of_mem _ member, rest⟩
      | ok found =>
        rw [others] at failed
        cases failed

/-- What a gateway refuses, it refuses in its own words, unless the change itself fails. -/
theorem Gateway.gateway_of_change {α : Type} {gateway : Gateway} {operation : Operation}
    {dataset : String} {act : Dataset → Except Fault (α × Dataset)}
    (own : ∀ rows fault, act rows = .error fault → ∃ cause, fault = .gateway cause)
    {store after : Store} {fault : Fault}
    (failed : outcome (gateway.change operation dataset act) store = (.error fault, after)) :
    ∃ cause, fault = .gateway cause := by
  rw [outcome_change_eq, permit] at failed
  split at failed
  · rename_i refused
    split at refused
    · cases refused
      cases failed
      exact ⟨_, rfl⟩
    · cases refused
  · split at failed
    · cases failed
    · rename_i error changed
      cases failed
      exact own _ _ changed

theorem Dataset.gateway_of_insert {name : String} {primaryKey : Option String} {tuple : Tuple}
    (dataset : Dataset) (fault : Fault)
    (failed : insert name primaryKey tuple dataset = .error fault) :
    ∃ cause, fault = .gateway cause := by
  unfold insert at failed
  split at failed
  · cases failed
  · split at failed
    · cases failed
    · split at failed
      · cases failed
        exact ⟨_, rfl⟩
      · cases failed

namespace Command

variable {command : Command} {tuple : Tuple} {parent : Option Tuple}

/-- The parent lacks a column that its children take a value of. -/
def Lacks (command : Command) (parent : Option Tuple) (column : String) : Prop :=
  column ∈ command.parentColumns ∧ ∃ row, parent = some row ∧ row.get? column = none

/-- A bare command is stopped for nothing but what the keys of its parent are missing. -/
theorem values_of_operation (bare : command.Bare) {fault : Fault}
    (stopped : command.operation tuple parent = .error fault) :
    ∃ keys row, command.template.parentKeys = some keys ∧ parent = some row ∧
      ParentKeys.values row keys.pairs = .error fault := by
  unfold operation prepared Command.criteria at stopped
  simp only [mapped_eq bare] at stopped
  cases keyed : command.template.parentKeys with
  | none => cases typed : command.type <;> rw [typed, keyed] at stopped <;> cases stopped
  | some keys =>
    cases parent with
    | none => cases typed : command.type <;> rw [typed, keyed] at stopped <;> cases stopped
    | some row =>
      refine ⟨keys, row, rfl, rfl, ?_⟩
      simp only [keyed, ParentKeys.copyInto, ParentKeys.criteriaFor] at stopped
      cases found : ParentKeys.values row keys.pairs <;> cases typed : command.type <;>
        rw [found, typed] at stopped <;> cases stopped <;> rfl

/-- A bare command is stopped for nothing but a column that its parent lacks. -/
theorem lacks_of_operation (bare : command.Bare) {fault : Fault}
    (stopped : command.operation tuple parent = .error fault) :
    ∃ column, command.Lacks parent column ∧
      fault = .invalidInput (.missingParentColumn column) := by
  obtain ⟨keys, row, keyed, rfl, failed⟩ := values_of_operation bare stopped
  obtain ⟨pair, member, absent, rfl⟩ := ParentKeys.values_eq_error failed
  refine ⟨pair.2, ⟨?_, row, rfl, absent⟩, rfl⟩
  rw [parentColumns, parentPairs, keyed]
  exact List.mem_map_of_mem member

/-- A command that gets to its gateway fails for nothing that is wrong with its input. -/
theorem gateway_of_operation {act : StoreM (List Tuple)}
    (called : command.operation tuple parent = .ok act) {store after : Store} {fault : Fault}
    (failed : outcome act store = (.error fault, after)) : ∃ cause, fault = .gateway cause := by
  unfold operation at called
  cases typed : command.type with
  | create =>
    rw [typed] at called
    obtain ⟨given, _, made⟩ := Except.bind_eq_ok.mp called
    cases made
    rw [outcome_bind] at failed
    split at failed
    · cases failed
    · rename_i inserted
      cases failed
      exact Gateway.gateway_of_change Dataset.gateway_of_insert inserted
  | update =>
    rw [typed] at called
    obtain ⟨criteria, _, called⟩ := Except.bind_eq_ok.mp called
    obtain ⟨changes, _, made⟩ := Except.bind_eq_ok.mp called
    cases made
    exact Gateway.gateway_of_change (fun _ _ same => (by cases same)) failed
  | delete =>
    rw [typed] at called
    obtain ⟨criteria, _, made⟩ := Except.bind_eq_ok.mp called
    cases made
    exact Gateway.gateway_of_change (fun _ _ same => (by cases same)) failed

/-- A bare command that refuses its input changes nothing, and its parent lacks a column. -/
theorem lacks_of_invalidInput (bare : command.Bare) {store after : Store} {fault : InputFault}
    (failed : outcome (command.run tuple parent) store = (.error (.invalidInput fault), after)) :
    after = store ∧
      ∃ column, command.Lacks parent column ∧ fault = .missingParentColumn column := by
  rw [outcome_run_eq] at failed
  split at failed
  · rename_i act called
    obtain ⟨_, same⟩ := gateway_of_operation called failed
    cases same
  · rename_i error stopped
    cases failed
    obtain ⟨column, lacks, same⟩ := lacks_of_operation bare stopped
    cases same
    exact ⟨rfl, column, lacks, rfl⟩

/-! ### How many rows there are -/

theorem length_rows_create (bare : command.Bare) (creates : command.type = .create)
    {store after : Store} {rows : List Tuple}
    (success : outcome (command.run tuple parent) store = (.ok rows, after)) :
    (command.relation.rows store).length < (command.relation.rows after).length := by
  obtain ⟨row, _, _, added⟩ := outcome_run_create bare creates success
  rw [Relation.rows, Relation.rows, added.rows_eq]
  simp [Insertion.isIn]

theorem length_rows_delete_le (bare : command.Bare) (deletes : command.type = .delete)
    (store : Store) (gateway : Nat) (name : String) :
    ((outcome (command.run tuple parent) store).2.dataset gateway name).rows.length ≤
      (store.dataset gateway name).rows.length := by
  rw [outcome_run_change bare (by rw [deletes]; decide)]
  split
  · rw [Store.dataset_withDataset]
    split
    · rename_i here
      obtain ⟨rfl, rfl⟩ := here
      rw [change, deletes]
      exact List.length_filter_le _ _
    · exact Nat.le_refl _
  · exact Nat.le_refl _

theorem length_rows_delete_lt (bare : command.Bare) (deletes : command.type = .delete)
    {store after : Store} {rows : List Tuple} {row : Tuple}
    (success : outcome (command.run tuple parent) store = (.ok rows, after))
    (member : row ∈ rows) :
    (command.relation.rows after).length < (command.relation.rows store).length := by
  rw [outcome_run_change bare (by rw [deletes]; decide)] at success
  split at success
  · rename_i criteria _
    simp only [change, deletes] at success
    cases success
    obtain ⟨inside, met⟩ := List.mem_filter.mp member
    rw [Relation.rows_withDataset]
    exact List.length_filter_lt_length_iff_exists.mpr ⟨row, inside, by simp [met]⟩
  · cases success

end Command

namespace Leads

variable {store after : Store} {steps : List Step}

theorem of_append {first second : List Step} (leads : Leads store (first ++ second) after) :
    ∃ between, Leads store first between ∧ Leads between second after := by
  induction first generalizing store with
  | nil => exact ⟨store, .nil, leads⟩
  | cons step rest ih =>
    cases leads with
    | cons later =>
      obtain ⟨between, earlier, later⟩ := ih later
      exact ⟨between, .cons earlier, later⟩

section Size

variable {α : Type} [Preorder α] (size : Store → α)

theorem size_le (leads : Leads store steps after)
    (each : ∀ step ∈ steps, size step.store ≤ size step.outcome.2) : size store ≤ size after := by
  induction leads with
  | nil => exact le_rfl
  | cons _ ih =>
    obtain ⟨here, others⟩ := List.forall_mem_cons.mp each
    exact here.trans (ih others)

theorem size_lt (leads : Leads store steps after)
    (each : ∀ step ∈ steps, size step.store ≤ size step.outcome.2) {step : Step}
    (member : step ∈ steps) (grows : size step.store < size step.outcome.2) :
    size store < size after := by
  induction leads with
  | nil => cases member
  | cons later ih =>
    obtain ⟨here, others⟩ := List.forall_mem_cons.mp each
    rcases List.mem_cons.mp member with rfl | among
    · exact grows.trans_le (later.size_le size others)
    · exact here.trans_lt (ih others among)

end Size

/-- Creates, and likewise deletes, of which one yields a row change the number of the rows in a
dataset. -/
theorem exists_dataset_ne (leads : Leads store steps after) {type : CommandType}
    (counts : type ≠ .update) (regular : ∀ step ∈ steps, step.node.Regular type) {step : Step}
    (member : step ∈ steps) {rows : List Tuple} {left : Store} {row : Tuple}
    (success : step.outcome = (.ok rows, left)) (inside : row ∈ rows) :
    step.node.command.relation.rows after ≠ step.node.command.relation.rows store := by
  let count (store : Store) : Nat := (step.node.command.relation.rows store).length
  have own := regular step member
  intro same
  cases type with
  | update => exact counts rfl
  | create =>
    have grows : count step.store < count step.outcome.2 := by
      rw [success]
      exact Command.length_rows_create own.bare own.typed success
    have each : ∀ step ∈ steps, count step.store ≤ count step.outcome.2 := by
      intro other given
      obtain ⟨added, grown⟩ := Command.rows_run_create (regular other given).bare
        (regular other given).typed other.tuple (other.parent.map (·.seen)) other.store
        step.node.command.relation.gateway.id step.node.command.relation.name.dataset
      change _ ≤ List.length (Dataset.rows _)
      rw [Step.outcome, grown, List.length_append]
      exact Nat.le_add_right _ _
    exact (leads.size_lt count each member grows).ne (congrArg List.length same.symm)
  | delete =>
    have shrinks : count step.outcome.2 < count step.store := by
      rw [success]
      exact Command.length_rows_delete_lt own.bare own.typed success inside
    have each : ∀ step ∈ steps, count step.outcome.2 ≤ count step.store :=
      fun other given => Command.length_rows_delete_le (regular other given).bare
        (regular other given).typed other.store _ _
    have fewer := leads.size_lt (fun store => OrderDual.toDual (count store)) each member shrinks
    exact (OrderDual.toDual_lt_toDual.mp fewer).ne (congrArg List.length same)

end Leads

/-- A call is refused at once for the shape of its input, or else its steps account for how it ends.
-/
theorem CommandTree.refused_or_accounts (tree : CommandTree) (input : Json) (store : Store) :
    (∃ fault, outcome (tree.call input) store = (.error (.invalidInput fault), store) ∧
        ∀ column, fault ≠ .missingParentColumn column) ∨
      Accounts (tree.callSteps input store) (outcome (tree.call input) store) := by
  cases input with
  | object members =>
    cases given : Tuple.get? members tree.key with
    | none =>
      refine Or.inl ⟨.missingKey tree.key, ?_, fun _ same => (by cases same)⟩
      simp only [call, Json.toTuple, outcome_ofExcept_bind, given]
      rfl
    | some payload =>
      cases valid : tree.validate payload with
      | ok _ => exact Or.inr (((validate_eq_ok tree payload).mp valid).accounts_call given store)
      | error fault =>
        obtain ⟨key, value, rfl⟩ := exists_of_validate_eq_error valid
        refine Or.inl ⟨.notAnEntry key value, ?_, fun _ same => (by cases same)⟩
        rw [outcome_call_of_given given, valid]
  | _ => exact Or.inl ⟨_, rfl, fun _ same => (by cases same)⟩

namespace Sample

/-- Tasks with the user whom they belong to. -/
def owned : RelationTree :=
  tree "tasks" [(tree "users" []).combined "user" (.ofList [("user_id", "id")]) .one]

theorem built_owned : owned.Built catalog :=
  (built_leaf "tasks" rfl).combineTree (built_leaf "users" rfl) .one "user"
    (.ofList [("user_id", "id")]) rfl

def ownerless : Json := .object [("tasks", .object [("title", .string "Sweep"),
  ("user", .object [("name", .string "Ann")])])]

end Sample

namespace CompileRequest

variable {request : CompileRequest}

/-- A nested write that is refused for its input, but not at once, is refused at its last step, for
a row in which a column is missing that the keys of the relation refer to. -/
theorem exists_lacking (plain : request.Plain) {tree : RelationTree}
    (built : tree.Built request.catalog) {input : Json} {store after : Store} {fault : InputFault}
    (accounts : Accounts ((request.writer 0 tree).callSteps input store)
      ((.error (.invalidInput fault), after) : Except Fault Json × Store))
    (leads : Leads store ((request.writer 0 tree).callSteps input store) after) :
    ∃ column done last row above,
      fault = .missingParentColumn column ∧
      (request.writer 0 tree).callSteps input store = done ++ [last] ∧
      Leads store done after ∧ (∀ step ∈ done, step.Succeeds) ∧
      last.parent = some row ∧ row.returned.get? column = none ∧
      (∃ node ∈ tree.descendants, last.node = request.writer 1 node ∧
        column ∈ node.link.parentColumns) ∧
      above ∈ done ∧ above.Below last row := by
  have regular := writer_regular plain (built.sound plain.setup) 0
  obtain ⟨done, last, split, succeeded, failed⟩ := accounts
  have member : last ∈ (request.writer 0 tree).callSteps input store :=
    split ▸ List.mem_append_right _ List.mem_cons_self
  have own := (CommandTree.reached_callSteps member).regular regular
  obtain ⟨unchanged, column, ⟨taken, seen, given, absent⟩, same⟩ :=
    Command.lacks_of_invalidInput own.bare failed
  obtain ⟨row, parent, rfl⟩ := Option.map_eq_some_iff.mp given
  obtain ⟨⟨node, inside, made⟩, above, among, below⟩ := below_of_mem_callSteps member parent
  have lacking : row.returned.get? column = none := by
    rcases below.overlaid column with covered | ⟨_, _, _, value, _, covered⟩
    · exact covered.symm.trans absent
    · cases absent.symm.trans covered
  have earlier : above ∈ done := by
    rw [split] at among
    rcases List.mem_append.mp among with before | here
    · exact before
    · obtain ⟨rows, left, returned, _⟩ := below.returned
      rw [List.mem_singleton.mp here, failed] at returned
      cases returned
  obtain ⟨between, first, final⟩ := (split ▸ leads : Leads store (done ++ [last]) after).of_append
  have start : between = after := by
    cases final with
    | cons _ => exact unchanged.symm
  refine ⟨column, done, last, row, above, same, split, start ▸ first, succeeded, parent, lacking,
    ⟨node, inside, made, ?_⟩, earlier, below⟩
  rw [made, command_writer] at taken
  exact mem_parentColumns_commandFor taken

/-- A nested write that is refused for its input has changed nothing, unless the refusal is that a
row lacks a column that the keys of a relation below refer to. Then what was written before stays:
at least the row itself, whose write returned it without the column, so that a create or a delete
has certainly changed its dataset. -/
theorem call_unchanged_iff (plain : request.Plain) {tree : RelationTree}
    (built : tree.Built request.catalog) {before ready : Store} {command : NestedCommand}
    (compiled : outcome (request.run tree.toPlan) before = (.ok (.nested command), ready))
    {input : Json} {store after : Store} {fault : InputFault}
    (refused : outcome (command.tree.call input) store = (.error (.invalidInput fault), after)) :
    ((∀ column, fault ≠ .missingParentColumn column) → after = store) ∧
      (∀ column, fault = .missingParentColumn column → ∃ done last row above,
        command.tree.callSteps input store = done ++ [last] ∧
        Leads store done after ∧ (∀ step ∈ done, step.Succeeds) ∧
        last.parent = some row ∧ row.returned.get? column = none ∧
        (∃ node ∈ tree.descendants, last.node = request.writer 1 node ∧
          column ∈ node.link.parentColumns) ∧
        above ∈ done ∧ above.Below last row) ∧
      (request.type ≠ .update →
        ((∀ gateway name, after.dataset gateway name = store.dataset gateway name) ↔
          ∀ column, fault ≠ .missingParentColumn column)) := by
  have regular := writer_regular plain (built.sound plain.setup) 0
  rw [tree_of_run plain built compiled] at refused ⊢
  have leads := (request.writer 0 tree).leads_callSteps input store
  rcases (request.writer 0 tree).refused_or_accounts input store with
    ⟨cause, atOnce, shape⟩ | accounts
  · cases refused.symm.trans atOnce
    exact ⟨fun _ => rfl, fun column same => absurd same (shape column),
      fun _ => ⟨fun _ => shape, fun _ _ _ => rfl⟩⟩
  · rw [refused] at accounts leads
    obtain ⟨column, done, last, row, above, rfl, split, first, succeeded, parent, lacking, place,
      earlier, below⟩ := exists_lacking plain built accounts leads
    refine ⟨fun other => absurd rfl (other column), ?_, fun counts => ⟨fun same => ?_, ?_⟩⟩
    · rintro _ ⟨⟩
      exact ⟨done, last, row, above, split, first, succeeded, parent, lacking, place, earlier,
        below⟩
    · have regularAt : ∀ step ∈ done, step.node.Regular request.type := fun step member =>
        (CommandTree.reached_callSteps (split ▸ List.mem_append_left _ member)).regular regular
      obtain ⟨rows, left, returned, inside⟩ := below.returned
      exact absurd (congrArg Dataset.rows (same _ _))
        (first.exists_dataset_ne counts regularAt earlier returned inside)
    · exact fun other => absurd rfl (other column)

/-- A task that is stored before the user is refused. -/
theorem call_unchanged_iff_owned :
    let graph := (Sample.request .create).writer 0 Sample.owned
    let after := (outcome (graph.call Sample.ownerless) ∅).2
    outcome (graph.call Sample.ownerless) ∅ =
        (.error (.invalidInput (.missingParentColumn "user_id")), after) ∧
      ((∀ column, InputFault.missingParentColumn "user_id" ≠ .missingParentColumn column) →
        after = ∅) ∧
      (∀ column, InputFault.missingParentColumn "user_id" = .missingParentColumn column →
        ∃ done last row above,
          graph.callSteps Sample.ownerless ∅ = done ++ [last] ∧
          Leads ∅ done after ∧ (∀ step ∈ done, step.Succeeds) ∧
          last.parent = some row ∧ row.returned.get? column = none ∧
          (∃ node ∈ Sample.owned.descendants,
            last.node = (Sample.request .create).writer 1 node ∧
            column ∈ node.link.parentColumns) ∧
          above ∈ done ∧ above.Below last row) ∧
      (CommandType.create ≠ .update →
        ((∀ gateway name, after.dataset gateway name = Store.dataset ∅ gateway name) ↔
          ∀ column, InputFault.missingParentColumn "user_id" ≠ .missingParentColumn column)) := by
  intro graph after
  have compiled : outcome ((Sample.request .create).run Sample.owned.toPlan) ∅ =
      (.ok (.nested (.ofTree graph)),
        (outcome ((Sample.request .create).run Sample.owned.toPlan) ∅).2) := rfl
  exact ⟨rfl, call_unchanged_iff (Sample.plain .create) Sample.built_owned compiled rfl⟩

end CompileRequest

namespace Sample

/-- The input is refused for the user, and the task is stored. -/
theorem not_unchanged_ownerless :
    let result := outcome (((request .create).writer 0 owned).call ownerless) ∅
    owned.Built catalog ∧
      result.1 = .error (.invalidInput (.missingParentColumn "user_id")) ∧
      (relation "tasks").rows ∅ = [] ∧
      (relation "tasks").rows result.2 = [[("id", .ofNat 1), ("title", .string "Sweep")]] :=
  ⟨built_owned, rfl, rfl, rfl⟩

end Sample

end RelationGraph
