import RelationGraph.Command.Compiled
import RelationGraph.Proofs.NestedSteps

/-!
What becomes of stored rows.

A run keeps, changes or removes each row that it finds, whatever the others are. Only rows that meet
the criteria of the command are in danger, however gateways, customizations and input maps have
changed its template, so the rows that no step selects come through a whole call.
-/

set_option autoImplicit false

namespace RelationGraph

open StoreM

theorem List.filter_sublist_filterMap {α : Type} {keep : α → Bool} {fate : α → Option α}
    (kept : ∀ item, keep item = true → fate item = some item) (items : List α) :
    (items.filter keep).Sublist (items.filterMap fate) := by
  induction items with
  | nil => exact .slnil
  | cons item rest ih =>
    by_cases here : keep item = true
    · rw [List.filter_cons_of_pos here, List.filterMap_cons_some (kept item here)]
      exact ih.cons_cons item
    · rw [List.filter_cons_of_neg here]
      cases fated : fate item with
      | none => rwa [List.filterMap_cons_none fated]
      | some left =>
        rw [List.filterMap_cons_some fated]
        exact ih.cons left

theorem Gateway.outcome_change_eq {α : Type} (gateway : Gateway) (operation : Operation)
    (dataset : String) (act : Dataset → Except Fault (α × Dataset)) (store : Store) :
    outcome (gateway.change operation dataset act) store =
      match gateway.permit operation with
      | .error error => (.error error, store)
      | .ok _ =>
        match act (store.dataset gateway.id dataset) with
        | .ok (result, changed) => (.ok result, store.withDataset gateway.id dataset changed)
        | .error error => (.error error, store) := by
  unfold permit
  cases refused : gateway.refuse operation with
  | none => exact outcome_change refused dataset act store
  | some text =>
    rw [change, permit, refused]
    rfl

namespace Command

/-- What a run makes of each row that it finds, unless it is refused. -/
def rewrite (command : Command) (tuple : Tuple) (parent : Option Tuple) :
    Except Fault (Tuple → Option Tuple) :=
  match command.type with
  | .create => .ok some
  | .update => do
    let criteria ← command.criteria parent
    let changes ← command.mapped tuple parent
    command.relation.gateway.permit .update
    return fun row => some (if criteria.matchesTuple row then row.merge changes else row)
  | .delete => do
    let criteria ← command.criteria parent
    command.relation.gateway.permit .delete
    return fun row => if criteria.matchesTuple row then none else some row

/-- What becomes of a row in a run; nothing of a row that is removed. -/
def fate (command : Command) (tuple : Tuple) (parent : Option Tuple) : Tuple → Option Tuple :=
  match command.rewrite tuple parent with
  | .ok rewrite => rewrite
  | .error _ => some

/-- The store changes in the dataset of the command alone: every row meets its fate, and a create
may add some. -/
structure Turns (command : Command) (fate : Tuple → Option Tuple) (store after : Store) : Prop where
  rows : ∃ added, (command.type ≠ .create → added = []) ∧
    command.relation.rows after = (command.relation.rows store).filterMap fate ++ added
  others : ∀ gateway name,
    ¬(gateway = command.relation.gateway.id ∧ name = command.relation.name.dataset) →
      after.dataset gateway name = store.dataset gateway name

variable {command : Command}

theorem turns_refl (command : Command) (store : Store) : command.Turns some store store :=
  ⟨⟨[], fun _ => rfl, by rw [List.filterMap_some, List.append_nil]⟩, fun _ _ _ => rfl⟩

theorem turns_withDataset {fate : Tuple → Option Tuple} {store : Store} {changed : Dataset}
    {added : List Tuple} (creates : command.type ≠ .create → added = [])
    (rows : changed.rows = (command.relation.rows store).filterMap fate ++ added) :
    command.Turns fate store
      (store.withDataset command.relation.gateway.id command.relation.name.dataset changed) := by
  refine ⟨⟨added, creates, ?_⟩, fun gateway name elsewhere => ?_⟩
  · rw [Relation.rows_withDataset]
    exact rows
  · rw [Store.dataset_withDataset, if_neg elsewhere]

theorem rows_update (criteria : Criteria) (changes : Tuple) (dataset : Dataset) :
    (dataset.update criteria changes).2.rows =
      dataset.rows.filterMap fun row =>
        some (if criteria.matchesTuple row then row.merge changes else row) := by
  rw [List.filterMap_eq_map']
  rfl

theorem rows_delete (criteria : Criteria) (dataset : Dataset) :
    (dataset.delete criteria).2.rows =
      dataset.rows.filterMap fun row => if criteria.matchesTuple row then none else some row := by
  rw [Dataset.delete]
  dsimp only
  rw [← List.filterMap_eq_filter]
  congr 1
  funext row
  cases met : criteria.matchesTuple row <;> simp [Option.guard, met]

/-- An operation that is permitted and makes the same of every row, whatever the others are. -/
theorem turns_change {operation : Operation} {edit : Dataset → List Tuple × Dataset}
    {fate : Tuple → Option Tuple}
    (rows : ∀ dataset, (edit dataset).2.rows = dataset.rows.filterMap fate)
    (permitted : command.relation.gateway.permit operation = .ok ()) (store : Store) :
    command.Turns fate store
      (outcome (command.relation.gateway.change operation command.name.dataset
        fun dataset => .ok (edit dataset)) store).2 := by
  rw [Gateway.outcome_change_eq, permitted]
  refine turns_withDataset (fun _ => rfl) ?_
  rw [rows, List.append_nil]
  rfl

theorem turns_refused {α : Type} {operation : Operation} {error : Fault}
    (refused : command.relation.gateway.permit operation = .error error)
    (act : Dataset → Except Fault (α × Dataset)) (store : Store) :
    command.Turns some store
      (outcome (command.relation.gateway.change operation command.name.dataset act) store).2 := by
  rw [Gateway.outcome_change_eq, refused]
  exact command.turns_refl store

theorem turns_insert (creates : command.type = .create) (given : Tuple) (store : Store) :
    command.Turns some store
      (outcome (command.relation.gateway.insert command.name.dataset command.relation.primaryKey
        given) store).2 := by
  cases permitted : command.relation.gateway.permit .insert with
  | error error => exact turns_refused permitted _ store
  | ok _ =>
    rw [Gateway.insert, Gateway.outcome_change_eq, permitted]
    dsimp only
    cases inserted : Dataset.insert command.name.dataset command.relation.primaryKey given
        (store.dataset command.relation.gateway.id command.name.dataset) with
    | error error => exact command.turns_refl store
    | ok result =>
      have grown := Dataset.rows_insert inserted
      refine @turns_withDataset command _ _ _ [result.1] (absurd creates) ?_
      rw [List.filterMap_some]
      exact grown

/-- A run turns the store by the fates of the rows, however it ends. -/
theorem turns_run (command : Command) (tuple : Tuple) (parent : Option Tuple) (store : Store) :
    command.Turns (command.fate tuple parent) store
      (outcome (command.run tuple parent) store).2 := by
  unfold run fate rewrite
  cases typed : command.type with
  | create =>
    dsimp only
    rw [outcome_ofExcept_bind]
    cases command.prepared tuple parent with
    | error error => exact command.turns_refl store
    | ok given =>
      have inserted := turns_insert typed given store
      dsimp only
      rw [outcome_bind]
      rcases ran : outcome (command.relation.gateway.insert command.name.dataset
        command.relation.primaryKey given) store with ⟨_ | _, after⟩ <;> rwa [ran] at inserted
  | update =>
    dsimp only
    rw [outcome_ofExcept_bind]
    cases command.criteria parent with
    | error error => exact command.turns_refl store
    | ok criteria =>
      dsimp only
      rw [outcome_ofExcept_bind]
      cases command.mapped tuple parent with
      | error error => exact command.turns_refl store
      | ok changes =>
        cases permitted : command.relation.gateway.permit .update with
        | error error => exact turns_refused permitted _ store
        | ok _ => exact turns_change (rows_update criteria changes) permitted store
  | delete =>
    dsimp only
    rw [outcome_ofExcept_bind]
    cases command.criteria parent with
    | error error => exact command.turns_refl store
    | ok criteria =>
      cases permitted : command.relation.gateway.permit .delete with
      | error error => exact turns_refused permitted _ store
      | ok _ => exact turns_change (rows_delete criteria) permitted store

theorem matchesTuple_of_fate {tuple : Tuple} {parent : Option Tuple} {row : Tuple}
    (turned : command.fate tuple parent row ≠ some row) :
    (command.selection parent).matchesTuple row = true := by
  refine Decidable.byContradiction fun missed => turned ?_
  unfold fate rewrite
  cases command.type with
  | create => rfl
  | update =>
    cases found : command.criteria parent with
    | error error => rfl
    | ok criteria =>
      obtain rfl := (criteria_eq_ok.mp found).2
      cases command.mapped tuple parent with
      | error error => rfl
      | ok changes =>
        cases command.relation.gateway.permit .update with
        | error error => rfl
        | ok _ => exact congrArg some (if_neg missed)
  | delete =>
    cases found : command.criteria parent with
    | error error => rfl
    | ok criteria =>
      obtain rfl := (criteria_eq_ok.mp found).2
      cases command.relation.gateway.permit .delete with
      | error error => rfl
      | ok _ => exact if_neg missed

theorem fate_create (creates : command.type = .create) (tuple : Tuple) (parent : Option Tuple) :
    command.fate tuple parent = some := by
  unfold fate rewrite
  rw [creates]

end Command

namespace Step

def fate (step : Step) : Tuple → Option Tuple :=
  step.node.command.fate step.tuple (step.parent.map (·.seen))

/-- Whether a row meets the criteria of the command, with those for the children of the parent. -/
def selects (step : Step) : Tuple → Bool :=
  (step.node.command.selection (step.parent.map (·.seen))).matchesTuple

theorem turns (step : Step) : step.node.command.Turns step.fate step.store step.outcome.2 :=
  step.node.command.turns_run _ _ _

/-- Only rows of the command's dataset that pass the test are changed or removed. -/
def Confined (step : Step) (test : Tuple → Bool) : Prop :=
  ∃ fate, (∀ row, fate row ≠ some row → test row = true) ∧
    step.node.command.Turns fate step.store step.outcome.2

/-- Whatever rows there are, a step is confined to those that pass a test exactly if no other row
would be changed or removed. -/
theorem forall_confined_iff {step : Step} {test : Tuple → Bool} :
    (∀ store, ({ step with store := store } : Step).Confined test) ↔
      ∀ row, step.fate row ≠ some row → test row = true := by
  constructor
  · intro confined row turned
    refine Decidable.byContradiction fun failed => ?_
    have changes : step.node.command.type ≠ .create := fun creates =>
      turned (congrFun (Command.fate_create creates _ _) row)
    -- A dataset with this row alone shows what becomes of it.
    let alone : Store := (∅ : Store).withDataset step.node.command.relation.gateway.id
      step.node.command.relation.name.dataset ⟨[row], 0⟩
    let probe : Step := { step with store := alone }
    have single : step.node.command.relation.rows alone = [row] :=
      Relation.rows_withDataset _ _ _
    obtain ⟨fate, spared, ⟨added, none, rows⟩, _⟩ := confined alone
    obtain ⟨added', none', rows'⟩ := probe.turns.rows
    have kept : fate row = some row :=
      Classical.byContradiction fun lost => failed (spared row lost)
    have same := rows.symm.trans rows'
    change List.filterMap fate (step.node.command.relation.rows alone) ++ added =
      List.filterMap step.fate (step.node.command.relation.rows alone) ++ added' at same
    rw [single, none changes, none' changes, List.filterMap_cons_some kept] at same
    cases fated : step.fate row with
    | none => simp [fated] at same
    | some left =>
      simp only [List.filterMap_nil, List.append_nil, List.filterMap_cons_some fated,
        List.cons.injEq, and_true] at same
      exact turned (by rw [fated, same])
  · intro spared store
    exact ⟨step.fate, spared, ({ step with store := store } : Step).turns⟩

theorem confined_selects (step : Step) : step.Confined step.selects :=
  ⟨step.fate, fun _ turned => Command.matchesTuple_of_fate turned, step.turns⟩

/-- The step selects none of the rows of a dataset that are kept. -/
def Spares (step : Step) (gateway : Nat) (name : String) (keep : Tuple → Bool) : Prop :=
  gateway = step.node.command.relation.gateway.id →
    name = step.node.command.relation.name.dataset →
      ∀ row, keep row = true → step.selects row = false

theorem Spares.filter_sublist {step : Step} {gateway : Nat} {name : String} {keep : Tuple → Bool}
    (spares : step.Spares gateway name keep) :
    ((step.store.dataset gateway name).rows.filter keep).Sublist
      (step.outcome.2.dataset gateway name).rows := by
  by_cases here : gateway = step.node.command.relation.gateway.id ∧
      name = step.node.command.relation.name.dataset
  · obtain ⟨rfl, rfl⟩ := here
    obtain ⟨added, _, rows⟩ := step.turns.rows
    have kept : ∀ row, keep row = true → step.fate row = some row := fun row held =>
      Classical.byContradiction fun turned => by
        have selected := Command.matchesTuple_of_fate turned
        have unselected := spares rfl rfl row held
        rw [selects, selected] at unselected
        cases unselected
    change _ = _ at rows
    rw [Relation.rows] at rows
    rw [rows]
    exact (List.filter_sublist_filterMap kept _).trans (List.sublist_append_left _ _)
  · rw [step.turns.others gateway name here]
    exact List.filter_sublist

end Step

/-- Rows that no step selects are there in the end, in their order. -/
theorem Leads.filter_sublist {store after : Store} {steps : List Step}
    (leads : Leads store steps after) {gateway : Nat} {name : String} {keep : Tuple → Bool}
    (spares : ∀ step ∈ steps, step.Spares gateway name keep) :
    ((store.dataset gateway name).rows.filter keep).Sublist (after.dataset gateway name).rows := by
  induction leads with
  | nil => exact List.filter_sublist
  | @cons step rest after _ ih =>
    obtain ⟨here, others⟩ := List.forall_mem_cons.mp spares
    have first := here.filter_sublist.filter keep
    simp only [List.filter_filter, Bool.and_self] at first
    exact first.trans (ih others)

/-! ### Steps of compiled commands -/

namespace Command

def leaf (command : Command) : CommandTree := ⟨command.name.relation, command, []⟩

/-- The step for an input that is no array. -/
def entrySteps (command : Command) (input : Json) (store : Store) : List Step :=
  match command.type, input.toTuple with
  | .delete, _ => [⟨command.leaf, none, [], store⟩]
  | _, .ok tuple => [⟨command.leaf, none, tuple, store⟩]
  | _, .error _ => []

def runItem (command : Command) (item : Json) : StoreM (List Tuple) := do
  command.run (← MonadExcept.ofExcept item.toTuple) none

def steps (command : Command) (input : Json) (store : Store) : List Step :=
  Step.ofPayload command command.runItem command.entrySteps input store

variable {command : Command}

theorem leads_single (command : Command) (tuple : Tuple) (store : Store) :
    Leads store [⟨command.leaf, none, tuple, store⟩] (outcome (command.run tuple none) store).2 :=
  @Leads.cons ⟨command.leaf, none, tuple, store⟩ [] _ .nil

theorem leads_entrySteps (takes : command.type ≠ .delete) (input : Json) (store : Store) :
    Leads store (command.entrySteps input store) (outcome (command.runItem input) store).2 := by
  unfold entrySteps runItem
  rw [outcome_ofExcept_bind]
  cases input.toTuple with
  | error error =>
    cases typed : command.type with
    | create => exact .nil
    | update => exact .nil
    | delete => exact absurd typed takes
  | ok tuple =>
    cases typed : command.type with
    | create => exact command.leads_single tuple store
    | update => exact command.leads_single tuple store
    | delete => exact absurd typed takes

theorem createAll_cons (command : Command) (item : Json) (rest : List Json) :
    command.createAll none (item :: rest) = command.runItem item >>= fun created => do
      return created.map .object ++ (← command.createAll none rest) := by
  rw [createAll, runItem, bind_assoc]

theorem leads_createAll (creates : command.type = .create) (items : List Json) (store : Store) :
    Leads store (Step.ofCollect command.runItem command.entrySteps items store)
      (outcome (command.createAll none items) store).2 := by
  induction items generalizing store with
  | nil => exact .nil
  | cons item rest ih =>
    rw [createAll_cons]
    have first := command.leads_entrySteps (by rw [creates]; decide) item store
    exact first.followedBy fun _ after => (ih after).map

theorem execute_entry (takes : command.type ≠ .delete) {input : Json}
    (single : command.type = .create → ∀ items, input ≠ .array items) :
    command.execute input none = do return command.shape (← command.runItem input) := by
  unfold execute
  split
  · rename_i typed
    exact absurd rfl (single typed _)
  · rename_i typed
    exact absurd typed takes
  · rw [runItem, bind_assoc]

theorem leads_execute (command : Command) (input : Json) (store : Store) :
    Leads store (command.steps input store) (outcome (command.execute input none) store).2 := by
  unfold steps
  by_cases array : command.type = .create ∧ ∃ items, input = .array items
  · obtain ⟨creates, items, rfl⟩ := array
    have ran : command.execute (.array items) none = do
        return .array (← command.createAll none items) := by
      simp only [execute, creates]
    rw [Step.ofPayload_array creates, ran]
    exact (leads_createAll creates items store).map
  · have single : command.type = .create → ∀ items, input ≠ .array items :=
      fun typed items same => array ⟨typed, items, same⟩
    rw [Step.ofPayload_entry single]
    by_cases removes : command.type = .delete
    · have ran : command.execute input none = do
          return command.shape (← command.run [] none) := by
        simp only [execute, removes]
      rw [ran, entrySteps, removes]
      exact (command.leads_single [] store).map
    · rw [execute_entry removes single]
      exact (leads_entrySteps removes input store).map

end Command

theorem StoreM.store_bind_ofExcept {α β : Type} (act : StoreM α) (check : α → Except Fault β)
    (store : Store) :
    (outcome (do MonadExcept.ofExcept (check (← act))) store).2 = (outcome act store).2 := by
  rw [outcome_bind]
  rcases outcome act store with ⟨_ | value, after⟩
  · rfl
  · dsimp only
    rw [outcome_ofExcept]

theorem Command.node_of_mem_steps {command : Command} {input : Json} {store : Store} {step : Step}
    (member : step ∈ command.steps input store) :
    step.node = command.leaf ∧ step.parent = none := by
  obtain ⟨entry, middle, inside, _⟩ := Step.exists_of_mem_ofPayload member
  unfold entrySteps at inside
  split at inside
  · rw [List.mem_singleton.mp inside]
    exact ⟨rfl, rfl⟩
  · rw [List.mem_singleton.mp inside]
    exact ⟨rfl, rfl⟩
  · cases inside

namespace Compiled

/-- The commands as a tree, also of a bare command. -/
def tree : Compiled → CommandTree
  | .flat command => command.leaf
  | .nested command => command.tree

def steps (compiled : Compiled) (input : Json) (store : Store) : List Step :=
  match compiled with
  | .flat command => command.steps input store
  | .nested command => command.tree.callSteps (.object [(command.tree.key, input)]) store

theorem leads_steps (compiled : Compiled) (input : Json) (store : Store) :
    Leads store (compiled.steps input store) (outcome (compiled.call input) store).2 := by
  cases compiled with
  | flat command =>
    rw [call, Command.call, StoreM.store_bind_ofExcept]
    exact command.leads_execute input store
  | nested command =>
    rw [call, NestedCommand.call, StoreM.store_bind_ofExcept]
    exact command.tree.leads_callSteps (.object [(command.tree.key, input)]) store

theorem reached_steps {compiled : Compiled} {input : Json} {store : Store} {step : Step}
    (member : step ∈ compiled.steps input store) :
    Step.Reached (compiled.steps input store) compiled.tree none step := by
  cases compiled with
  | flat command =>
    obtain ⟨node, parent⟩ := Command.node_of_mem_steps member
    exact .root node parent
  | nested command =>
    exact @CommandTree.reached_callSteps command.tree (.object [(command.tree.key, input)]) store
      step member

end Compiled

end RelationGraph
