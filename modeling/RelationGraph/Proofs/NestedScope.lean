import RelationGraph.Proofs.NestedLinks

set_option autoImplicit false

namespace RelationGraph

open StoreM

namespace Step

def edit (step : Step) (row : Tuple) : Option Tuple :=
  match step.node.command.type with
  | .delete => none
  | _ => some (row.merge step.tuple)

def dataset (step : Step) : Dataset :=
  step.store.dataset step.node.command.relation.gateway.id step.node.command.relation.name.dataset

/-- The step changes or removes the rows of its dataset that satisfy the test, yields them, and
leaves all else as it is; if it fails there are no such rows. -/
structure Affects (step : Step) (test : Tuple → Bool) : Prop where
  rows : match step.outcome.1 with
    | .ok rows => rows =
        (step.dataset.rows.filter test).map fun row => (step.edit row).getD row
    | .error _ => step.dataset.rows.filter test = []
  store : ∀ gateway name, step.outcome.2.dataset gateway name =
    if gateway = step.node.command.relation.gateway.id ∧
        name = step.node.command.relation.name.dataset then
      { step.dataset with
        rows := step.dataset.rows.filterMap fun row =>
          if test row then step.edit row else some row }
    else step.store.dataset gateway name

theorem outcome_eq {step : Step} (bare : step.node.command.Bare)
    (changes : step.node.command.type ≠ .create) :
    step.outcome =
      match step.node.command.criteria (step.parent.map (·.seen)) with
      | .ok criteria =>
        let changed := step.node.command.change criteria step.tuple step.dataset
        (.ok changed.1, step.store.withDataset step.node.command.relation.gateway.id
          step.node.command.relation.name.dataset changed.2)
      | .error error => (.error error, step.store) := by
  rw [outcome, Command.outcome_run_change bare changes]
  rfl

theorem change_eq {step : Step} (changes : step.node.command.type ≠ .create)
    (criteria : Criteria) :
    step.node.command.change criteria step.tuple step.dataset =
      ((step.dataset.rows.filter criteria.matchesTuple).map fun row => (step.edit row).getD row,
        { step.dataset with
          rows := step.dataset.rows.filterMap fun row =>
            if criteria.matchesTuple row then step.edit row else some row }) := by
  unfold Command.change edit
  cases typed : step.node.command.type with
  | create => exact absurd typed changes
  | update =>
    simp only [Dataset.update, Dataset.fetch, Option.getD_some, Prod.mk.injEq, true_and]
    congr 1
    rw [← List.filterMap_eq_map]
    congr 1
    funext row
    simp only [Function.comp_apply]
    split <;> rfl
  | delete =>
    simp only [Dataset.delete, Dataset.fetch, Option.getD_none, List.map_id', Prod.mk.injEq,
      true_and]
    congr 1
    rw [← List.filterMap_eq_filter]
    congr 1
    funext row
    cases holds : criteria.matchesTuple row <;> simp [Option.guard, holds]

theorem affects_of_criteria {step : Step} (bare : step.node.command.Bare)
    (changes : step.node.command.type ≠ .create) {criteria : Criteria}
    (found : step.node.command.criteria (step.parent.map (·.seen)) = .ok criteria) :
    step.Affects criteria.matchesTuple := by
  have ran := outcome_eq bare changes
  rw [found] at ran
  dsimp only at ran
  rw [change_eq changes] at ran
  refine ⟨?_, fun gateway name => ?_⟩
  · rw [ran]
  · rw [ran, Store.dataset_withDataset]

theorem affects_of_error {step : Step} (bare : step.node.command.Bare)
    (changes : step.node.command.type ≠ .create) {error : Fault}
    (refused : step.node.command.criteria (step.parent.map (·.seen)) = .error error)
    {test : Tuple → Bool} (never : ∀ row, test row = false) : step.Affects test := by
  have ran := outcome_eq bare changes
  rw [refused] at ran
  dsimp only at ran
  refine ⟨?_, fun gateway name => ?_⟩
  · rw [ran]
    exact List.filter_eq_nil_iff.mpr fun row _ => by simp [never row]
  · rw [ran]
    simp only [never, Bool.false_eq_true, if_false, List.filterMap_some]
    split
    · rename_i here
      rw [here.1, here.2]
      rfl
    · rfl

theorem Affects.length_rows {step : Step} {test : Tuple → Bool} (affects : step.Affects test)
    {rows : List Tuple} (success : step.outcome.1 = .ok rows) :
    rows.length = (step.dataset.rows.filter test).length := by
  have listed := affects.rows
  rw [success] at listed
  rw [listed, List.length_map]

/-- In every store a step affects the rows that meet its criteria, and no others. -/
theorem forall_affects_iff {step : Step} (bare : step.node.command.Bare)
    (changes : step.node.command.type ≠ .create) {criteria : Criteria}
    (found : step.node.command.criteria (step.parent.map (·.seen)) = .ok criteria)
    {test : Tuple → Bool} :
    (∀ store, ({ step with store := store } : Step).Affects test) ↔
      ∀ row, criteria.matchesTuple row = test row := by
  constructor
  · intro affects row
    -- A dataset with this row alone tells whether the step affects it.
    let alone : Store := (∅ : Store).withDataset step.node.command.relation.gateway.id
      step.node.command.relation.name.dataset ⟨[row], 0⟩
    let probe : Step := { step with store := alone }
    have single : probe.dataset.rows = [row] := by
      rw [dataset, Store.dataset_withDataset, if_pos ⟨rfl, rfl⟩]
    have ran := @outcome_eq probe bare changes
    rw [found] at ran
    have claimed := (affects alone).length_rows (congrArg Prod.fst ran)
    have meant := (@affects_of_criteria probe bare changes criteria found).length_rows
      (congrArg Prod.fst ran)
    have lengths := claimed.symm.trans meant
    change (probe.dataset.rows.filter test).length = _ at lengths
    rw [single] at lengths
    cases meets : criteria.matchesTuple row <;> cases tested : test row <;>
      simp [meets, tested] at lengths ⊢
  · intro same store
    rw [← funext same]
    exact @affects_of_criteria { step with store := store } bare changes criteria found

end Step

namespace CompileRequest

variable {request : CompileRequest}

theorem matchesTuple_selection (request : CompileRequest) (node : RelationTree)
    (parent row : Tuple) :
    ((request.commandFor 1 node).selection (some parent)).matchesTuple row =
      node.link.keys.carried parent row := by
  rw [Command.selection, Criteria.matchesTuple_merge]
  change (true && _) = _
  rw [Bool.true_and, Criteria.matchesTuple, List.all_map, parentPairs_commandFor_one]
  rfl

/-- A step for a parent affects the children of the parent, whatever rows there are, exactly if it
is refused or what is copied from the parent finds its children. -/
theorem affects_iff_transfers {node : RelationTree} (bare : (request.commandFor 1 node).Bare)
    (changes : (request.commandFor 1 node).type ≠ .create) {step : Step}
    (made : step.node.command = request.commandFor 1 node) {row : Parent}
    (given : step.parent = some row)
    (overlaid : ∀ column, row.seen.get? column = none → row.returned.get? column = none) :
    (∀ store, ({ step with store := store } : Step).Affects
        (node.link.keys.joins row.returned)) ↔
      (∃ pair ∈ node.link.keys.invert.pairs, row.seen.get? pair.2 = none) ∨
        node.link.keys.Transfers row.returned row.seen := by
  rw [← made] at bare changes
  cases found : step.node.command.criteria (step.parent.map (·.seen)) with
  | error error =>
    have missing : ∃ pair ∈ node.link.keys.invert.pairs, row.seen.get? pair.2 = none := by
      apply Decidable.byContradiction
      intro complete
      have supplied : step.node.command.Supplies (step.parent.map (·.seen)) := by
        rw [given, made]
        intro seen same pair member
        cases same
        exact Option.isSome_iff_ne_none.mpr fun absent => complete ⟨pair, member, absent⟩
      have success := Command.criteria_eq_ok.mpr ⟨supplied, rfl⟩
      rw [found] at success
      cases success
    refine ⟨fun _ => Or.inl missing, fun _ store => ?_⟩
    refine @Step.affects_of_error { step with store := store } bare changes error found _ ?_
    intro child
    obtain ⟨pair, member, absent⟩ := missing
    rw [← Bool.not_eq_true]
    intro joined
    have present := JoinKeys.isNull_read_of_joins joined member
    rw [Tuple.read, overlaid pair.2 absent] at present
    cases present
  | ok criteria =>
    obtain ⟨supplied, rfl⟩ := Command.criteria_eq_ok.mp found
    have complete : ¬∃ pair ∈ node.link.keys.invert.pairs, row.seen.get? pair.2 = none := by
      rintro ⟨pair, member, absent⟩
      rw [given, made] at supplied
      have present := supplied row.seen rfl pair member
      rw [absent] at present
      cases present
    rw [Step.forall_affects_iff bare changes found, or_iff_right complete]
    have meets : ∀ child, (step.node.command.selection (step.parent.map (·.seen))).matchesTuple
        child = node.link.keys.carried row.seen child := by
      intro child
      rw [made, given]
      exact request.matchesTuple_selection node row.seen child
    constructor
    · intro same
      obtain ⟨child, carried⟩ := node.link.keys.exists_carried row.seen
      refine JoinKeys.transfers_of_joins ?_ carried
      rw [← same, meets]
      exact carried
    · intro transfers child
      rw [meets]
      exact transfers.carried_eq_joins child

/-- A nested update or delete changes or removes, for every row of a parent, exactly the children of
that row, unless what is copied from the row does not find its children. -/
theorem call_affects_iff_transfers (plain : request.Plain) (changes : request.type ≠ .create)
    {tree : RelationTree} (built : tree.Built request.catalog) {before ready : Store}
    {command : NestedCommand}
    (compiled : outcome (request.run tree.toPlan) before = (.ok (.nested command), ready))
    (input : Json) (store : Store) :
    Leads store (command.tree.callSteps input store)
        (outcome (command.tree.call input) store).2 ∧
      ∀ step ∈ command.tree.callSteps input store, ∀ row, step.parent = some row →
        (∃ node ∈ tree.descendants, step.node = request.writer 1 node) ∧
        (∃ above ∈ command.tree.callSteps input store, above.Below step row) ∧
        ∀ node, step.node = request.writer 1 node →
          ((∀ store, ({ step with store := store } : Step).Affects
              (node.link.keys.joins row.returned)) ↔
            (∃ pair ∈ node.link.keys.invert.pairs, row.seen.get? pair.2 = none) ∨
              node.link.keys.Transfers row.returned row.seen) := by
  have regular : (request.writer 0 tree).Regular request.type :=
    writer_regular plain (built.sound plain.setup) 0
  rw [tree_of_run plain built compiled]
  refine ⟨(request.writer 0 tree).leads_callSteps input store, fun step member row given => ?_⟩
  obtain ⟨place, above, among, below⟩ := below_of_mem_callSteps member given
  refine ⟨place, ⟨above, among, below⟩, fun node same => ?_⟩
  have made : step.node.command = request.commandFor 1 node := by
    rw [same, command_writer]
  have own := (CommandTree.reached_callSteps member).regular regular
  have typed : (request.commandFor 1 node).type ≠ .create := by
    rw [← made, own.typed]
    exact changes
  refine affects_iff_transfers (made ▸ own.bare) typed made given fun column absent => ?_
  rcases below.overlaid column with kept | ⟨_, _, _, value, _, covered⟩
  · rw [← kept, absent]
  · rw [absent] at covered
    cases covered

/-- Deleting users with their tasks, where there is a task of nobody. -/
theorem call_affects_iff_transfers_users :
    let graph := (Sample.request .delete).writer 0 Sample.users
    let input : Json := .object [("users", .object [("tasks", .object [])])]
    let store := Sample.store [("users", [[("id", .ofNat 1)]]),
      ("tasks", [[("title", .string "Sweep"), ("user_id", .ofNat 1)], [("user_id", .null)]])]
    Leads store (graph.callSteps input store) (outcome (graph.call input) store).2 ∧
      ∀ step ∈ graph.callSteps input store, ∀ row, step.parent = some row →
        (∃ node ∈ Sample.users.descendants,
          step.node = (Sample.request .delete).writer 1 node) ∧
        (∃ above ∈ graph.callSteps input store, above.Below step row) ∧
        ∀ node, step.node = (Sample.request .delete).writer 1 node →
          ((∀ store, ({ step with store := store } : Step).Affects
              (node.link.keys.joins row.returned)) ↔
            (∃ pair ∈ node.link.keys.invert.pairs, row.seen.get? pair.2 = none) ∨
              node.link.keys.Transfers row.returned row.seen) := by
  intro graph input store
  have compiled : outcome ((Sample.request .delete).run Sample.users.toPlan) ∅ =
      (.ok (.nested (.ofTree graph)),
        (outcome ((Sample.request .delete).run Sample.users.toPlan) ∅).2) := rfl
  exact call_affects_iff_transfers (Sample.plain .delete) (by decide) Sample.built_users compiled
    input store

end CompileRequest

namespace Sample

/-- Users with their tasks by a code. -/
def coded : RelationTree := tree "users" [many "tasks" [("code", "user_code")] (tree "tasks" [])]

theorem built_coded : coded.Built catalog :=
  (built_leaf "users" rfl).combineTree (built_leaf "tasks" rfl) .many "tasks"
    (.ofList [("code", "user_code")]) rfl

/-- With a user that has no code, the tasks of nobody are deleted, though they do not join it. -/
theorem not_affects_coded :
    let graph := (request .delete).writer 0 coded
    let user : Tuple := [("code", .null), ("id", .ofNat 1)]
    let task : Tuple := [("id", .ofNat 1), ("title", .string "Sweep")]
    let result := outcome (graph.call (.object [("users", .object [("tasks", .object [])])]))
      (store [("users", [user]), ("tasks", [task])])
    coded.Built catalog ∧ result.1.isOk = true ∧ (relation "tasks").rows result.2 = [] ∧
      JoinKeys.joins (.ofList [("code", "user_code")]) user task = false :=
  ⟨built_coded, rfl, rfl, rfl⟩

end Sample

end RelationGraph
