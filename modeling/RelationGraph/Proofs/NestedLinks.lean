import RelationGraph.Proofs.Compilation
import RelationGraph.Proofs.NestedSteps

set_option autoImplicit false

namespace RelationGraph

open StoreM

namespace CompileRequest

variable {request : CompileRequest}

theorem exists_writer_of_mem_nodes {depth : Nat} {tree : RelationTree} {node : CommandTree}
    (child : node ∈ (request.writer depth tree).nodes) :
    ∃ inner ∈ tree.nodes, node = request.writer 1 inner := by
  rw [nodes_writer] at child
  obtain ⟨inner, member, made⟩ := List.mem_map.mp child
  exact ⟨inner, member, made.symm⟩

theorem exists_writer_of_reached {tree : RelationTree} {all : List Step} {step : Step}
    (reached : Step.Reached all (request.writer 0 tree) none step) :
    ∃ depth, ∃ node ∈ tree.subtrees, step.node = request.writer depth node := by
  induction reached with
  | root node _ => exact ⟨0, tree, tree.self_mem_subtrees, node⟩
  | deeper _ _ below ih =>
    obtain ⟨depth, whole, inside, same⟩ := ih
    obtain ⟨node, child, made⟩ := exists_writer_of_mem_nodes (same ▸ below.node)
    exact ⟨1, node, RelationTree.mem_subtrees_of_mem_descendants
      (RelationTree.mem_descendants_of_mem_subtrees inside child), made⟩

/-- A nested step runs the command for a relation below the root, for a row that another step has
returned. -/
theorem below_of_mem_callSteps {tree : RelationTree} {input : Json} {store : Store} {step : Step}
    (member : step ∈ (request.writer 0 tree).callSteps input store) {row : Parent}
    (given : step.parent = some row) :
    (∃ node ∈ tree.descendants, step.node = request.writer 1 node) ∧
      ∃ above ∈ (request.writer 0 tree).callSteps input store, above.Below step row := by
  cases CommandTree.reached_callSteps member with
  | root _ absent =>
    rw [given] at absent
    cases absent
  | @deeper above _ _ among reached below =>
    obtain ⟨depth, whole, inside, same⟩ := exists_writer_of_reached reached
    obtain ⟨node, child, made⟩ := exists_writer_of_mem_nodes (same ▸ below.node)
    obtain rfl := Option.some.inj (given.symm.trans below.parent)
    exact ⟨⟨node, RelationTree.mem_descendants_of_mem_subtrees inside child, made⟩,
      above, among, below⟩

theorem distinct_parentPairs_commandFor (request : CompileRequest) (node : RelationTree) :
    ((request.commandFor 1 node).parentPairs.map (·.1)).Nodup :=
  node.link.keys.nodup_keys_invert

/-- A row that is stored for a parent holds what is copied from it, unless that is null. -/
theorem carried_of_adds {node : RelationTree} {seen tuple row : Tuple} {store after : Store}
    (present : ∀ pair ∈ node.link.keys.invert.pairs, (seen.read pair.2).isNull = false)
    (added : Insertion.Adds ⟨(request.commandFor 1 node).relation,
      (request.commandFor 1 node).handed tuple (some seen), row⟩ store after) :
    node.link.keys.carried seen row = true := by
  obtain ⟨dataset, inserted, _⟩ := added
  rw [JoinKeys.carried, List.all_eq_true]
  intro pair member
  have handed : ((request.commandFor 1 node).handed tuple (some seen)).get? pair.1 =
      some (seen.read pair.2) :=
    Command.get?_handed (request.distinct_parentPairs_commandFor node) member tuple seen
  have given : (((request.commandFor 1 node).handed tuple (some seen)).read pair.1).isNull =
      false := by
    rw [Tuple.read_of_get? handed]
    exact present pair member
  have stored : row.get? pair.1 = some (seen.read pair.2) :=
    (Dataset.get?_of_insert inserted given).trans handed
  rw [Tuple.read_of_get? stored]
  exact BEq.rfl

/-- A row that a create stores for a parent joins it exactly if what is copied from the parent finds
its children. -/
theorem joins_iff_transfers {node : RelationTree} (bare : (request.commandFor 1 node).Bare)
    (creates : (request.commandFor 1 node).type = .create) {row : Parent}
    (overlaid : ∀ column, row.seen.get? column = row.returned.get? column ∨
      (row.seen.read column).isNull = false)
    {tuple : Tuple} {store after : Store} {rows : List Tuple}
    (success : outcome ((request.commandFor 1 node).run tuple (some row.seen)) store =
      (.ok rows, after)) {child : Tuple} (member : child ∈ rows) :
    node.link.keys.joins row.returned child = true ↔
      node.link.keys.Transfers row.returned row.seen := by
  obtain ⟨stored, rfl, supplied, added⟩ := Command.outcome_run_create bare creates success
  rw [List.mem_singleton.mp member]
  constructor
  · intro joined
    -- A column that joins is not null, and no answer that covers it is.
    have present : ∀ pair ∈ node.link.keys.invert.pairs,
        (row.seen.read pair.2).isNull = false := by
      intro pair inside
      rcases overlaid pair.2 with same | answered
      · rw [Tuple.read, same]
        exact JoinKeys.isNull_read_of_joins joined inside
      · exact answered
    exact JoinKeys.transfers_of_joins joined (carried_of_adds present added)
  · intro transfers
    have present : ∀ pair ∈ node.link.keys.invert.pairs,
        (row.seen.read pair.2).isNull = false := by
      intro pair inside
      rw [Json.isNull_of_beq (transfers.2 pair inside)]
      exact (transfers.1 _ (JoinKeys.mem_pairs_of_mem_invert inside)).1
    rw [← transfers.carried_eq_joins]
    exact carried_of_adds present added

/-- After a nested create, a row that was stored for a parent is there, and it joins the parent as
that was stored exactly if what is copied from the parent finds its children. -/
theorem call_joins_iff_transfers (plain : request.Plain) (creates : request.type = .create)
    {tree : RelationTree} (built : tree.Built request.catalog) {before ready : Store}
    {command : NestedCommand}
    (compiled : outcome (request.run tree.toPlan) before = (.ok (.nested command), ready))
    (input : Json) (store : Store) :
    Leads store (command.tree.callSteps input store)
        (outcome (command.tree.call input) store).2 ∧
      ∀ step ∈ command.tree.callSteps input store, ∀ row, step.parent = some row →
        (∃ node ∈ tree.descendants, step.node = request.writer 1 node) ∧
        (∃ above ∈ command.tree.callSteps input store, above.Below step row) ∧
        ∀ rows after, step.outcome = (.ok rows, after) → ∀ child ∈ rows,
          child ∈ step.node.command.relation.rows (outcome (command.tree.call input) store).2 ∧
          ∀ node, step.node = request.writer 1 node →
            (node.link.keys.joins row.returned child = true ↔
              node.link.keys.Transfers row.returned row.seen) := by
  have regular : (request.writer 0 tree).Regular .create := by
    rw [← creates]
    exact writer_regular plain (built.sound plain.setup) 0
  rw [tree_of_run plain built compiled]
  have leads := (request.writer 0 tree).leads_callSteps input store
  have regularAt : ∀ step ∈ (request.writer 0 tree).callSteps input store,
      step.node.Regular .create :=
    fun step member => (CommandTree.reached_callSteps member).regular regular
  refine ⟨leads, fun step member row given => ?_⟩
  obtain ⟨place, above, among, below⟩ := below_of_mem_callSteps member given
  refine ⟨place, ⟨above, among, below⟩, fun rows after success child inside => ?_⟩
  have ran : outcome (step.node.command.run step.tuple (some row.seen)) step.store =
      (.ok rows, after) := by
    rw [← success, Step.outcome, given]
    rfl
  have own := regularAt step member
  constructor
  · refine leads.mem_rows_of_mem (fun other given kept => ?_) member ?_
    · obtain ⟨added, grown⟩ := Command.rows_run_create (regularAt other given).bare
        (regularAt other given).typed other.tuple (other.parent.map (·.seen)) other.store
        step.node.command.relation.gateway.id step.node.command.relation.name.dataset
      rw [Relation.rows, Step.outcome, grown]
      exact List.mem_append_left _ kept
    · obtain ⟨stored, rfl, _, added⟩ := Command.outcome_run_create own.bare own.typed ran
      rw [Relation.rows, success, added.rows_eq]
      simp [List.mem_singleton.mp inside, Insertion.isIn]
  · intro node same
    have made : step.node.command = request.commandFor 1 node := by
      rw [same, command_writer]
    have overlaid : ∀ column, row.seen.get? column = row.returned.get? column ∨
        (row.seen.read column).isNull = false := by
      intro column
      refine (below.overlaid column).imp id ?_
      rintro ⟨other, beside, _, value, ⟨_, _, _, _, answered⟩, covered⟩
      rw [Tuple.read_of_get? covered]
      exact ((regularAt above among).node beside).isNull_output answered
    rw [made] at ran
    exact joins_iff_transfers (made ▸ own.bare) (made ▸ own.typed) overlaid ran inside

/-- A user with a task. -/
theorem call_joins_iff_transfers_users :
    let graph := (Sample.request .create).writer 0 Sample.users
    let input : Json := .object [("users", .object [("name", .string "Ann"),
      ("tasks", .array [.object [("title", .string "Sweep")]])])]
    Leads ∅ (graph.callSteps input ∅) (outcome (graph.call input) ∅).2 ∧
      ∀ step ∈ graph.callSteps input ∅, ∀ row, step.parent = some row →
        (∃ node ∈ Sample.users.descendants,
          step.node = (Sample.request .create).writer 1 node) ∧
        (∃ above ∈ graph.callSteps input ∅, above.Below step row) ∧
        ∀ rows after, step.outcome = (.ok rows, after) → ∀ child ∈ rows,
          child ∈ step.node.command.relation.rows (outcome (graph.call input) ∅).2 ∧
          ∀ node, step.node = (Sample.request .create).writer 1 node →
            (node.link.keys.joins row.returned child = true ↔
              node.link.keys.Transfers row.returned row.seen) := by
  intro graph input
  have compiled : outcome ((Sample.request .create).run Sample.users.toPlan) ∅ =
      (.ok (.nested (.ofTree graph)),
        (outcome ((Sample.request .create).run Sample.users.toPlan) ∅).2) := rfl
  exact call_joins_iff_transfers (Sample.plain .create) rfl Sample.built_users compiled input ∅

end CompileRequest

namespace Sample

/-- Users with their tags under the name of the key, and with their tasks by that key. -/
def shadowed : RelationTree :=
  tree "users" [many "id" [("name", "owner")] (tree "tags" []),
    many "tasks" [("id", "user_id")] (tree "tasks" [])]

theorem built_shadowed : shadowed.Built catalog :=
  ((built_leaf "users" rfl).combineTree (built_leaf "tags" rfl) .many "id"
    (.ofList [("name", "owner")]) rfl).combineTree (built_leaf "tasks" rfl) .many "tasks"
      (.ofList [("id", "user_id")]) rfl

/-- The answer for the tags covers the key of the user, and is copied into the task in its place. -/
theorem not_joins_shadowed :
    let graph := (request .create).writer 0 shadowed
    let input : Json := .object [("users", .object [("id", .object [("label", .string "new")]),
      ("name", .string "Ann"), ("tasks", .object [("title", .string "Sweep")])])]
    let result := outcome (graph.call input) ∅
    let user : Tuple := [("id", .ofNat 1), ("name", .string "Ann")]
    let tag : Tuple := [("id", .ofNat 1), ("label", .string "new"), ("owner", .string "Ann")]
    let task : Tuple := [("id", .ofNat 1), ("title", .string "Sweep"),
      ("user_id", .array [.object tag])]
    shadowed.Built catalog ∧ result.1.isOk = true ∧
      (relation "users").rows result.2 = [user] ∧ (relation "tasks").rows result.2 = [task] ∧
      JoinKeys.joins (.ofList [("id", "user_id")]) user task = false :=
  ⟨built_shadowed, rfl, rfl, rfl, rfl⟩

end Sample

end RelationGraph
