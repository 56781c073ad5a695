import RelationGraph.Proofs.AnswerRows
import RelationGraph.Proofs.CommandShapes
import RelationGraph.Proofs.LoadedStructs
import RelationGraph.Proofs.RestrictedWrites
import RelationGraph.Proofs.SingleCommands

/-!
When the answer of a call cannot be mapped.

The rows of an answer are stored rows with the answers of nodes put in where the payload has the
keys of the nodes. Under the key of any other node stands what is stored under that name. A struct
layout takes every column with the name of a node for nested tuples, so mapping fails exactly where
such a stored value is something else (`CommandTree.Clashes`), and then the call has been done.
-/

set_option autoImplicit false

namespace RelationGraph

open StoreM

theorem Json.nests_rows {accepts : Tuple → Prop} {rows : List Tuple}
    (accepted : ∀ row ∈ rows, accepts row) : (Json.array (rows.map .object)).Nests accepts := by
  intro item member
  obtain ⟨row, among, rfl⟩ := List.mem_map.mp member
  exact ⟨row, rfl, accepted row among⟩

namespace Command

/-- A row of an output answers an entry of the payload: for an array that is created the row in the
place of the item, and otherwise every row the payload itself. -/
inductive AnswersEntry (command : Command) : Json → Json → Json → Tuple → Prop
  | item {items outputs : List Json} {entry : Json} {row : Tuple}
      (creates : command.type = .create) (paired : (entry, .object row) ∈ items.zip outputs) :
      AnswersEntry command (.array items) (.array outputs) entry row
  | among {payload : Json} {outputs : List Json} {row : Tuple}
      (single : command.type = .create → ∀ items, payload ≠ .array items)
      (member : .object row ∈ outputs) :
      AnswersEntry command payload (.array outputs) payload row
  | only {payload : Json} {row : Tuple}
      (single : command.type = .create → ∀ items, payload ≠ .array items) :
      AnswersEntry command payload (.object row) payload row

variable {command : Command} {accepts : Tuple → Prop}

theorem AnswersEntry.accepted {payload output entry : Json} {row : Tuple}
    (answers : command.AnswersEntry payload output entry row) (nests : output.Nests accepts) :
    accepts row := by
  cases answers with
  | item _ paired =>
    obtain ⟨tuple, same, accepted⟩ := nests _ (List.of_mem_zip paired).2
    cases same
    exact accepted
  | among _ member =>
    obtain ⟨tuple, same, accepted⟩ := nests _ member
    cases same
    exact accepted
  | only _ => exact nests

theorem AnswersEntry.nests_held {layout inner : StructLayout}
    {payload output entry value : Json} {row : Tuple}
    (answers : command.AnswersEntry payload output entry row)
    (nests : output.Nests layout.Accepts) (place : inner ∈ layout.nodes)
    (held : row.get? inner.name = some value) : value.Nests inner.Accepts := by
  have accepted := StructLayout.accepts_iff.mp (answers.accepted nests) inner place
  rw [Tuple.read_of_get? held] at accepted
  exact accepted

theorem nests_shape {rows : List Tuple} {payload : Json}
    (single : command.type = .create → ∀ items, payload ≠ .array items)
    (accepted : ∀ row ∈ rows,
      command.AnswersEntry payload (command.shape rows) payload row → accepts row) :
    (command.shape rows).Nests accepts := by
  unfold shape at accepted ⊢
  split at accepted
  · refine Json.nests_rows fun row member => accepted row member ?_
    exact .among single (List.mem_map_of_mem member)
  · cases rows with
    | nil => trivial
    | cons row rest => exact accepted row List.mem_cons_self (.only single)

end Command

namespace CommandTree

/-- An answer to a payload that a layout cannot map: in a row of it stands, under the key of a node
for which the entry has no payload, a stored value that the layout cannot map; or else such a row is
found in the answer of a node for which there is a payload. -/
inductive Clashes (all : List Step) : CommandTree → StructLayout → Json → Json → Prop
  | stored {tree node : CommandTree} {layout inner : StructLayout}
      {payload output entry value : Json} {columns row stored : Tuple}
      (answers : tree.command.AnswersEntry payload output entry row)
      (object : entry.toTuple = .ok columns) (child : node ∈ tree.nodes)
      (place : inner ∈ layout.nodes) (named : inner.name = node.key)
      (omitted : columns.get? node.key = none) (held : row.get? node.key = some value)
      (returned : tree.Returns all stored) (kept : stored.get? node.key = some value)
      (unfit : ¬ value.Nests inner.Accepts) : Clashes all tree layout payload output
  | deeper {tree node : CommandTree} {layout inner : StructLayout}
      {payload output entry given nested : Json} {columns row : Tuple}
      (answers : tree.command.AnswersEntry payload output entry row)
      (object : entry.toTuple = .ok columns) (child : node ∈ tree.nodes)
      (place : inner ∈ layout.nodes) (named : inner.name = node.key)
      (present : columns.get? node.key = some given) (held : row.get? node.key = some nested)
      (clashes : Clashes all node inner given nested) : Clashes all tree layout payload output

variable {all : List Step} {tree : CommandTree} {layout : StructLayout} {payload output : Json}

theorem Clashes.not_nests (clashes : tree.Clashes all layout payload output) :
    ¬ output.Nests layout.Accepts := by
  intro nests
  induction clashes with
  | stored answers _ _ place named _ held _ _ unfit =>
    exact unfit (answers.nests_held nests place (named.symm ▸ held))
  | deeper answers _ _ place named _ held _ ih =>
    exact ih (answers.nests_held nests place (named.symm ▸ held))

/-- In an answer without clashes a row can be mapped if the answers of nodes can. -/
theorem Builds.accepts (fits : List.Forall₂ Fits tree.nodes layout.nodes)
    (each : ∀ node ∈ tree.nodes, ∀ inner given nested, node.Fits inner →
      node.Gives all given nested → ¬ node.Clashes all inner given nested →
        nested.Nests inner.Accepts)
    (clear : ¬ tree.Clashes all layout payload output) {entry : Json}
    {columns stored row : Tuple} (builds : Builds all tree.nodes columns stored row)
    (answers : tree.command.AnswersEntry payload output entry row)
    (object : entry.toTuple = .ok columns) (returned : tree.Returns all stored) :
    layout.Accepts row := by
  refine StructLayout.accepts_iff.mpr fun inner place => ?_
  obtain ⟨node, paired, fit⟩ := List.exists_mem_zip_of_forall₂ fits place
  have child : node ∈ tree.nodes := (List.of_mem_zip paired).1
  have named : inner.name = node.key := by
    cases fit
    assumption
  rw [named]
  cases entered : columns.get? node.key with
  | none =>
    have kept := builds.kept node.key fun _ _ _ => entered
    cases held : row.get? node.key with
    | none =>
      rw [Tuple.read, held]
      trivial
    | some value =>
      rw [Tuple.read_of_get? held]
      by_contra unfit
      exact clear (.stored answers object child place named entered held returned
        (kept.symm.trans held) unfit)
  | some given =>
    obtain ⟨nested, gives, held⟩ := builds.given node child given entered
    rw [Tuple.read_of_get? held]
    apply each node child inner given nested fit gives
    intro clashes
    exact clear (.deeper answers object child place named entered held clashes)

theorem Gives.nests_of_nodes (distinct : (tree.nodes.map (·.key)).Nodup)
    (fits : List.Forall₂ Fits tree.nodes layout.nodes)
    (each : ∀ node ∈ tree.nodes, ∀ inner given nested, node.Fits inner →
      node.Gives all given nested → ¬ node.Clashes all inner given nested →
        nested.Nests inner.Accepts)
    (gives : tree.Gives all payload output)
    (clear : ¬ tree.Clashes all layout payload output) : output.Nests layout.Accepts := by
  obtain ⟨parent, start, after, subset, success⟩ := gives
  rw [steps_eq] at subset
  rw [execute_eq] at success
  by_cases array : tree.command.type = .create ∧ ∃ items, payload = .array items
  · obtain ⟨creates, items, rfl⟩ := array
    rw [Step.ofPayload_array creates] at subset
    rw [runPayload_array creates] at success
    obtain ⟨rows, _, collected, success⟩ := outcome_bind_eq_ok.mp success
    cases success
    -- A create answers each item with one row.
    have built : List.Forall₂ (fun entry row => ∃ columns stored, entry.toTuple = .ok columns ∧
        tree.Returns all stored ∧ Builds all tree.nodes columns stored row) items rows := by
      refine forall₂_collect (fun entry _ start after made within ran => ?_) subset collected
      obtain ⟨row, rfl⟩ := exists_single_of_runEntry creates ran
      obtain ⟨columns, object, built⟩ := builds_of_runEntry distinct within ran
      obtain ⟨stored, returned, builds⟩ := built row (List.mem_singleton_self row)
      exact ⟨row, rfl, columns, stored, object, returned, builds⟩
    refine Json.nests_rows fun row member => ?_
    obtain ⟨entry, paired, columns, stored, object, returned, builds⟩ :=
      List.exists_mem_zip_of_forall₂ built member
    have inPlace : (entry, Json.object row) ∈ items.zip (rows.map .object) := by
      rw [List.zip_map_right]
      exact List.mem_map.mpr ⟨(entry, row), paired, rfl⟩
    exact builds.accepts fits each clear (.item creates inPlace) object returned
  · have single : tree.command.type = .create → ∀ items, payload ≠ .array items :=
      fun creates items same => array ⟨creates, items, same⟩
    rw [Step.ofPayload_entry single] at subset
    rw [runPayload_entry single] at success
    obtain ⟨rows, _, ran, success⟩ := outcome_bind_eq_ok.mp success
    cases success
    obtain ⟨columns, object, built⟩ := builds_of_runEntry distinct subset ran
    apply Command.nests_shape single
    intro row member answers
    obtain ⟨stored, returned, builds⟩ := built row member
    exact builds.accepts fits each clear answers object returned

theorem Regular.nests {type : CommandType} (regular : tree.Regular type)
    (fits : List.Forall₂ Fits tree.nodes layout.nodes) (gives : tree.Gives all payload output)
    (clear : ¬ tree.Clashes all layout payload output) : output.Nests layout.Accepts := by
  induction regular generalizing layout payload output with
  | intro _ _ distinct _ ih =>
    refine Gives.nests_of_nodes distinct fits ?_ gives clear
    intro node child inner given nested fit gives clear
    cases fit with
    | intro _ _ nodes => exact ih node child nodes gives clear

end CommandTree

namespace Command

variable {command : Command} {accepts : Tuple → Prop} {input output : Json} {store after : Store}

theorem nests_execute (anything : ∀ row, accepts row)
    (success : outcome (command.execute input none) store = (.ok output, after)) :
    output.Nests accepts := by
  have shaped (rows : List Tuple) : (command.shape rows).Nests accepts := by
    refine @nests_shape _ _ _ .null (fun _ items same => ?_) fun row _ _ => anything row
    cases same
  by_cases deletes : command.type = .delete
  · rw [execute_delete deletes] at success
    obtain ⟨rows, _, _, success⟩ := outcome_bind_eq_ok.mp success
    cases success
    exact shaped rows
  · rw [execute_eq_runPayload deletes] at success
    rcases command.entries_cases input with ⟨items, creates, rfl, _⟩ | ⟨single, _⟩
    · rw [CommandTree.runPayload_array creates] at success
      obtain ⟨rows, _, _, success⟩ := outcome_bind_eq_ok.mp success
      cases success
      exact Json.nests_rows fun row _ => anything row
    · rw [CommandTree.runPayload_entry single] at success
      obtain ⟨rows, _, _, success⟩ := outcome_bind_eq_ok.mp success
      cases success
      exact shaped rows

end Command

namespace Compiled

theorem outputs_ofTree {tree : CommandTree} (plain : tree.command.outputs = []) :
    (ofTree tree).outputs = [] := by
  unfold ofTree
  split
  · rfl
  · exact plain

variable {compiled : Compiled} {layout : StructLayout} {input output : Json}
  {store after : Store}

/-- What is called without steps behind it can be mapped exactly if it does not clash. -/
theorem nests_iff {type : CommandType} (plain : compiled.outputs = [])
    (distinct : (compiled.tree.nodes.map (·.key)).Nodup)
    (regular : ∀ node ∈ compiled.tree.nodes, node.Regular type)
    (fits : List.Forall₂ CommandTree.Fits compiled.tree.nodes layout.nodes)
    (success : outcome (compiled.call input) store = (.ok output, after)) :
    output.Nests layout.Accepts ↔
      ¬ compiled.tree.Clashes (compiled.steps input store) layout input output := by
  refine ⟨fun nests clashes => clashes.not_nests nests, fun clear => ?_⟩
  cases compiled with
  | flat command =>
    obtain ⟨output, _, executed, success⟩ := outcome_bind_eq_ok.mp success
    have unchanged : command.outputs = [] := plain
    rw [unchanged] at success
    cases success
    refine Command.nests_execute (fun row => ?_) executed
    -- There are no nodes.
    have none : layout.nodes = [] := by
      cases nodes : layout.nodes with
      | nil => rfl
      | cons _ _ =>
        rw [nodes] at fits
        cases fits
    rw [StructLayout.accepts_iff, none]
    exact fun _ member => (by cases member)
  | nested command =>
    obtain ⟨output, _, called, success⟩ := outcome_bind_eq_ok.mp success
    have unchanged : command.outputs = [] := plain
    rw [unchanged] at success
    cases success
    have given : Tuple.get? [(command.tree.key, input)] command.tree.key = some input := if_pos rfl
    obtain ⟨_, payload, object, found, valid, executed⟩ := CommandTree.call_eq_ok called
    cases object
    cases given.symm.trans found
    have taken : Compiled.steps (.nested command) input store =
        command.tree.steps none input store := by
      rw [steps, CommandTree.callSteps_of_given given, valid]
    refine CommandTree.Gives.nests_of_nodes distinct fits ?_
      ⟨none, store, _, fun step member => taken ▸ member, executed⟩ clear
    intro node child inner given nested fit gives clear
    cases fit with
    | intro _ _ nodes => exact (regular node child).nests nodes gives clear

end Compiled

/-! ### Commands of a repository -/

namespace RelationTree

theorem nodes_layout (tree : RelationTree) : tree.layout.nodes = tree.nodes.map layout := by
  rw [← layouts_eq]
  cases tree
  rfl

/-- The commands and the layout for a tree have the same shape below the root. -/
theorem fits_nodes_writer (request : CompileRequest) (depth : Nat) (tree : RelationTree) :
    List.Forall₂ CommandTree.Fits (request.writer depth tree).nodes tree.layout.nodes := by
  induction tree using induction generalizing depth with
  | step tree ih =>
    rw [CompileRequest.nodes_writer, nodes_layout, List.forall₂_map_left_iff,
      List.forall₂_map_right_iff, List.forall₂_same]
    intro node member
    refine .intro ?_ ?_ (ih node member 1)
    · rw [CompileRequest.key_writer_one]
      cases node
      rfl
    · rw [CompileRequest.command_writer]
      cases node
      rfl

end RelationTree

def StoreM.Fails {α : Type} (act : StoreM α) (store : Store) : Prop :=
  ∃ fault after, outcome act store = (.error fault, after)

namespace MappedCommand

/-- The command is called with success, and its answer clashes. -/
def Clashes (command : MappedCommand) (input : Json) (store : Store) : Prop :=
  ∃ output after, outcome (command.command.compiled.call input) store = (.ok output, after) ∧
    command.command.compiled.tree.Clashes (command.steps input store) command.layout input output

theorem layout_of_viewAll {command narrowed : MappedCommand} {views : List (String × List Json)}
    {workspace after : Workspace}
    (success : WorkM.outcome (command.viewAll views) workspace = (.ok narrowed, after)) :
    narrowed.layout = command.layout ∧
      narrowed.command.compiled.outputs = command.command.compiled.outputs := by
  induction views generalizing command workspace with
  | nil =>
    cases success
    exact ⟨rfl, rfl⟩
  | cons view rest ih =>
    obtain ⟨id, compiled, between, viewed, success⟩ := exists_viewed_of_viewAll success
    obtain ⟨layouts, outputs⟩ := ih success
    obtain ⟨_, _, here⟩ := Compiled.tree_of_view viewed
    exact ⟨layouts, outputs.trans here⟩

theorem fails_iff (command : MappedCommand) (input : Json) (store : Store) :
    StoreM.Fails (command.call input) store ↔
      StoreM.Fails (command.command.compiled.call input) store ∨
        ∃ output after, outcome (command.command.compiled.call input) store = (.ok output, after) ∧
          ¬ output.Nests command.layout.Accepts := by
  unfold Fails call
  rw [outcome_bind]
  rcases outcome (command.command.compiled.call input) store with ⟨fault | output, after⟩
  · simp
  · simp only [outcome_ofExcept, ← StructLayout.exists_map_iff]
    cases mapped : command.layout.map output <;> simp [mapped]

end MappedCommand

namespace Repository

variable {directory : Directory} {workspace after before between : Workspace}
  {repository : Repository} {typeName : String} {tree : RelationTree}
  {mapped narrowed : MappedCommand} {views : List (String × List Json)}

/-- Whatever came before, and however the command of a tree is narrowed: its call leaves what the
compiled command leaves, and fails exactly where that fails or where the answer clashes, with a
stored column that has the name of a node which the input has no payload for. -/
theorem call_fails_iff_clashes (reached : directory.Reached workspace)
    (listed : directory.Lists (.command repository typeName tree none))
    (setup : repository.catalog.OverMemory) (built : tree.Built repository.catalog)
    (answered : WorkM.outcome (repository.command typeName tree none) workspace =
      (.ok mapped, after))
    (viewed : WorkM.outcome (mapped.viewAll views) before = (.ok narrowed, between))
    (input : Json) (store : Store) :
    (outcome (narrowed.call input) store).2 =
        (outcome (narrowed.command.compiled.call input) store).2 ∧
      (StoreM.Fails (narrowed.call input) store ↔
        StoreM.Fails (narrowed.command.compiled.call input) store ∨
          narrowed.Clashes input store) := by
  obtain ⟨⟨type, result⟩, laid⟩ := result_of_command reached listed answered
  have plain : (repository.order type tree none).request.Plain := ⟨setup, rfl⟩
  obtain ⟨gateways, ran, _⟩ := (repository.order type tree none).request.outcome_run tree.toPlan
  have finished := ran ∅
  rw [result] at finished
  have compiled := CompileRequest.run_toPlan plain built finished
  have unchanged : mapped.command.compiled.outputs = [] := by
    rw [compiled]
    apply Compiled.outputs_ofTree
    rw [CompileRequest.command_writer]
    rfl
  have regular := CompileRequest.writer_regular plain (built.sound setup) 0
  have fits := tree.fits_nodes_writer (repository.order type tree none).request 0
  -- Views leave the layout, the nodes below the root and what is behind the output.
  obtain ⟨layouts, outputs⟩ := MappedCommand.layout_of_viewAll viewed
  have layout : narrowed.layout = tree.layout := by
    rw [layouts, Except.ok.inj (laid.symm.trans tree.ofPlan_toPlan)]
  have nodes := (MappedCommand.narrows_of_viewAll viewed).nodes
  rw [compiled, (Compiled.tree_ofTree _).2] at nodes
  refine ⟨StoreM.store_bind_ofExcept _ _ store, ?_⟩
  rw [narrowed.fails_iff]
  refine or_congr Iff.rfl (exists_congr fun output => exists_congr fun left =>
    and_congr_right fun called => ?_)
  cases regular with
  | intro _ _ distinct inner =>
    rw [← nodes] at distinct inner fits
    rw [← layout] at fits
    rw [Compiled.nests_iff (outputs.trans unchanged) distinct inner fits called, not_not]
    rfl

/-- A user with a column named like the tasks, in an update with no payload for the tasks. -/
theorem call_fails_iff_clashes_users :
    let store := Sample.store [("users", [[("id", .ofNat 1), ("tasks", .ofNat 3)]])]
    let input : Json := .object [("name", .string "Ann")]
    ∃ mapped after,
      WorkM.outcome (Sample.repository.command "update" Sample.users none) .empty =
        (.ok mapped, after) ∧
      (StoreM.Fails (mapped.call input) store ↔
        StoreM.Fails (mapped.command.compiled.call input) store ∨ mapped.Clashes input store) ∧
      mapped.Clashes input store := by
  intro store input
  have unnamed : ∀ given ∈ (none : Option Customization),
      Sample.directory.customizations given.id = given := fun _ given => (by cases given)
  have listed := Directory.lists_command rfl unnamed rfl Sample.owns_users "update"
  refine ⟨_, _, rfl, ?_⟩
  have same := (call_fails_iff_clashes (.fresh ∅ 0) listed Sample.overMemory Sample.built_users rfl
    (rfl : WorkM.outcome (MappedCommand.viewAll _ []) .empty = _) input store).2
  refine ⟨same, ?_⟩
  rcases same.mp ⟨_, _, rfl⟩ with ⟨fault, after, failed⟩ | clashes
  · cases failed
  · exact clashes

end Repository

namespace Sample

/-- An update of a user with a column named like the tasks fails for the struct, though the compiled
command does not, and the user has been changed. -/
theorem not_call_fails_iff_shadowed :
    let combined := tree "users" [many "tasks" [("id", "user_id")] (tree "tasks" [])]
    let before := store [("users", [[("id", .ofNat 1), ("tasks", .ofNat 3)]])]
    let input : Json := .object [("name", .string "Ann")]
    combined.Built catalog ∧ ∃ mapped after,
      WorkM.outcome (repository.command "update" combined none) .empty = (.ok mapped, after) ∧
      StoreM.Fails (mapped.call input) before ∧
      ¬ StoreM.Fails (mapped.command.compiled.call input) before ∧
      (relation "users").rows (outcome (mapped.call input) before).2 =
        [[("id", .ofNat 1), ("name", .string "Ann"), ("tasks", .ofNat 3)]] := by
  intro combined before input
  have built : combined.Built catalog :=
    (built_leaf "users" rfl).combineTree (built_leaf "tasks" rfl) .many "tasks"
      (.ofList [("id", "user_id")]) rfl
  refine ⟨built, _, _, rfl, ⟨_, _, rfl⟩, ?_, rfl⟩
  rintro ⟨fault, after, failed⟩
  cases failed

end Sample

end RelationGraph
