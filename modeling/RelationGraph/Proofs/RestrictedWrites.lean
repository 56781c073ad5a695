import Mathlib.Data.List.Nodup
import RelationGraph.Proofs.CacheTransparency
import RelationGraph.Proofs.RowFates

set_option autoImplicit false

namespace RelationGraph

open StoreM

/-! ### Trees that differ in criteria alone -/

namespace RelationTree

mutual

def unrestricted : RelationTree → RelationTree
  | ⟨relation, name, link, nodes⟩ => ⟨relation.unrestricted, name, link, unrestrictedAll nodes⟩

def unrestrictedAll : List RelationTree → List RelationTree
  | [] => []
  | tree :: rest => unrestricted tree :: unrestrictedAll rest

end

mutual

theorem toPlan_unrestricted (tree : RelationTree) : tree.unrestricted.toPlan = tree.toPlan := by
  match tree with
  | ⟨relation, name, link, nodes⟩ =>
    rw [unrestricted, toPlan, toPlan, toPlans_unrestrictedAll nodes]
    rfl

theorem toPlans_unrestrictedAll (trees : List RelationTree) :
    toPlans (unrestrictedAll trees) = toPlans trees := by
  match trees with
  | [] => rfl
  | tree :: rest =>
    rw [unrestrictedAll, toPlans, toPlans, toPlan_unrestricted tree, toPlans_unrestrictedAll rest]

end

theorem adapter_unrestricted (tree : RelationTree) :
    tree.unrestricted.relation.adapter = tree.relation.adapter := by
  cases tree
  rfl

end RelationTree

/-! ### The commands of a tree -/

namespace Compiled

theorem tree_ofTree (tree : CommandTree) :
    (ofTree tree).tree.command = tree.command ∧ (ofTree tree).tree.nodes = tree.nodes := by
  unfold ofTree
  split
  · exact ⟨rfl, rfl⟩
  · rename_i flat
    have none : tree.nodes = [] := by simpa [CommandTree.isNested] using flat
    exact ⟨rfl, none.symm⟩

end Compiled

namespace CompileRequest

variable {request : CompileRequest}

theorem Compiles.of_tree {tree : RelationTree} {compiled : Compiled}
    (compiles : request.Compiles tree.toPlan compiled) :
    request.Binds tree.baseName tree.link 0 compiled.tree.command ∧
      List.Forall₂ request.Makes (tree.nodes.map RelationTree.planTree) compiled.tree.nodes := by
  obtain ⟨name, base, link, content, commands, same, made, rfl⟩ := compiles
  have trees := tree.trees_toPlan
  rw [same, Plan.trees, RelationTree.planTree_eq, List.cons.injEq] at trees
  rw [trees.1] at made
  obtain ⟨command, nodes⟩ := Compiled.tree_ofTree commands
  rw [command, nodes]
  exact ⟨made.binds, made.nodes⟩

theorem exists_makes_of_mem {trees : List RelationTree} {commands : List CommandTree}
    (made : List.Forall₂ request.Makes (trees.map RelationTree.planTree) commands)
    {command : CommandTree} (member : command ∈ commands) :
    ∃ tree ∈ trees, request.Makes tree.planTree command := by
  rw [List.forall₂_map_left_iff] at made
  induction made with
  | nil => cases member
  | cons here _ ih =>
    rcases List.mem_cons.mp member with rfl | later
    · exact ⟨_, List.mem_cons_self, here⟩
    · obtain ⟨tree, among, makes⟩ := ih later
      exact ⟨tree, List.mem_cons_of_mem _ among, makes⟩

theorem key_of_makes {tree : RelationTree} {commands : CommandTree}
    (makes : request.Makes tree.planTree commands) : commands.key = tree.name := by
  rw [RelationTree.planTree_eq] at makes
  cases makes
  assumption

theorem nodes_of_makes {tree : RelationTree} {commands : CommandTree}
    (makes : request.Makes tree.planTree commands) :
    List.Forall₂ request.Makes (tree.nodes.map RelationTree.planTree) commands.nodes := by
  rw [RelationTree.planTree_eq] at makes
  cases makes
  assumption

theorem relation_of_makes {tree : RelationTree} (sound : tree.Sound request.catalog)
    {commands : CommandTree} (makes : request.Makes tree.planTree commands) :
    commands.command.relation = tree.relation.unrestricted := by
  rw [RelationTree.planTree_eq] at makes
  cases makes with
  | intro _ _ _ binds _ => exact Except.ok.inj (binds.relation.symm.trans sound.registered)

end CompileRequest

namespace Step

/-- The step runs the command for a node: the one for the tree itself, or the one that has the key
of the node among those below a step that stands for the tree around it. -/
inductive StandsFor (tree : RelationTree) (all : List Step) : RelationTree → Step → Prop
  | root {step : Step} (top : step.parent = none) : StandsFor tree all tree step
  | deeper {node child : RelationTree} {above step : Step} {row : Parent}
      (stands : StandsFor tree all node above) (member : above ∈ all)
      (hangs : above.Below step row) (among : child ∈ node.nodes)
      (named : child.name = step.node.key) : StandsFor tree all child step

section

variable {request : CompileRequest} {tree : RelationTree} {all : List Step} {commands : CommandTree}

/-- The step runs the whole of the commands, or those that a node below the root is compiled to. -/
def Runs (request : CompileRequest) (tree : RelationTree) (commands : CommandTree)
    (node : RelationTree) (step : Step) : Prop :=
  (step.parent = none ∧ node = tree ∧ step.node = commands) ∨
    (step.parent.isSome = true ∧ node ∈ tree.descendants ∧ request.Makes node.planTree step.node)

theorem Runs.mem_subtrees {node : RelationTree} {step : Step}
    (runs : Runs request tree commands node step) : node ∈ tree.subtrees := by
  rcases runs with ⟨_, rfl, _⟩ | ⟨_, inside, _⟩
  · exact node.self_mem_subtrees
  · exact RelationTree.mem_subtrees_of_mem_descendants inside

theorem Runs.nodes
    (made : List.Forall₂ request.Makes (tree.nodes.map RelationTree.planTree) commands.nodes)
    {node : RelationTree} {step : Step} (runs : Runs request tree commands node step) :
    List.Forall₂ request.Makes (node.nodes.map RelationTree.planTree) step.node.nodes := by
  rcases runs with ⟨_, rfl, same⟩ | ⟨_, _, makes⟩
  · exact same ▸ made
  · exact CompileRequest.nodes_of_makes makes

/-- Below a step that runs what a node is compiled to, a step runs what a child of the node is
compiled to. -/
theorem Runs.exists_child
    (made : List.Forall₂ request.Makes (tree.nodes.map RelationTree.planTree) commands.nodes)
    {node : RelationTree} {above step : Step} {row : Parent}
    (runs : Runs request tree commands node above) (hangs : above.Below step row) :
    ∃ child ∈ node.nodes, child.name = step.node.key ∧ Runs request tree commands child step := by
  obtain ⟨child, among, makes⟩ := CompileRequest.exists_makes_of_mem (runs.nodes made) hangs.node
  have given : step.parent.isSome = true := by rw [hangs.parent]; rfl
  exact ⟨child, among, (CompileRequest.key_of_makes makes).symm, Or.inr
    ⟨given, RelationTree.mem_descendants_of_mem_subtrees runs.mem_subtrees among, makes⟩⟩

theorem StandsFor.runs
    (made : List.Forall₂ request.Makes (tree.nodes.map RelationTree.planTree) commands.nodes)
    (sound : tree.Sound request.catalog)
    (reached : ∀ step ∈ all, Step.Reached all commands none step) {node : RelationTree}
    {step : Step} (stands : StandsFor tree all node step) (member : step ∈ all) :
    Runs request tree commands node step := by
  induction stands with
  | @root step top =>
    cases reached step member with
    | root same _ => exact Or.inl ⟨top, rfl, same⟩
    | deeper _ _ hangs =>
      rw [hangs.parent] at top
      cases top
  | @deeper node child above step row _ aboveMember hangs among named ih =>
    have runs := ih aboveMember
    obtain ⟨other, amongToo, sameName, runsToo⟩ := runs.exists_child made hangs
    -- Nodes beside each other have names of their own.
    have same : other = child := by
      cases sound.of_mem_subtrees runs.mem_subtrees with
      | intro _ distinct _ _ _ =>
        exact List.inj_on_of_nodup_map distinct amongToo among (sameName.trans named.symm)
    exact same ▸ runsToo

theorem exists_standsFor
    (made : List.Forall₂ request.Makes (tree.nodes.map RelationTree.planTree) commands.nodes)
    (sound : tree.Sound request.catalog)
    (allReached : ∀ step ∈ all, Step.Reached all commands none step) {step : Step}
    (reached : Step.Reached all commands none step) : ∃ node, StandsFor tree all node step := by
  induction reached with
  | root _ given => exact ⟨tree, .root given⟩
  | deeper member _ hangs ih =>
    obtain ⟨node, stands⟩ := ih
    obtain ⟨child, among, named, _⟩ :=
      (stands.runs made sound allReached member).exists_child made hangs
    exact ⟨child, .deeper stands member hangs among named⟩

end

end Step

/-! ### Commands that are narrowed -/

def Relation.viewAll (relation : Relation) : List (String × List Json) → Except Fault Relation
  | [] => .ok relation
  | (name, args) :: rest => do (← relation.view name args).viewAll rest

def MappedCommand.viewAll (command : MappedCommand) :
    List (String × List Json) → WorkM MappedCommand
  | [] => return command
  | (name, args) :: rest => do (← command.view name args).viewAll rest

namespace Compiled

def outputs : Compiled → List OutputMap
  | .flat command => command.outputs
  | .nested command => command.outputs

/-- The command with its root narrowed by views. -/
structure Narrows (compiled : Compiled) (views : List (String × List Json))
    (narrowed : Compiled) : Prop where
  relation : compiled.tree.command.relation.viewAll views = .ok narrowed.tree.command.relation
  nodes : narrowed.tree.nodes = compiled.tree.nodes

theorem tree_of_view {compiled viewed : Compiled} {name : String} {args : List Json}
    (success : compiled.view name args = .ok viewed) :
    compiled.tree.command.relation.view name args = .ok viewed.tree.command.relation ∧
      viewed.tree.nodes = compiled.tree.nodes ∧ viewed.outputs = compiled.outputs := by
  cases compiled with
  | flat command =>
    obtain ⟨narrowed, made, rest⟩ := Except.bind_eq_ok.mp success
    cases rest
    obtain ⟨relation, seen, rest⟩ := Except.bind_eq_ok.mp made
    cases rest
    exact ⟨seen, rfl, rfl⟩
  | nested command =>
    obtain ⟨narrowed, made, rest⟩ := Except.bind_eq_ok.mp success
    cases rest
    obtain ⟨root, bound, rest⟩ := Except.bind_eq_ok.mp made
    cases rest
    obtain ⟨relation, seen, rest⟩ := Except.bind_eq_ok.mp bound
    cases rest
    exact ⟨seen, rfl, rfl⟩

theorem Narrows.cons {compiled viewed narrowed : Compiled} {name : String} {args : List Json}
    {views : List (String × List Json)} (success : compiled.view name args = .ok viewed)
    (narrows : viewed.Narrows views narrowed) :
    compiled.Narrows ((name, args) :: views) narrowed := by
  obtain ⟨seen, nodes, _⟩ := tree_of_view success
  exact ⟨Except.bind_eq_ok.mpr ⟨_, seen, narrows.relation⟩, narrows.nodes.trans nodes⟩

end Compiled

namespace CompiledInstance

variable {command : CompiledInstance}

theorem outcome_view_of_error {name : String} {args : List Json} {fault : Fault}
    (failed : command.compiled.view name args = .error fault) (workspace : Workspace) :
    WorkM.outcome (command.view name args) workspace = (.error fault, workspace) := by
  rw [view, failed]
  rfl

theorem outcome_view_of_ok {name : String} {args : List Json} {compiled : Compiled}
    (viewed : command.compiled.view name args = .ok compiled) (workspace : Workspace) :
    WorkM.outcome (command.view name args) workspace =
      (.ok ⟨workspace.nextId, compiled⟩, { workspace with nextId := workspace.nextId + 1 }) := by
  rw [view, viewed]
  rfl

end CompiledInstance

namespace MappedCommand

variable {command narrowed : MappedCommand} {workspace after : Workspace}

theorem outcome_view_of_error {name : String} {args : List Json} {fault : Fault}
    (failed : command.command.compiled.view name args = .error fault) (workspace : Workspace) :
    WorkM.outcome (command.view name args) workspace = (.error fault, workspace) := by
  rw [view, WorkM.outcome_bind_of_error (CompiledInstance.outcome_view_of_error failed workspace)]

theorem outcome_view_of_ok {name : String} {args : List Json} {compiled : Compiled}
    (viewed : command.command.compiled.view name args = .ok compiled) (workspace : Workspace) :
    WorkM.outcome (command.view name args) workspace =
      (.ok ⟨⟨workspace.nextId, compiled⟩, command.layout⟩,
        { workspace with nextId := workspace.nextId + 1 }) := by
  rw [view, WorkM.outcome_bind_of_ok (CompiledInstance.outcome_view_of_ok viewed workspace)]
  rfl

theorem exists_viewed_of_viewAll {name : String} {args : List Json}
    {rest : List (String × List Json)}
    (success : WorkM.outcome (command.viewAll ((name, args) :: rest)) workspace =
      (.ok narrowed, after)) :
    ∃ id compiled between, command.command.compiled.view name args = .ok compiled ∧
      WorkM.outcome (MappedCommand.viewAll ⟨⟨id, compiled⟩, command.layout⟩ rest) between =
        (.ok narrowed, after) := by
  cases viewed : command.command.compiled.view name args with
  | error error =>
    rw [viewAll, WorkM.outcome_bind_of_error (outcome_view_of_error viewed workspace)] at success
    cases success
  | ok compiled =>
    rw [viewAll, WorkM.outcome_bind_of_ok (outcome_view_of_ok viewed workspace)] at success
    exact ⟨workspace.nextId, compiled, _, rfl, success⟩

theorem narrows_of_viewAll {views : List (String × List Json)}
    (success : WorkM.outcome (command.viewAll views) workspace = (.ok narrowed, after)) :
    command.command.compiled.Narrows views narrowed.command.compiled := by
  induction views generalizing command workspace with
  | nil =>
    cases success
    exact ⟨rfl, rfl⟩
  | cons view rest ih =>
    obtain ⟨id, compiled, between, viewed, success⟩ := exists_viewed_of_viewAll success
    exact .cons viewed (ih success)

end MappedCommand

/-- The step writes to the relation of a node without the criteria of the node, narrowed by views.
It changes and removes only rows that it selects, and keeps to the criteria of the node exactly
where they hold of every row that it would change or remove. -/
structure Step.WritesFor (step : Step) (node : RelationTree)
    (views : List (String × List Json)) : Prop where
  relation : node.relation.unrestricted.viewAll views = .ok step.node.command.relation
  selected : step.Confined step.selects
  honours_iff :
    (∀ store, ({ step with store := store } : Step).Confined node.relation.criteria.matchesTuple) ↔
      ∀ row, step.fate row ≠ some row → node.relation.criteria.matchesTuple row = true

def MappedCommand.steps (command : MappedCommand) (input : Json) (store : Store) : List Step :=
  command.command.compiled.steps input store

/-- What a call does to a store: its steps write for the nodes of a tree, those of the root narrowed
by views, and rows that no step selects come through. -/
structure MappedCommand.Writes (command : MappedCommand) (tree : RelationTree)
    (views : List (String × List Json)) (input : Json) (store : Store) : Prop where
  leads : Leads store (command.steps input store) (outcome (command.call input) store).2
  stands : ∀ step ∈ command.steps input store,
    ∃ node, Step.StandsFor tree (command.steps input store) node step
  writes : ∀ step ∈ command.steps input store,
    ∀ node, Step.StandsFor tree (command.steps input store) node step →
      step.WritesFor node (if step.parent.isNone then views else [])
  spared : ∀ gateway name keep,
    (∀ step ∈ command.steps input store, step.Spares gateway name keep) →
      ((store.dataset gateway name).rows.filter keep).Sublist
        ((outcome (command.call input) store).2.dataset gateway name).rows

theorem MappedCommand.leads_steps (command : MappedCommand) (input : Json) (store : Store) :
    Leads store (command.steps input store) (outcome (command.call input) store).2 := by
  rw [MappedCommand.call, StoreM.store_bind_ofExcept]
  exact command.command.compiled.leads_steps input store

namespace CompileRequest

variable {request : CompileRequest}

/-- Every step of a compiled command, narrowed or not, writes for the node that it stands for. -/
theorem Compiles.writesFor {tree : RelationTree} (sound : tree.Sound request.catalog)
    {compiled narrowed : Compiled} (compiles : request.Compiles tree.toPlan compiled)
    {views : List (String × List Json)} (narrows : compiled.Narrows views narrowed) {input : Json}
    {store : Store} {step : Step} (member : step ∈ narrowed.steps input store) :
    (∃ node, Step.StandsFor tree (narrowed.steps input store) node step) ∧
      ∀ node, Step.StandsFor tree (narrowed.steps input store) node step →
        step.WritesFor node (if step.parent.isNone then views else []) := by
  obtain ⟨binds, made⟩ := compiles.of_tree
  rw [← narrows.nodes] at made
  have reached : ∀ step ∈ narrowed.steps input store,
      Step.Reached (narrowed.steps input store) narrowed.tree none step :=
    fun _ given => Compiled.reached_steps given
  refine ⟨Step.exists_standsFor made sound reached (reached step member), fun node stands => ?_⟩
  refine ⟨?_, step.confined_selects, Step.forall_confined_iff⟩
  rcases stands.runs made sound reached member with ⟨top, rfl, same⟩ | ⟨given, inside, makes⟩
  · have bound := Except.ok.inj (binds.relation.symm.trans sound.registered)
    rw [top, same, ← bound]
    exact narrows.relation
  · have inner := sound.of_mem_subtrees (RelationTree.mem_subtrees_of_mem_descendants inside)
    rw [Option.isNone_eq_false_iff.mpr given, relation_of_makes inner makes]
    rfl

end CompileRequest

namespace Repository

variable {directory : Directory} {workspace after : Workspace} {repository : Repository}
  {typeName : String} {tree : RelationTree} {customization : Option Customization}
  {mapped : MappedCommand}

/-- For trees that differ in criteria alone a repository does and answers the same. -/
theorem command_congr {other : RelationTree} (same : other.unrestricted = tree.unrestricted) :
    repository.command typeName other customization =
      repository.command typeName tree customization := by
  have plans : other.toPlan = tree.toPlan := by
    rw [← other.toPlan_unrestricted, same, tree.toPlan_unrestricted]
  have adapters : other.relation.adapter = tree.relation.adapter := by
    rw [← other.adapter_unrestricted, same, tree.adapter_unrestricted]
  unfold command compileCommand
  rw [plans, adapters]

/-- Whatever came before, a repository answers with what compiling the plan yields and with the
layout of the plan. -/
theorem result_of_command (reached : directory.Reached workspace)
    (listed : directory.Lists (.command repository typeName tree customization))
    (answered : WorkM.outcome (repository.command typeName tree customization) workspace =
      (.ok mapped, after)) :
    (∃ type, (repository.order type tree customization).request.result tree.toPlan =
      .ok mapped.command.compiled) ∧ StructLayout.ofPlan tree.toPlan = .ok mapped.layout := by
  obtain ⟨keeps, faithful⟩ := reached.sound
  have given := congrArg Prod.fst (WorkM.outcome_bind_pure answered fun mapped : MappedCommand =>
    Answer.mk mapped.command (some mapped.layout))
  obtain ⟨order, ordered, result, layouts⟩ :=
    Inquiry.exists_order_of_answered listed keeps faithful given
  obtain ⟨type, _, made⟩ := Except.bind_eq_ok.mp ordered
  cases made
  refine ⟨⟨type, result⟩, ?_⟩
  obtain ⟨layout, laid⟩ := tree.exists_ofPlan
  rw [Inquiry.layout?, laid] at layouts
  rw [laid, Option.some.inj layouts]

theorem compiles_of_command (reached : directory.Reached workspace)
    (listed : directory.Lists (.command repository typeName tree customization))
    (answered : WorkM.outcome (repository.command typeName tree customization) workspace =
      (.ok mapped, after)) :
    ∃ type, (repository.order type tree customization).request.Compiles tree.toPlan
      mapped.command.compiled := by
  obtain ⟨⟨type, result⟩, _⟩ := result_of_command reached listed answered
  obtain ⟨_, _, sound⟩ := (repository.order type tree customization).request.outcome_run tree.toPlan
  exact ⟨type, (sound _ result).1⟩

/-- Whatever came before, and however the relations of a tree are narrowed: the command for the
tree, as it is or narrowed by views, changes and removes only rows that meet the criteria of the
views or, below the root, hold what is copied from their parent. The criteria of the tree are no
part of it. -/
theorem command_writes (reached : directory.Reached workspace)
    (listed : directory.Lists (.command repository typeName tree customization))
    (setup : repository.catalog.SetUp) (built : tree.Built repository.catalog)
    (answered : WorkM.outcome (repository.command typeName tree customization) workspace =
      (.ok mapped, after)) :
    (∀ other : RelationTree, other.unrestricted = tree.unrestricted →
      repository.command typeName other customization =
        repository.command typeName tree customization) ∧
    ∀ views narrowed before between,
      WorkM.outcome (mapped.viewAll views) before = (.ok narrowed, between) →
        ∀ input store, narrowed.Writes tree views input store := by
  refine ⟨fun other same => command_congr same, ?_⟩
  intro views narrowed before between success input store
  obtain ⟨type, compiles⟩ := compiles_of_command reached listed answered
  have narrows := MappedCommand.narrows_of_viewAll success
  have each : ∀ step ∈ narrowed.steps input store, _ := fun _ member =>
    compiles.writesFor (built.sound_of_setUp setup) narrows member
  have leads := narrowed.leads_steps input store
  exact ⟨leads, fun step member => (each step member).1, fun step member => (each step member).2,
    fun _ _ _ => leads.filter_sublist⟩

/-- The command for one user with the tasks of that user. -/
theorem command_writes_user :
    ∃ mapped after,
      WorkM.outcome (Sample.repository.command "delete" Sample.user none) .empty =
        (.ok mapped, after) ∧
      (∀ other : RelationTree, other.unrestricted = Sample.user.unrestricted →
        Sample.repository.command "delete" other none =
          Sample.repository.command "delete" Sample.user none) ∧
      ∀ views narrowed before between,
        WorkM.outcome (mapped.viewAll views) before = (.ok narrowed, between) →
          ∀ input store, narrowed.Writes Sample.user views input store := by
  have unnamed : ∀ given ∈ (none : Option Customization),
      Sample.directory.customizations given.id = given := fun _ given => (by cases given)
  have listed := Directory.lists_command rfl unnamed rfl Sample.owns_user "delete"
  have built : Sample.user.Built Sample.catalog := .whereEq "id" (.ofNat 1) Sample.built_users
  exact ⟨_, _, rfl, command_writes (.fresh ∅ 0) listed Sample.overMemory.setUp built rfl⟩

end Repository

namespace Sample

/-- The command for one user is that for all users, and deletes another user, too. -/
theorem not_confined_user :
    let restricted := (tree "users" []).whereEq "id" (.ofNat 1)
    let first : Tuple := [("id", .ofNat 1)]
    let second : Tuple := [("id", .ofNat 2)]
    restricted.Built catalog ∧ restricted.relation.criteria.matchesTuple second = false ∧
      repository.command "delete" restricted none =
        repository.command "delete" (tree "users" []) none ∧
      ∃ mapped after,
        WorkM.outcome (repository.command "delete" restricted none) .empty = (.ok mapped, after) ∧
        (relation "users").rows
          (outcome (mapped.call .null) (store [("users", [first, second])])).2 = [] :=
  ⟨.whereEq "id" (.ofNat 1) (built_leaf "users" rfl), rfl, rfl, _, _, rfl, rfl⟩

end Sample

end RelationGraph
