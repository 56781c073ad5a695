import RelationGraph.Compiler
import RelationGraph.Proofs.Combining
import RelationGraph.Proofs.Commands
import RelationGraph.Proofs.Joins

set_option autoImplicit false

namespace RelationGraph

open StoreM

namespace CompileRequest

def commandFor (request : CompileRequest) (depth : Nat) (tree : RelationTree) : Command :=
  .bind ((request.initialTemplate tree.relation.unrestricted tree.link depth).withResult
    (tree.link.cardinality.getD .one)) tree.relation.unrestricted

mutual

def writer (request : CompileRequest) (depth : Nat) : RelationTree → CommandTree
  | ⟨relation, name, link, nodes⟩ =>
    ⟨if depth = 0 then relation.name.relation else name,
      request.commandFor depth ⟨relation, name, link, nodes⟩, writers request (depth + 1) nodes⟩

def writers (request : CompileRequest) (depth : Nat) : List RelationTree → List CommandTree
  | [] => []
  | tree :: rest => writer request depth tree :: writers request depth rest

end

theorem writers_eq (request : CompileRequest) (depth : Nat) (trees : List RelationTree) :
    request.writers depth trees = trees.map (request.writer depth) := by
  induction trees with
  | nil => rfl
  | cons tree rest ih => rw [writers, ih, List.map_cons]

theorem writer_eq (request : CompileRequest) (depth : Nat) (tree : RelationTree) :
    request.writer depth tree =
      ⟨if depth = 0 then tree.baseName.relation else tree.name, request.commandFor depth tree,
        tree.nodes.map (request.writer (depth + 1))⟩ := by
  cases tree
  rw [writer, writers_eq]
  rfl

/-- A request for nothing but what the plan says. -/
structure Plain (request : CompileRequest) : Prop where
  setup : request.catalog.OverMemory
  uncustomized : request.customization = none

theorem outcome_command {request : CompileRequest} (plain : request.Plain) {base : RelationName}
    {link : Link} {depth : Nat} {relation : Relation} {store after : Store} {command : Command}
    (found : request.catalog.relation base.relation = .ok relation)
    (success : outcome (request.command base link depth) store = (.ok command, after)) :
    command = .bind ((request.initialTemplate relation link depth).withResult
      (link.cardinality.getD .one)) relation := by
  have configured := (plain.setup.relation found).2.2.configures
  simp only [CompileRequest.command, found, plain.uncustomized, outcome_ofExcept_bind] at success
  obtain ⟨template, middle, registered, success⟩ := outcome_bind_eq_ok.mp success
  cases success
  have same : template = request.initialTemplate relation link depth := by
    rw [← configured (request.initialTemplate relation link depth)]
    cases registered
    rfl
  rw [same]

theorem outcome_onRelation {request : CompileRequest} (plain : request.Plain) {name : String}
    {base : RelationName} {link : Link} {depth : Nat} {relation : Relation}
    {children : StoreM (List CommandTree)} {store after : Store} {node : CommandTree}
    (found : request.catalog.relation base.relation = .ok relation)
    (success : outcome (request.visitor.onRelation name base link depth children) store =
      (.ok node, after)) :
    ∃ nodes middle, outcome children middle = (.ok nodes, after) ∧
      node = ⟨if depth = 0 then base.relation else name,
        .bind ((request.initialTemplate relation link depth).withResult
          (link.cardinality.getD .one)) relation, nodes⟩ := by
  obtain ⟨_, checked, _, success⟩ := outcome_bind_eq_ok.mp success
  obtain ⟨command, middle, bound, success⟩ := outcome_bind_eq_ok.mp success
  obtain ⟨nodes, _, inner, success⟩ := outcome_bind_eq_ok.mp success
  cases success
  rw [outcome_command plain found bound]
  exact ⟨nodes, middle, inner, rfl⟩

theorem outcome_visitAll_attributes (request : CompileRequest) (depth : Nat)
    (names : List String) (plans : List Plan) (store : Store) :
    outcome (Plan.visitAll request.visitor depth (names.map Plan.attribute ++ plans)) store =
      outcome (Plan.visitAll request.visitor depth plans) store := by
  induction names with
  | nil => rfl
  | cons name rest ih =>
    rw [List.map_cons, List.cons_append, Plan.visitAll, Plan.visit,
      outcome_bind_of_ok (outcome_pure _ _), outcome_bind, ih]
    rcases outcome (Plan.visitAll request.visitor depth plans) store with ⟨_ | nodes, after⟩ <;> rfl

theorem outcome_visitAll {request : CompileRequest} {depth : Nat} {trees : List RelationTree}
    (visit : ∀ tree ∈ trees, ∀ {store after : Store} {found : List CommandTree},
      outcome (Plan.visit request.visitor depth tree.toPlan) store = (.ok found, after) →
        found = [request.writer depth tree])
    {store after : Store} {nodes : List CommandTree}
    (success : outcome (Plan.visitAll request.visitor depth (RelationTree.toPlans trees)) store =
      (.ok nodes, after)) :
    nodes = trees.map (request.writer depth) := by
  induction trees generalizing store after nodes with
  | nil =>
    cases success
    rfl
  | cons tree rest ih =>
    obtain ⟨first, middle, here, success⟩ := outcome_bind_eq_ok.mp success
    obtain ⟨others, _, later, success⟩ := outcome_bind_eq_ok.mp success
    cases success
    rw [visit tree List.mem_cons_self here,
      ih (fun other member => visit other (List.mem_cons_of_mem _ member)) later]
    rfl

theorem outcome_visit {request : CompileRequest} (plain : request.Plain) {tree : RelationTree}
    (sound : tree.Sound request.catalog) {depth : Nat} {store after : Store}
    {found : List CommandTree}
    (success : outcome (Plan.visit request.visitor depth tree.toPlan) store =
      (.ok found, after)) :
    found = [request.writer depth tree] := by
  induction sound generalizing depth store after found with
  | @intro tree registered _ _ _ _ ih =>
    cases tree with
    | mk relation name link nodes =>
      rw [RelationTree.toPlan, Plan.visit] at success
      obtain ⟨node, _, visited, success⟩ := outcome_bind_eq_ok.mp success
      cases success
      obtain ⟨inner, _, visited, made⟩ := outcome_onRelation plain registered visited
      rw [outcome_visitAll_attributes] at visited
      have shape := outcome_visitAll (fun node member => ih node member) visited
      rw [made, shape, writer_eq]
      rfl

/-- Compiling the plan of a built tree yields the commands of the tree. -/
theorem run_toPlan {request : CompileRequest} (plain : request.Plain) {tree : RelationTree}
    (built : tree.Built request.catalog) {store after : Store} {compiled : Compiled}
    (success : outcome (request.run tree.toPlan) store = (.ok compiled, after)) :
    compiled = .ofTree (request.writer 0 tree) := by
  have sound := built.sound plain.setup
  obtain ⟨node, _, walked, success⟩ := outcome_bind_eq_ok.mp success
  cases success
  have visited :
      outcome (Plan.visit request.visitor 0 tree.toPlan) store = (.ok [node], after) := by
    cases tree
    rw [RelationTree.toPlan] at walked ⊢
    exact outcome_bind_eq_ok.mpr ⟨node, after, walked, rfl⟩
  rw [List.singleton_inj.mp (outcome_visit plain sound visited)]

/-- Below the root, the commands for a tree are the same at every depth. -/
theorem writer_succ (request : CompileRequest) (depth : Nat) (tree : RelationTree) :
    request.writer (depth + 1) tree = request.writer 1 tree := by
  induction tree using RelationTree.induction generalizing depth with
  | step tree ih =>
    have nodes : tree.nodes.map (request.writer (depth + 1 + 1)) =
        tree.nodes.map (request.writer (1 + 1)) := by
      apply List.map_congr_left
      intro node member
      rw [ih node member, ih node member 1]
    rw [writer_eq, writer_eq, nodes]
    rfl

theorem nodes_writer (request : CompileRequest) (depth : Nat) (tree : RelationTree) :
    (request.writer depth tree).nodes = tree.nodes.map (request.writer 1) := by
  rw [writer_eq]
  apply List.map_congr_left
  intro node _
  exact request.writer_succ depth node

theorem command_writer (request : CompileRequest) (depth : Nat) (tree : RelationTree) :
    (request.writer depth tree).command = request.commandFor depth tree := by
  rw [writer_eq]

theorem key_writer_one (request : CompileRequest) (tree : RelationTree) :
    (request.writer 1 tree).key = tree.name := by
  rw [writer_eq]
  rfl

theorem bare_commandFor {request : CompileRequest} (plain : request.Plain) (depth : Nat)
    {tree : RelationTree} (sound : tree.Sound request.catalog) :
    (request.commandFor depth tree).Bare := by
  refine ⟨?_, (plain.setup.relation sound.registered).2.2⟩
  simp only [commandFor, Command.bind, initialTemplate]
  split <;> rfl

theorem parentPairs_commandFor_one (request : CompileRequest) (tree : RelationTree) :
    (request.commandFor 1 tree).parentPairs = tree.link.keys.invert.pairs := rfl

theorem mem_parentColumns_commandFor {request : CompileRequest} {tree : RelationTree}
    {column : String} (taken : column ∈ (request.commandFor 1 tree).parentColumns) :
    column ∈ tree.link.parentColumns := by
  obtain ⟨pair, member, rfl⟩ := List.mem_map.mp taken
  rw [parentPairs_commandFor_one] at member
  exact JoinKeys.mem_keys_of_mem_pairs (JoinKeys.mem_pairs_of_mem_invert member)

/-- The commands for a sound tree are bare, and nodes beside each other have different keys. -/
theorem writer_regular {request : CompileRequest} (plain : request.Plain) {tree : RelationTree}
    (sound : tree.Sound request.catalog) (depth : Nat) :
    (request.writer depth tree).Regular request.type := by
  induction sound generalizing depth with
  | @intro tree registered distinct annotated keyed nodes ih =>
    refine .intro ?_ ?_ ?_ ?_
    · rw [command_writer]
      simp only [commandFor, Command.bind, Command.type, initialTemplate]
      split <;> rfl
    · rw [command_writer]
      exact bare_commandFor plain depth (.intro registered distinct annotated keyed nodes)
    · have keys : (tree.nodes.map (request.writer 1)).map (·.key) = tree.nodes.map (·.name) := by
        rw [List.map_map]
        exact List.map_congr_left fun node _ => request.key_writer_one node
      rw [nodes_writer, keys]
      exact distinct
    · intro node member
      rw [nodes_writer] at member
      obtain ⟨child, inside, rfl⟩ := List.mem_map.mp member
      exact ih child inside 1

/-- The tree that is compiled for a tree of several relations. -/
theorem tree_of_run {request : CompileRequest} (plain : request.Plain) {tree : RelationTree}
    (built : tree.Built request.catalog) {store after : Store} {command : NestedCommand}
    (success : outcome (request.run tree.toPlan) store = (.ok (.nested command), after)) :
    command.tree = request.writer 0 tree := by
  have made := run_toPlan plain built success
  unfold Compiled.ofTree at made
  split at made
  · rw [Compiled.nested.inj made]
    rfl
  · cases made

end CompileRequest

namespace Sample

def request (type : CommandType) : CompileRequest := ⟨catalog, type, "memory", none⟩

theorem plain (type : CommandType) : (request type).Plain := ⟨overMemory, rfl⟩

end Sample

end RelationGraph
