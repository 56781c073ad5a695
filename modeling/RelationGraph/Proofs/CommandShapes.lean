import RelationGraph.Compiler
import RelationGraph.StructLayout
import RelationGraph.Proofs.Compilation
import RelationGraph.Proofs.CompiledPlans

set_option autoImplicit false

namespace RelationGraph

open StoreM

/-- The gateways of the relations leave commands as they are. -/
def Catalog.Unhooked (catalog : Catalog) : Prop :=
  ∀ name relation, catalog.relation name = .ok relation →
    ∀ template, relation.gateway.configure template = template

theorem Catalog.OverMemory.unhooked {catalog : Catalog} (setup : catalog.OverMemory) :
    catalog.Unhooked := fun _ _ found => (setup.relation found).2.2.configures

theorem CommandTree.size_eq (tree : CommandTree) : tree.size = 1 + sizeAll tree.nodes := by
  cases tree
  rfl

namespace CompileRequest

/-- A command that a relation of a plan and its place determine. -/
structure Reflects (request : CompileRequest) (node : PlanTree) (parentKeys : Option JoinKeys)
    (command : Command) : Prop where
  registered : request.catalog.relation node.base.relation = .ok command.relation
  named : command.name.relation = node.base.relation
  unrestricted : command.relation.criteria = ∅
  type : command.type = request.type
  adapter : command.template.adapter = request.adapter
  result : command.template.result = node.link.cardinality.getD .one
  parentKeys : command.template.parentKeys = parentKeys
  inputs : command.template.inputs = []
  outputs : command.outputs = []

/-- A tree of commands in the form of a relation below the root and those below it. -/
inductive Mirrors (request : CompileRequest) : PlanTree → CommandTree → Prop
  | intro {node : PlanTree} {tree : CommandTree} (key : tree.key = node.name)
      (command : request.Reflects node (some node.link.keys.invert) tree.command)
      (combined : node.link.cardinality = some tree.command.template.result)
      (nodes : List.Forall₂ (Mirrors request) node.nodes tree.nodes) : Mirrors request node tree

/-- A tree of commands in the form of a root and the relations below it. -/
structure MirrorsRoot (request : CompileRequest) (node : PlanTree) (tree : CommandTree) :
    Prop where
  key : tree.key = node.base.relation
  command : request.Reflects node none tree.command
  nodes : List.Forall₂ request.Mirrors node.nodes tree.nodes

variable {request : CompileRequest}

theorem sizeAll_eq {nodes : List PlanTree} {trees : List CommandTree}
    (sizes : List.Forall₂ (fun node tree => tree.size = node.bases.length) nodes trees) :
    CommandTree.sizeAll trees = (PlanTree.basesIn nodes).length := by
  induction sizes with
  | nil => rfl
  | cons size _ ih => rw [CommandTree.sizeAll, PlanTree.basesIn, List.length_append, size, ih]

theorem Makes.size {node : PlanTree} {tree : CommandTree} (made : request.Makes node tree) :
    tree.size = node.bases.length := by
  induction node using PlanTree.induction generalizing tree with
  | step node ih =>
    cases made with
    | intro _ _ _ _ nodes =>
      have sizes := ((List.forall₂_and_left ..).mpr ⟨ih, nodes⟩).imp fun _ _ both => both.1 both.2
      rw [CommandTree.size_eq, sizeAll_eq sizes, PlanTree.bases_eq, List.length_cons, Nat.add_comm]

theorem MakesAt.size {depth : Nat} {node : PlanTree} {tree : CommandTree}
    (made : request.MakesAt depth node tree) : tree.size = node.bases.length := by
  have sizes := made.nodes.imp fun _ _ inner => inner.size
  rw [CommandTree.size_eq, sizeAll_eq sizes, PlanTree.bases_eq, List.length_cons, Nat.add_comm]

theorem MakesAt.isNested_iff {depth : Nat} {node : PlanTree} {tree : CommandTree}
    (made : request.MakesAt depth node tree) : tree.isNested = true ↔ node.nodes ≠ [] := by
  have lengths := made.nodes.length_eq
  rw [CommandTree.isNested, Bool.not_eq_true', List.isEmpty_eq_false_iff, ne_eq, ne_eq,
    ← List.length_eq_zero_iff, ← List.length_eq_zero_iff, lengths]

/-- What a gateway is given to configure is what it leaves, where it configures nothing. -/
theorem reflects_of_binds (setup : request.catalog.SetUp) (unhooked : request.catalog.Unhooked)
    (uncustomized : request.customization = none) {node : PlanTree} {depth : Nat}
    {command : Command} (binds : request.Binds node.base node.link depth command) :
    request.Reflects node (if depth = 0 then none else some node.link.keys.invert) command := by
  obtain ⟨named, unrestricted⟩ := setup.relation binds.relation
  have made := binds.template
  rw [template, uncustomized, unhooked _ _ binds.relation] at made
  have same := Except.ok.inj made
  refine ⟨binds.relation, named, congrArg Relation.criteria unrestricted.symm, ?_, ?_, ?_, ?_, ?_,
    binds.outputs⟩
  · rw [Command.type, ← same]
    unfold initialTemplate
    split <;> rfl
  · rw [← same]
    unfold initialTemplate
    split <;> rfl
  · rw [← same]
    rfl
  · rw [← same]
    unfold initialTemplate
    split <;> rfl
  · rw [← same]
    unfold initialTemplate
    split <;> rfl

theorem Makes.mirrors (setup : request.catalog.SetUp) (unhooked : request.catalog.Unhooked)
    (uncustomized : request.customization = none) {node : PlanTree} {tree : CommandTree}
    (made : request.Makes node tree) : request.Mirrors node tree := by
  induction node using PlanTree.induction generalizing tree with
  | step node ih =>
    cases made with
    | intro key annotated _ binds nodes =>
      have command := reflects_of_binds setup unhooked uncustomized binds
      have combined : node.link.cardinality = some tree.command.template.result := by
        rw [command.result]
        obtain ⟨cardinality, given⟩ := Option.isSome_iff_exists.mp annotated
        rw [given]
        rfl
      exact .intro key command combined
        (((List.forall₂_and_left ..).mpr ⟨ih, nodes⟩).imp fun _ _ both => both.1 both.2)

end CompileRequest

namespace PlanTree

/-- A struct layout in the form of a relation and those below it. -/
inductive Lays : PlanTree → StructLayout → Prop
  | intro {node : PlanTree} {layout : StructLayout} (name : layout.name = node.name)
      (cardinality : layout.cardinality = node.link.cardinality.getD .one)
      (nodes : List.Forall₂ Lays node.nodes layout.nodes) : Lays node layout

end PlanTree

mutual

theorem Plan.lays_layoutsOf (plan : Plan) :
    List.Forall₂ PlanTree.Lays plan.trees (StructLayout.layoutsOf plan) := by
  match plan with
  | .relation name base link content => exact .cons (.intro rfl rfl (lays_layoutsIn content)) .nil
  | .header nodes =>
    rw [Plan.trees, StructLayout.layoutsOf]
    exact lays_layoutsIn nodes
  | .attribute name => exact .nil

theorem Plan.lays_layoutsIn (plans : List Plan) :
    List.Forall₂ PlanTree.Lays (Plan.treesIn plans) (StructLayout.layoutsIn plans) := by
  match plans with
  | [] => exact .nil
  | plan :: rest =>
    rw [Plan.treesIn, StructLayout.layoutsIn]
    exact List.rel_append (lays_layoutsOf plan) (lays_layoutsIn rest)

end

/-- A struct layout of the shape of a command and those below it, with the same names. -/
inductive CommandTree.Fits : CommandTree → StructLayout → Prop
  | intro {tree : CommandTree} {layout : StructLayout} (name : layout.name = tree.key)
      (cardinality : layout.cardinality = tree.command.template.result)
      (nodes : List.Forall₂ Fits tree.nodes layout.nodes) : Fits tree layout

namespace CompileRequest

variable {request : CompileRequest}

theorem fits_nodes {nodes : List PlanTree} {trees : List CommandTree}
    {layouts : List StructLayout}
    (each : ∀ node ∈ nodes, ∀ tree layout, request.Mirrors node tree → node.Lays layout →
      tree.Fits layout)
    (mirrors : List.Forall₂ request.Mirrors nodes trees)
    (lays : List.Forall₂ PlanTree.Lays nodes layouts) :
    List.Forall₂ CommandTree.Fits trees layouts := by
  induction mirrors generalizing layouts with
  | nil =>
    cases lays
    exact .nil
  | cons here _ ih =>
    cases lays with
    | cons laid rest =>
      obtain ⟨first, others⟩ := List.forall_mem_cons.mp each
      exact .cons (first _ _ here laid) (ih others rest)

/-- The commands and the struct layout for a relation of a plan have the same shape. -/
theorem Mirrors.fits {node : PlanTree} {tree : CommandTree} {layout : StructLayout}
    (mirrors : request.Mirrors node tree) (lays : node.Lays layout) : tree.Fits layout := by
  induction node using PlanTree.induction generalizing tree layout with
  | step node ih =>
    cases mirrors with
    | intro key command _ trees =>
      cases lays with
      | intro name cardinality layouts =>
        exact .intro (name.trans key.symm) (cardinality.trans command.result.symm)
          (fits_nodes (fun child member _ _ => ih child member) trees layouts)

/-- A plan that is compiled without hooks and customization is a relation, and its commands mirror
it: there is one for every relation, in the order of the plan, and each is what its place in the
plan says. Where there is a relation below the root they are nested, and otherwise the root is
alone. The struct layout of the plan has the same shape. -/
theorem run_mirrors (setup : request.catalog.SetUp) (unhooked : request.catalog.Unhooked)
    (uncustomized : request.customization = none) {plan : Plan} {store after : Store}
    {compiled : Compiled} (success : outcome (request.run plan) store = (.ok compiled, after)) :
    ∃ name base link content tree layout, plan = .relation name base link content ∧
      (compiled.isNested = true ↔
        ∃ name base link inner, Plan.Among (.relation name base link inner) content) ∧
      (compiled = .nested ⟨tree, []⟩ ∨ compiled = .flat tree.command) ∧
      tree.size = plan.bases.length ∧
      request.MirrorsRoot ⟨name, base, link, Plan.treesIn content⟩ tree ∧
      StructLayout.ofPlan plan = .ok layout ∧
      layout.name = name ∧
      List.Forall₂ CommandTree.Fits tree.nodes layout.nodes := by
  obtain ⟨gateways, ran, holds⟩ := request.outcome_run plan
  have given : request.result plan = .ok compiled :=
    congrArg Prod.fst ((ran store).symm.trans success)
  obtain ⟨⟨name, base, link, content, tree, rfl, made, rfl⟩, _⟩ := holds compiled given
  have command := reflects_of_binds setup unhooked uncustomized made.binds
  have nodes := made.nodes.imp fun _ _ inner => inner.mirrors setup unhooked uncustomized
  have nested : (Compiled.ofTree tree).isNested = tree.isNested := by
    unfold Compiled.ofTree
    split
    · rename_i nested
      exact nested.symm
    · rename_i flat
      exact (Bool.eq_false_iff.mpr flat).symm
  refine ⟨name, base, link, content, tree, _, rfl, ?_, ?_, ?_, ⟨made.key, command, nodes⟩, rfl,
    rfl, ?_⟩
  · rw [nested, made.isNested_iff, Plan.treesIn_ne_nil_iff]
  · unfold Compiled.ofTree
    split
    · exact Or.inl rfl
    · exact Or.inr rfl
  · rw [made.size, PlanTree.bases_eq, Plan.basesIn_treesIn, Plan.bases]
  · exact fits_nodes (fun _ _ _ _ mirrors lays => mirrors.fits lays) nodes
      (Plan.lays_layoutsIn content)

end CompileRequest

namespace Sample

/-- Users with tasks and tags, grouped by headers inside headers. -/
def grouped : Plan :=
  .relation "people" ⟨"users", "users"⟩ .root
    [.attribute "name",
      .header [.header [],
        .relation "tasks" ⟨"tasks", "tasks"⟩ ⟨.ofList [("id", "user_id")], some .many, some "tasks"⟩
          [.header [.header [.attribute "title",
            .relation "label" ⟨"tags", "tags"⟩
              ⟨.ofList [("title", "task")], some .one, none⟩ []]]]],
      .relation "tags" ⟨"tags", "tags"⟩ ⟨.ofList [("id", "user_id")], some .many, some "tags"⟩ []]

end Sample

namespace CompileRequest

/-- A plan with headers that group relations, and with one that groups nothing. -/
theorem run_mirrors_grouped :
    ∃ compiled after,
      outcome ((Sample.request .create).run Sample.grouped) ∅ = (.ok compiled, after) ∧
      ∃ name base link content tree layout,
        Sample.grouped = .relation name base link content ∧
        (compiled.isNested = true ↔
          ∃ name base link inner, Plan.Among (.relation name base link inner) content) ∧
        (compiled = .nested ⟨tree, []⟩ ∨ compiled = .flat tree.command) ∧
        tree.size = Sample.grouped.bases.length ∧
        (Sample.request .create).MirrorsRoot ⟨name, base, link, Plan.treesIn content⟩ tree ∧
        StructLayout.ofPlan Sample.grouped = .ok layout ∧
        layout.name = name ∧
        List.Forall₂ CommandTree.Fits tree.nodes layout.nodes :=
  ⟨_, _, rfl, run_mirrors Sample.overMemory.setUp Sample.overMemory.unhooked rfl
    (rfl : outcome ((Sample.request .create).run Sample.grouped) ∅ = _)⟩

end CompileRequest

end RelationGraph
