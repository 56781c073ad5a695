import RelationGraph.Proofs.WellFormedPlans

set_option autoImplicit false

namespace RelationGraph

namespace Plan

theorem placesIn_attributes_append (depth : Nat) (names : List String) (plans : List Plan) :
    placesIn depth (names.map Plan.attribute ++ plans) = placesIn depth plans := by
  induction names with
  | nil => rfl
  | cons name rest ih =>
    rw [List.map_cons, List.cons_append, placesIn, ih]
    rfl

end Plan

namespace RelationTree

variable {catalog : Catalog} {tree : RelationTree}

theorem places_toPlan (tree : RelationTree) (depth : Nat) :
    tree.toPlan.places depth =
      ⟨depth, tree.name, tree.baseName, tree.link⟩ ::
        Plan.placesIn (depth + 1) (toPlans tree.nodes) := by
  cases tree
  rw [toPlan, Plan.places, Plan.placesIn_attributes_append]
  rfl

theorem mem_placesIn_toPlans {depth : Nat} {trees : List RelationTree} {place : Place} :
    place ∈ Plan.placesIn depth (toPlans trees) ↔
      ∃ tree ∈ trees, place ∈ tree.toPlan.places depth := by
  induction trees with
  | nil => simp [toPlans, Plan.placesIn]
  | cons tree rest ih => simp [toPlans, Plan.placesIn, ih]

/-- Nodes beside each other have different names, and each is linked to the tree above it. -/
theorem Sound.nodes_linked (sound : Sound catalog tree) :
    (tree.nodes.map (·.name)).Nodup ∧
      ∀ node ∈ tree.nodes, node.Annotated ∧ node.link.keys.isEmpty = false := by
  cases sound with
  | intro _ distinct annotated keyed _ =>
    exact ⟨distinct, fun node child => ⟨annotated node child, keyed node child⟩⟩

/-- Nothing but its depth can be wrong with a relation in the plan of a sound tree, if nothing but
its depth can be wrong with the root. -/
theorem Sound.places (sound : Sound catalog tree) {depth : Nat}
    (root : 0 < depth → tree.link.cardinality.isSome = true ∧ tree.link.keys.isEmpty = false) :
    ∀ place ∈ tree.toPlan.places depth,
      place.depth ≤ catalog.settings.maxPlanDepth → place.Sound catalog := by
  induction tree using induction generalizing depth with
  | step tree ih =>
    intro place member shallow
    rw [places_toPlan] at member
    rcases List.mem_cons.mp member with rfl | below
    · exact ⟨shallow, fun nested => (root nested).1, fun nested => (root nested).2, _,
        sound.registered⟩
    · obtain ⟨node, child, inside⟩ := mem_placesIn_toPlans.mp below
      obtain ⟨annotated, keyed⟩ := sound.nodes_linked.2 node child
      have inner := sound.of_mem_subtrees (mem_subtrees_of_mem_nodes child node.self_mem_subtrees)
      exact ih node child inner (fun _ => ⟨annotated.cardinality, keyed⟩) place inside shallow

/-- The plan of a sound tree is well-formed unless it is too deep. -/
theorem Sound.wellFormed_iff (sound : Sound catalog tree) :
    tree.toPlan.WellFormed catalog ↔
      tree.toPlan.depth ≤ catalog.settings.maxPlanDepth + 1 := by
  have limit := tree.toPlan.depth_places_le_iff 0 catalog.settings.maxPlanDepth
  constructor
  · intro formed
    have shallow := limit.mp fun place member => (formed.places place member).shallow
    omega
  · intro shallow
    refine ⟨?_, fun place member => ?_⟩
    · cases tree
      exact ⟨_, _, _, _, rfl⟩
    · exact sound.places (fun root => absurd root (Nat.lt_irrefl 0)) place member
        (limit.mpr (Or.inr (by omega)) place member)

theorem Sound.eq_tooDeep_of_refused (sound : Sound catalog tree) {fault : Fault}
    (refused : tree.toPlan.Refused catalog fault) :
    fault = .malformedPlan (.tooDeep catalog.settings.maxPlanDepth) := by
  have places := sound.places (fun root => absurd root (Nat.lt_irrefl 0))
  cases tree
  cases refused with
  | relation split _ offends =>
    exact offends.eq_tooDeep (places _ (split ▸ List.mem_append_right _ List.mem_cons_self))

/-- Whatever is built over the catalog of a compiler: nodes beside each other have different names,
every node is linked to the one above it under its own name, and wherever requests have led, the
compiler makes commands of every type for the tree unless it is too deep. -/
theorem Built.compiles_unless_tooDeep {directory : Directory} {workspace : Workspace}
    (reached : directory.Reached workspace) {compiler : Compiler}
    (listed : directory.catalogs compiler.catalog.id = compiler.catalog)
    (setup : compiler.catalog.SetUp) (built : tree.Built compiler.catalog) :
    (∀ node ∈ tree.subtrees, (node.nodes.map (·.name)).Nodup ∧
        ∀ child ∈ node.nodes, child.link.cardinality.isSome = true ∧
          child.link.keys.isEmpty = false ∧ child.link.name = some child.name) ∧
      ∀ (type : CommandType) (adapter : String),
        let limit := compiler.catalog.settings.maxPlanDepth
        let answer :=
          (WorkM.outcome (compiler.compile type.name adapter tree.toPlan none) workspace).1
        ((∃ made, answer = .ok made) ↔ tree.toPlan.depth ≤ limit + 1) ∧
          ∀ fault, answer = .error fault → fault = .malformedPlan (.tooDeep limit) := by
  have sound := built.sound_of_setUp setup
  refine ⟨fun node inside => ?_, fun type adapter => ?_⟩
  · obtain ⟨distinct, linked⟩ := (sound.of_mem_subtrees inside).nodes_linked
    refine ⟨distinct, fun child member => ?_⟩
    obtain ⟨annotated, keyed⟩ := linked child member
    exact ⟨annotated.cardinality, keyed, annotated.name⟩
  · obtain ⟨answer, after, ran, accepted, refused, _⟩ :=
      Compiler.outcome_compile reached listed type adapter tree.toPlan
    rw [ran]
    exact ⟨accepted.trans sound.wellFormed_iff,
      fun fault failed => sound.eq_tooDeep_of_refused ((refused fault).mp failed)⟩

/-- Users with their tasks and the tags of these. -/
theorem Built.compiles_unless_tooDeep_users :
    Sample.directory.Reached Sample.visited ∧ Sample.directory.catalogs 0 = Sample.catalog ∧
      Sample.catalog.SetUp ∧ Sample.users.Built Sample.catalog ∧
      (∀ node ∈ Sample.users.subtrees, (node.nodes.map (·.name)).Nodup ∧
        ∀ child ∈ node.nodes, child.link.cardinality.isSome = true ∧
          child.link.keys.isEmpty = false ∧ child.link.name = some child.name) ∧
      ∀ (type : CommandType) (adapter : String),
        let limit := Sample.catalog.settings.maxPlanDepth
        let answer := (WorkM.outcome (Compiler.compile ⟨Sample.catalog, 0⟩ type.name adapter
          Sample.users.toPlan none) Sample.visited).1
        ((∃ made, answer = .ok made) ↔ Sample.users.toPlan.depth ≤ limit + 1) ∧
          ∀ fault, answer = .error fault → fault = .malformedPlan (.tooDeep limit) :=
  ⟨Sample.reached_visited, rfl, Sample.overMemory.setUp, Sample.built_users,
    compiles_unless_tooDeep Sample.reached_visited rfl Sample.overMemory.setUp Sample.built_users⟩

end RelationTree

end RelationGraph
