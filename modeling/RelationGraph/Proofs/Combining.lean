import RelationGraph.Combine
import RelationGraph.Proofs.StoreSteps
import RelationGraph.Proofs.Trees

set_option autoImplicit false

namespace RelationGraph

def Relation.unrestricted (relation : Relation) : Relation := { relation with criteria := ∅ }

/-- A view that is there narrows a relation if it is given as many arguments as it has columns. -/
theorem Relation.view_of_found {relation : Relation} {name : String} {view : View}
    (found : relation.schema.views.get? name = some view) (args : List Json) :
    relation.view name args =
      if args.length = view.arity then
        .ok (relation.restrict (view.fixed.merge
          ⟨(view.columns.zip args).map fun (column, arg) => (column, .eq arg)⟩))
      else .error (.invalidInput (.wrongArity view.name view.arity args.length)) := by
  rw [Relation.view, found]
  dsimp only
  rw [View.criteriaFor]
  by_cases fits : args.length = view.arity
  · rw [if_neg (by simpa using fits), if_pos fits]
    rfl
  · rw [if_pos fits, if_neg fits]
    rfl

theorem Relation.view_of_missing {relation : Relation} {name : String}
    (missing : relation.schema.views.get? name = none) (args : List Json) :
    relation.view name args = .error (.unknownView relation.name.relation name) := by
  rw [Relation.view, missing]

namespace Catalog

def SetUp (catalog : Catalog) : Prop :=
  ∃ settings gateways schemas plugins,
    build catalog.id settings gateways schemas plugins = .ok catalog

/-- The catalog was set up, and all its gateways hold their rows in memory. -/
def OverMemory (catalog : Catalog) : Prop :=
  ∃ settings gateways schemas plugins,
    build catalog.id settings gateways schemas plugins = .ok catalog ∧
      ∀ name gateway, gateways.get? name = some gateway → gateway.InMemory

/-- What holds of every relation that a catalog knows by a name. -/
structure Registers (gateways : SortedMap String Gateway) (name : String)
    (relation : Relation) : Prop where
  named : relation.name.relation = name
  unrestricted : relation.unrestricted = relation
  gateway : ∃ label, gateways.get? label = some relation.gateway

theorem register_registers {settings : Settings} {gateways : SortedMap String Gateway}
    {schemas : List Schema} {before after : SortedMap String Relation}
    (registered : register settings gateways schemas before = .ok after)
    (known : ∀ name relation, before.get? name = some relation →
      Registers gateways name relation) :
    ∀ name relation, after.get? name = some relation → Registers gateways name relation := by
  induction schemas generalizing before with
  | nil =>
    cases registered
    exact known
  | cons schema rest ih =>
    unfold register at registered
    split at registered
    · cases registered
    · rename_i gateway found
      split at registered
      · cases registered
      · apply ih registered
        intro name relation given
        rw [SortedMap.get?_insert] at given
        split at given
        · rename_i same
          cases given
          exact ⟨same.symm, rfl, schema.gateway, found⟩
        · exact known name relation given

theorem registers_of_build {id : Nat} {settings : Settings} {gateways : SortedMap String Gateway}
    {schemas : List Schema} {plugins : Plugins} {catalog : Catalog}
    (built : build id settings gateways schemas plugins = .ok catalog) {name : String}
    {relation : Relation} (found : catalog.relation name = .ok relation) :
    Registers gateways name relation := by
  unfold build at built
  obtain ⟨relations, registered, rest⟩ := Except.bind_eq_ok.mp built
  split at rest
  · cases rest
  · have all := register_registers registered fun _ _ given => by cases given
    have same : catalog.relations = relations := by
      rw [← (Except.ok.inj rest : _ = catalog)]
    unfold Catalog.relation at found
    split at found
    · rename_i known
      cases found
      rw [same] at known
      exact all name relation known
    · cases found

theorem OverMemory.setUp {catalog : Catalog} (setup : catalog.OverMemory) : catalog.SetUp := by
  obtain ⟨settings, gateways, schemas, plugins, built, _⟩ := setup
  exact ⟨settings, gateways, schemas, plugins, built⟩

theorem SetUp.relation {catalog : Catalog} (setup : catalog.SetUp) {name : String}
    {relation : Relation} (found : catalog.relation name = .ok relation) :
    relation.name.relation = name ∧ relation.unrestricted = relation := by
  obtain ⟨settings, gateways, schemas, plugins, built⟩ := setup
  have registers := registers_of_build built found
  exact ⟨registers.named, registers.unrestricted⟩

theorem OverMemory.relation {catalog : Catalog} (setup : catalog.OverMemory) {name : String}
    {relation : Relation} (found : catalog.relation name = .ok relation) :
    relation.name.relation = name ∧ relation.unrestricted = relation ∧
      relation.gateway.InMemory := by
  obtain ⟨settings, gateways, schemas, plugins, built, inMemory⟩ := setup
  obtain ⟨named, unrestricted, label, gateway⟩ := registers_of_build built found
  exact ⟨named, unrestricted, inMemory label _ gateway⟩

end Catalog

namespace Attachment

mutual

def targets : Attachment → List RelationTree
  | .association _ nested => targetsIn nested
  | .explicit _ _ target _ => [target]

def targetsIn : List Attachment → List RelationTree
  | [] => []
  | entry :: rest => targets entry ++ targetsIn rest

end

end Attachment

namespace RelationTree

/-- A tree that can be had from a catalog by narrowing and combining. -/
inductive Built (catalog : Catalog) : RelationTree → Prop
  | ofCatalog {name : String} {tree : RelationTree}
      (found : RelationTree.ofCatalog catalog name = .ok tree) : Built catalog tree
  | restrict {tree : RelationTree} (criteria : Criteria) (built : Built catalog tree) :
      Built catalog (tree.restrict criteria)
  | whereEq {tree : RelationTree} (column : String) (value : Json)
      (built : Built catalog tree) : Built catalog (tree.whereEq column value)
  | view {tree viewed : RelationTree} {name : String} {args : List Json}
      (built : Built catalog tree) (success : tree.view name args = .ok viewed) :
      Built catalog viewed
  | combined {tree : RelationTree} (name : String) (keys : JoinKeys)
      (cardinality : Cardinality) (built : Built catalog tree) :
      Built catalog (tree.combined name keys cardinality)
  | combine {tree combined : RelationTree} {entries : List Attachment}
      (built : Built catalog tree)
      (targets : ∀ target ∈ Attachment.targetsIn entries, Built catalog target)
      (success : tree.combine catalog entries = .ok combined) : Built catalog combined
  | attachParents {tree attached : RelationTree} {groups : List AttachGroup}
      (built : Built catalog tree)
      (targets : ∀ group ∈ groups, ∀ target ∈ group.targets, Built catalog target.2)
      (success : tree.attachParents catalog groups = .ok attached) : Built catalog attached
  | attachChildren {tree attached : RelationTree} {groups : List AttachGroup}
      (built : Built catalog tree)
      (targets : ∀ group ∈ groups, ∀ target ∈ group.targets, Built catalog target.2)
      (success : tree.attachChildren catalog groups = .ok attached) : Built catalog attached

/-- A node that says how it is combined, and under its own name. -/
structure Annotated (node : RelationTree) : Prop where
  cardinality : node.link.cardinality.isSome = true
  name : node.link.name = some node.name

theorem annotated_combined (tree : RelationTree) (name : String) (keys : JoinKeys)
    (cardinality : Cardinality) : (tree.combined name keys cardinality).Annotated := ⟨rfl, rfl⟩

theorem mem_placeNode {node other : RelationTree} {nodes : List RelationTree}
    (member : other ∈ placeNode node nodes) : other = node ∨ other ∈ nodes := by
  induction nodes with
  | nil => simpa [placeNode] using member
  | cons head rest ih =>
    unfold placeNode at member
    split at member
    · rcases List.mem_cons.mp member with here | later
      · exact Or.inl here
      · exact Or.inr (List.mem_cons_of_mem _ later)
    · rcases List.mem_cons.mp member with here | later
      · exact Or.inr (here ▸ List.mem_cons_self)
      · exact (ih later).imp id (List.mem_cons_of_mem _)

theorem nodup_placeNode {node : RelationTree} {nodes : List RelationTree}
    (distinct : (nodes.map (·.name)).Nodup) : ((placeNode node nodes).map (·.name)).Nodup := by
  induction nodes with
  | nil => simp [placeNode]
  | cons head rest ih =>
    obtain ⟨fresh, distinct⟩ := List.nodup_cons.mp distinct
    unfold placeNode
    split
    · rename_i same
      rw [List.map_cons, ← same]
      exact List.nodup_cons.mpr ⟨fresh, distinct⟩
    · rename_i different
      refine List.nodup_cons.mpr ⟨fun given => ?_, ih distinct⟩
      obtain ⟨other, member, same⟩ := List.mem_map.mp given
      rcases mem_placeNode member with rfl | inside
      · exact different same.symm
      · exact fresh (same ▸ List.mem_map_of_mem inside)

/-- What holds throughout every tree over a catalog. -/
inductive Sound (catalog : Catalog) : RelationTree → Prop
  | intro {tree : RelationTree}
      (registered : catalog.relation tree.baseName.relation = .ok tree.relation.unrestricted)
      (distinct : (tree.nodes.map (·.name)).Nodup)
      (annotated : ∀ node ∈ tree.nodes, node.Annotated)
      (keyed : ∀ node ∈ tree.nodes, node.link.keys.isEmpty = false)
      (nodes : ∀ node ∈ tree.nodes, Sound catalog node) : Sound catalog tree

namespace Sound

variable {catalog : Catalog}

theorem registered {tree : RelationTree} (sound : Sound catalog tree) :
    catalog.relation tree.baseName.relation = .ok tree.relation.unrestricted := by
  cases sound
  assumption

theorem of_mem_subtrees {tree node : RelationTree} (sound : Sound catalog tree)
    (inside : node ∈ tree.subtrees) : Sound catalog node := by
  induction tree using induction with
  | step tree ih =>
    rw [subtrees_eq] at inside
    rcases List.mem_cons.mp inside with rfl | below
    · exact sound
    · obtain ⟨top, child, within⟩ := mem_subtreesIn.mp below
      cases sound with
      | intro _ _ _ _ nodes => exact ih top child (nodes top child) within

theorem replace {tree other : RelationTree} (sound : Sound catalog tree)
    (relation : other.relation.unrestricted = tree.relation.unrestricted)
    (nodes : other.nodes = tree.nodes) : Sound catalog other := by
  cases sound with
  | intro registered distinct annotated keyed inner =>
    have base : other.baseName = tree.baseName := congrArg (·.schema.name) relation
    exact .intro (by rw [base, relation]; exact registered) (by rw [nodes]; exact distinct)
      (by rw [nodes]; exact annotated) (by rw [nodes]; exact keyed) (by rw [nodes]; exact inner)

theorem ofCatalog (setup : catalog.SetUp) {name : String} {tree : RelationTree}
    (found : RelationTree.ofCatalog catalog name = .ok tree) : Sound catalog tree := by
  unfold RelationTree.ofCatalog at found
  cases known : catalog.relation name with
  | error error =>
    rw [known] at found
    cases found
  | ok relation =>
    rw [known] at found
    cases found
    obtain ⟨named, unrestricted⟩ := setup.relation known
    refine .intro ?_ List.nodup_nil (by simp [ofRelation]) (by simp [ofRelation])
      (by simp [ofRelation])
    simpa only [baseName, ofRelation, named, unrestricted] using known

theorem view {tree viewed : RelationTree} {name : String} {args : List Json}
    (sound : Sound catalog tree) (success : tree.view name args = .ok viewed) :
    Sound catalog viewed := by
  obtain ⟨relation, narrowed, rest⟩ := Except.bind_eq_ok.mp success
  cases rest
  refine sound.replace ?_ rfl
  unfold Relation.view at narrowed
  split at narrowed
  · cases narrowed
  · obtain ⟨criteria, _, rest⟩ := Except.bind_eq_ok.mp narrowed
    cases rest
    rfl

theorem throughAssociation {tree viewed : RelationTree} {association : Association}
    (sound : Sound catalog tree)
    (success : tree.throughAssociation association = .ok viewed) : Sound catalog viewed := by
  unfold RelationTree.throughAssociation at success
  split at success
  · exact sound.view success
  · cases success
    exact sound

theorem attach {tree node attached : RelationTree} (sound : Sound catalog tree)
    (inner : Sound catalog node) (annotated : node.Annotated)
    (success : tree.attach node = .ok attached) : Sound catalog attached := by
  unfold RelationTree.attach at success
  split at success
  · cases success
  · rename_i keyed
    cases success
    cases sound with
    | intro registered distinct others keys nodes =>
      refine .intro registered (nodup_placeNode distinct) ?_ ?_ ?_
      · intro other member
        rcases mem_placeNode member with rfl | given
        · exact annotated
        · exact others other given
      · intro other member
        rcases mem_placeNode member with rfl | given
        · simpa using keyed
        · exact keys other given
      · intro other member
        rcases mem_placeNode member with rfl | given
        · exact inner
        · exact nodes other given

end Sound

/-- Finding keys and views for an entry yields one of its trees, annotated. -/
theorem explicitNode_sound {catalog : Catalog} {tree target node : RelationTree}
    {cardinality : Cardinality} {name : String} {keys : Option JoinKeys}
    (sound : Sound catalog target)
    (found : explicitNode catalog tree cardinality name target keys = .ok node) :
    Sound catalog node ∧ node.Annotated := by
  have seen : ∃ child, Sound catalog child ∧ (do
      let keys ← keysFor catalog tree cardinality name target keys
      return child.combined name keys cardinality) = .ok node := by
    unfold explicitNode at found
    split at found
    · split at found
      · exact ⟨target, sound, found⟩
      · obtain ⟨child, seen, found⟩ := Except.bind_eq_ok.mp found
        exact ⟨child, sound.throughAssociation seen, found⟩
    · exact ⟨target, sound, found⟩
  obtain ⟨child, inner, made⟩ := seen
  obtain ⟨keys, _, made⟩ := Except.bind_eq_ok.mp made
  cases made
  exact ⟨inner.replace rfl rfl, annotated_combined _ _ _ _⟩

mutual

theorem nodeFor_sound {catalog : Catalog} (setup : catalog.SetUp) {tree node : RelationTree}
    (entry : Attachment) (targets : ∀ target ∈ entry.targets, Sound catalog target)
    (found : nodeFor catalog tree entry = .ok node) : Sound catalog node ∧ node.Annotated := by
  cases entry with
  | association name nested =>
    obtain ⟨association, _, found⟩ := Except.bind_eq_ok.mp found
    obtain ⟨target, known, found⟩ := Except.bind_eq_ok.mp found
    obtain ⟨viewed, seen, found⟩ := Except.bind_eq_ok.mp found
    obtain ⟨combined, success, found⟩ := Except.bind_eq_ok.mp found
    obtain ⟨keys, _, found⟩ := Except.bind_eq_ok.mp found
    cases found
    have inner := combine_sound setup nested targets
      ((Sound.ofCatalog setup known).throughAssociation seen) success
    exact ⟨inner.replace rfl rfl, annotated_combined _ _ _ _⟩
  | explicit cardinality name target keys =>
    exact explicitNode_sound (targets target (by simp [Attachment.targets])) found

theorem combine_sound {catalog : Catalog} (setup : catalog.SetUp)
    {tree combined : RelationTree} (entries : List Attachment)
    (targets : ∀ target ∈ Attachment.targetsIn entries, Sound catalog target)
    (sound : Sound catalog tree) (success : tree.combine catalog entries = .ok combined) :
    Sound catalog combined := by
  cases entries with
  | nil =>
    cases success
    exact sound
  | cons entry rest =>
    obtain ⟨node, found, success⟩ := Except.bind_eq_ok.mp success
    obtain ⟨attached, placed, success⟩ := Except.bind_eq_ok.mp success
    obtain ⟨inner, annotated⟩ := nodeFor_sound setup entry
      (fun target member => targets target (List.mem_append_left _ member)) found
    exact combine_sound setup rest
      (fun target member => targets target (List.mem_append_right _ member))
      (sound.attach inner annotated placed) success

end

theorem mem_targetsIn {target : RelationTree} {entries : List Attachment} :
    target ∈ Attachment.targetsIn entries ↔ ∃ entry ∈ entries, target ∈ entry.targets := by
  induction entries with
  | nil => simp [Attachment.targetsIn]
  | cons entry rest ih => simp [Attachment.targetsIn, ih]

theorem attachGroups_sound {catalog : Catalog} (setup : catalog.SetUp)
    {tree attached : RelationTree} {direction : JoinDirection} {groups : List AttachGroup}
    (sound : Sound catalog tree)
    (targets : ∀ group ∈ groups, ∀ target ∈ group.targets, Sound catalog target.2)
    (success : tree.attachGroups catalog direction groups = .ok attached) :
    Sound catalog attached := by
  obtain ⟨entries, found, success⟩ := Except.bind_eq_ok.mp success
  refine combine_sound setup entries.flatten ?_ sound success
  intro target member
  obtain ⟨entry, inside, brought⟩ := mem_targetsIn.mp member
  obtain ⟨list, listed, inside⟩ := List.mem_flatten.mp inside
  -- Every entry comes from a group and holds the tree that the group gave.
  obtain ⟨group, given, made⟩ := Except.mem_of_mapM found listed
  obtain ⟨⟨label, source⟩, here, entered⟩ := Except.mem_of_mapM made inside
  have own : entry.targets = [source] := by
    cases direction <;>
    · obtain ⟨keys, _, entered⟩ := Except.bind_eq_ok.mp entered
      cases entered
      rfl
  rw [own, List.mem_singleton] at brought
  exact brought ▸ targets group given (label, source) here

/-- Every tree built over a catalog is sound. -/
theorem Built.sound_of_setUp {catalog : Catalog} (setup : catalog.SetUp) {tree : RelationTree}
    (built : Built catalog tree) : Sound catalog tree := by
  induction built with
  | ofCatalog found => exact Sound.ofCatalog setup found
  | restrict criteria built ih => exact ih.replace rfl rfl
  | whereEq column value built ih => exact ih.replace rfl rfl
  | view built success ih => exact ih.view success
  | combined name keys cardinality built ih => exact ih.replace rfl rfl
  | combine built targets success ih inner => exact combine_sound setup _ inner ih success
  | attachParents built targets success ih inner => exact attachGroups_sound setup ih inner success
  | attachChildren built targets success ih inner =>
    exact attachGroups_sound setup ih inner success

theorem Built.sound {catalog : Catalog} (setup : catalog.OverMemory) {tree : RelationTree}
    (built : Built catalog tree) : Sound catalog tree :=
  built.sound_of_setUp setup.setUp

theorem Built.combineTree {catalog : Catalog} {tree target combined : RelationTree}
    (built : Built catalog tree) (inner : Built catalog target) (cardinality : Cardinality)
    (name : String) (keys : JoinKeys)
    (success : tree.combine catalog [.explicit cardinality name target (some keys)] =
      .ok combined) : Built catalog combined := by
  refine .combine built ?_ success
  intro other member
  rw [Attachment.targetsIn, Attachment.targets, Attachment.targetsIn, List.append_nil,
    List.mem_singleton] at member
  exact member ▸ inner

end RelationTree

/-! ### A catalog with two levels of nesting -/

namespace Sample

def relation (name : String) : Relation :=
  ⟨Catalog.withDefaults .standard (.named name), .plain 0 "memory", ∅⟩

def catalog : Catalog where
  id := 0
  settings := .standard
  relations := .ofList
    [("users", relation "users"), ("tasks", relation "tasks"), ("tags", relation "tags")]
  gateways := .ofList [("default", .plain 0 "memory")]
  plugins := ∅

theorem overMemory : catalog.OverMemory := by
  refine ⟨.standard, .ofList [("default", .plain 0 "memory")],
    [.named "users", .named "tasks", .named "tags"], ∅, rfl, ?_⟩
  intro name gateway found
  change (if name = "default" then some (Gateway.plain 0 "memory") else none) = _ at found
  split at found
  · cases found
    exact Gateway.inMemory_plain 0 "memory"
  · cases found

def store (datasets : List (String × List Tuple)) : Store :=
  .ofList [(0, ⟨.ofList (datasets.map fun (name, rows) => (name, ⟨rows, 0⟩)), 0⟩)]

def tree (name : String) (nodes : List RelationTree) : RelationTree :=
  ⟨relation name, name, .root, nodes⟩

def many (name : String) (pairs : List (String × String)) (target : RelationTree) :
    RelationTree :=
  target.combined name (.ofList pairs) .many

/-- Tasks with their tags, which are found by kind and title. -/
def tasks : RelationTree :=
  tree "tasks" [many "tags" [("kind", "kind"), ("title", "task")] (tree "tags" [])]

def users : RelationTree := tree "users" [many "tasks" [("id", "user_id")] tasks]

theorem built_leaf (name : String)
    (found : RelationTree.ofCatalog catalog name = .ok (tree name [])) :
    (tree name []).Built catalog :=
  .ofCatalog found

theorem built_tasks : tasks.Built catalog :=
  (built_leaf "tasks" rfl).combineTree (built_leaf "tags" rfl) .many "tags"
    (.ofList [("kind", "kind"), ("title", "task")]) rfl

theorem built_users : users.Built catalog :=
  (built_leaf "users" rfl).combineTree built_tasks .many "tasks" (.ofList [("id", "user_id")]) rfl

end Sample

end RelationGraph
