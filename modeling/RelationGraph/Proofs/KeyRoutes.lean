import RelationGraph.Proofs.KeyInference

/-!
Which association decides the keys that nobody gives.

Keys are searched on several ways: for trees attached as children or as parents, and for entries of
a request. On each of them an association is looked up by a name, and what it knows is taken for the
keys of the two relations at hand, wherever the association leads.
-/

set_option autoImplicit false

namespace RelationGraph

/-- A way on which keys are found that nobody gives. -/
inductive KeyRoute where
  /-- The target is attached to a tree to which it refers. -/
  | children
  /-- The target is attached to a tree that refers to it. -/
  | parents
  /-- The target is given in an entry of a request. -/
  | entry (cardinality : Cardinality) (name : String)

namespace RelationTree

variable {catalog : Catalog} {tree target : RelationTree} {cardinality : Cardinality}
  {name : String}

theorem keysFor_of_found {association : Association}
    (found : tree.relation.association? name = some association) :
    tree.keysFor catalog cardinality name target none = association.keys catalog := by
  unfold keysFor
  rw [found]

theorem keysFor_of_missing (missing : tree.relation.association? name = none) :
    tree.keysFor catalog cardinality name target none =
      match cardinality with
      | .many => keysBetween catalog tree.relation target.relation .children
      | .one => .error (.unknownAssociation tree.baseName.relation name) := by
  unfold keysFor
  rw [missing]
  cases cardinality <;> rfl

end RelationTree

namespace KeyRoute

def direction : KeyRoute → JoinDirection
  | .parents => .parent
  | .children | .entry _ _ => .children

/-- The relation whose associations are searched. -/
def near (tree target : RelationTree) : KeyRoute → Relation
  | .parents => target.relation
  | .children | .entry _ _ => tree.relation

def far (tree target : RelationTree) : KeyRoute → Relation
  | .parents => tree.relation
  | .children | .entry _ _ => target.relation

def keys (catalog : Catalog) (tree target : RelationTree) : KeyRoute → Except Fault JoinKeys
  | .children => tree.keysToward catalog .children target
  | .parents => tree.keysToward catalog .parent target
  | .entry cardinality name => tree.keysFor catalog cardinality name target none

/-- The tree has got a node of the target under a name on this way. -/
def Attaches (catalog : Catalog) (tree target : RelationTree) (name : String)
    (attached : RelationTree) : KeyRoute → Prop
  | .children => ∃ groups, tree.attachChildren catalog groups = .ok attached ∧
      AttachGroup.target? groups name = some target
  | .parents => ∃ groups, tree.attachParents catalog groups = .ok attached ∧
      AttachGroup.target? groups name = some target
  | .entry cardinality label => label = name ∧ ∃ entries,
      tree.combine catalog entries = .ok attached ∧
        entries.reverse.find? (·.name = name) = some (.explicit cardinality name target none)

/-- The association that is found: under the name of the far relation, but for an entry first under
the name of the entry, and for an entry of a single tuple only there. -/
def association? (tree target : RelationTree) : KeyRoute → Option Association
  | .entry .one name => tree.relation.association? name
  | .entry .many name => (tree.relation.association? name).or
      (tree.relation.association? target.baseName.relation)
  | route => (route.near tree target).association? (route.far tree target).name.relation

/-- The keys that no association decides. -/
def defaultKeys (tree target : RelationTree) : KeyRoute → Except Fault JoinKeys
  | .entry .one name => .error (.unknownAssociation tree.baseName.relation name)
  | route => conventionalKeys (route.near tree target) (route.far tree target) route.direction

/-- The keys of the two relations that are joined: an association decides if it leads from the one
to the other. -/
def ownKeys (tree target : RelationTree) (route : KeyRoute) : Except Fault JoinKeys :=
  match route.association? tree target with
  | some association =>
    if association.target = (route.far tree target).name.relation then
      route.direction.keysOf association.fault
        (association.pair? (route.near tree target) (route.far tree target))
    else route.defaultKeys tree target
  | none => route.defaultKeys tree target

variable {catalog : Catalog} {tree target : RelationTree} {route : KeyRoute}

theorem Attaches.exists_node {name : String} {attached : RelationTree}
    (attaches : route.Attaches catalog tree target name attached) :
    ∃ node, attached.node? name = some node ∧
      route.keys catalog tree target = .ok node.link.keys := by
  cases route with
  | children | parents =>
    obtain ⟨groups, success, last⟩ := attaches
    obtain ⟨cardinality, child, keys, -, toward, placed⟩ :=
      RelationTree.node?_attachGroups success last
    exact ⟨_, placed, toward⟩
  | entry cardinality label =>
    obtain ⟨rfl, entries, success, last⟩ := attaches
    obtain ⟨node, made, placed⟩ := RelationTree.node?_combine success last
    obtain ⟨child, keys, -, found, rfl⟩ := RelationTree.explicitNode_eq_ok.mp made
    exact ⟨_, placed, found⟩

theorem keys_of_found {association : Association}
    (found : route.association? tree target = some association) {fault : Fault}
    {pair? : Option (String × String)}
    (given : association.keys catalog = JoinDirection.children.keysOf fault pair?) :
    route.keys catalog tree target = route.direction.keysOf fault pair? := by
  cases route with
  | children => exact keysBetween_of_found found given .children
  | parents => exact keysBetween_of_found found given .parent
  | entry cardinality name =>
    cases cardinality with
    | one => exact (RelationTree.keysFor_of_found found).trans given
    | many =>
      rcases Option.or_eq_some_iff.mp found with here | ⟨missing, here⟩
      · exact (RelationTree.keysFor_of_found here).trans given
      · exact (RelationTree.keysFor_of_missing missing).trans
          (keysBetween_of_found here given .children)

theorem keys_of_missing (missing : route.association? tree target = none) :
    route.keys catalog tree target = route.defaultKeys tree target := by
  cases route with
  | children => exact keysBetween_of_missing missing .children
  | parents => exact keysBetween_of_missing missing .parent
  | entry cardinality name =>
    cases cardinality with
    | one => exact RelationTree.keysFor_of_missing missing
    | many =>
      obtain ⟨unnamed, missing⟩ := Option.or_eq_none_iff.mp missing
      exact (RelationTree.keysFor_of_missing unnamed).trans
        (keysBetween_of_missing missing .children)

theorem relation_near (declared : catalog.Declared) (built : tree.Built catalog)
    (inner : target.Built catalog) (route : KeyRoute) :
    catalog.relation (route.near tree target).name.relation =
      .ok (route.near tree target).unrestricted := by
  cases route with
  | parents => exact inner.registered declared
  | children | entry => exact built.registered declared

theorem relation_far (declared : catalog.Declared) (built : tree.Built catalog)
    (inner : target.Built catalog) (route : KeyRoute) :
    catalog.relation (route.far tree target).name.relation =
      .ok (route.far tree target).unrestricted := by
  cases route with
  | parents => exact built.registered declared
  | children | entry => exact inner.registered declared

theorem exists_label {association : Association}
    (found : route.association? tree target = some association) :
    ∃ label, (route.near tree target).association? label = some association := by
  cases route with
  | children | parents => exact ⟨_, found⟩
  | entry cardinality name =>
    cases cardinality with
    | one => exact ⟨_, found⟩
    | many =>
      rcases Option.or_eq_some_iff.mp found with here | ⟨-, here⟩
      · exact ⟨_, here⟩
      · exact ⟨_, here⟩

/-- An association that is found leads from the near relation to one that the catalog knows, and
the keys are those of these two. -/
theorem exists_keys_of_found (declared : catalog.Declared) (built : tree.Built catalog)
    (inner : target.Built catalog) {association : Association}
    (found : route.association? tree target = some association) :
    ∃ other, catalog.relation association.target = .ok other ∧
      route.keys catalog tree target = route.direction.keysOf association.fault
        (association.pair? (route.near tree target) other) := by
  obtain ⟨label, given⟩ := exists_label found
  obtain ⟨other, reached, keys⟩ := Association.exists_keys_of_declared declared
    (relation_near declared built inner route) given
  exact ⟨other, reached, keys_of_found found keys⟩

theorem ownKeys_of_elsewhere {association : Association}
    (found : route.association? tree target = some association)
    (elsewhere : association.target ≠ (route.far tree target).name.relation) :
    route.ownKeys tree target = route.defaultKeys tree target := by
  rw [ownKeys, found]
  exact if_neg elsewhere

theorem defaultKeys_eq (plural : ∀ name, route ≠ .entry .one name) :
    route.defaultKeys tree target =
      route.direction.keysOf (conventionalFault (route.near tree target) (route.far tree target))
        (conventionalPair? (route.near tree target) (route.far tree target)) := by
  rw [← conventionalKeys_eq]
  cases route with
  | children | parents => rfl
  | entry cardinality name =>
    cases cardinality with
    | one => exact absurd rfl (plural name)
    | many => rfl

/-- What an association says that leads elsewhere is what is found without one only where its
columns are those of convention. -/
theorem keysOf_eq_defaultKeys_iff {association : Association}
    (elsewhere : association.target ≠ (route.far tree target).name.relation)
    (pair? : Option (String × String)) :
    route.direction.keysOf association.fault pair? = route.defaultKeys tree target ↔
      (∀ name, route ≠ .entry .one name) ∧ ∃ pair, pair? = some pair ∧
        conventionalPair? (route.near tree target) (route.far tree target) = some pair := by
  by_cases plural : ∀ name, route ≠ .entry .one name
  · rw [defaultKeys_eq plural, JoinDirection.keysOf_inj, and_iff_right plural]
    constructor
    · rintro ⟨same, faults⟩
      -- Without keys the association would be blamed for the relation that it leads to.
      cases pair? with
      | none => exact absurd (Fault.unjoinable.inj (faults rfl)).2.1 elsewhere
      | some pair => exact ⟨pair, rfl, same.symm⟩
    · rintro ⟨pair, rfl, conventional⟩
      exact ⟨conventional.symm, fun missing => (by cases missing)⟩
  · refine iff_of_false ?_ fun given => plural given.1
    obtain ⟨name, rfl⟩ := not_forall_not.mp plural
    cases pair? <;> simp [JoinDirection.keysOf, defaultKeys, Association.fault]

/-- On every way the node gets the keys that are found there. They are those of the two relations
that are joined, unless an association is found that leads to another one: then they are what that
association knows, which is right only where its columns happen to be those of convention. -/
theorem keys_eq_ownKeys_iff (declared : catalog.Declared) (built : tree.Built catalog)
    (inner : target.Built catalog) (route : KeyRoute) :
    (∀ name attached, route.Attaches catalog tree target name attached →
      ∃ node, attached.node? name = some node ∧
        route.keys catalog tree target = .ok node.link.keys) ∧
    (route.keys catalog tree target = route.ownKeys tree target ↔
      ∀ association, route.association? tree target = some association →
        association.target ≠ (route.far tree target).name.relation →
          (∀ name, route ≠ .entry .one name) ∧ ∃ other pair,
            catalog.relation association.target = .ok other ∧
            association.pair? (route.near tree target) other = some pair ∧
            conventionalPair? (route.near tree target) (route.far tree target) = some pair) := by
  refine ⟨fun name attached attaches => attaches.exists_node, ?_⟩
  cases found : route.association? tree target with
  | none =>
    have same : route.keys catalog tree target = route.ownKeys tree target := by
      rw [keys_of_missing found, ownKeys, found]
    exact iff_of_true same fun _ given => (by cases given)
  | some association =>
    obtain ⟨other, reached, keys⟩ := exists_keys_of_found declared built inner found
    simp only [Option.some.injEq, forall_eq', reached, Except.ok.injEq]
    rw [keys]
    by_cases leads : association.target = (route.far tree target).name.relation
    · have same := relation_far declared built inner route
      rw [← leads, reached] at same
      cases same
      rw [ownKeys, found]
      exact iff_of_true (if_pos leads).symm fun elsewhere => absurd leads elsewhere
    · rw [ownKeys_of_elsewhere found leads, forall_prop_of_true leads,
        keysOf_eq_defaultKeys_iff leads]
      simp

/-- Tasks are attached to their owners by what the association to them says. -/
theorem keys_eq_ownKeys_iff_owners :
    let owners := Sample.leaf Sample.owners
    let tasks := Sample.leaf (.named "tasks")
    ∃ attached node, owners.attachChildren Sample.owning [⟨.many, [(none, tasks)]⟩] = .ok attached ∧
      attached.node? "tasks" = some node ∧
      KeyRoute.children.ownKeys owners tasks = .ok node.link.keys ∧
      node.link.keys = .single "id" "owner_id" := by
  intro owners tasks
  have built : owners.Built Sample.owning :=
    .ofCatalog (rfl : RelationTree.ofCatalog _ "users" = .ok owners)
  have inner : tasks.Built Sample.owning :=
    .ofCatalog (rfl : RelationTree.ofCatalog _ "tasks" = .ok tasks)
  obtain ⟨placed, own⟩ := keys_eq_ownKeys_iff Sample.declared_owning built inner .children
  obtain ⟨node, given, found⟩ := placed "tasks" _ ⟨[⟨.many, [(none, tasks)]⟩], rfl, rfl⟩
  have same := own.mpr fun association named elsewhere => by
    cases named
    exact absurd rfl elsewhere
  exact ⟨_, node, rfl, given, same.symm.trans found, (Except.ok.inj found).symm⟩

end KeyRoute

namespace Sample

/-- Users, whose tasks are kept in an archive. -/
def archivists : Schema :=
  (Schema.named "users").withAssociation ⟨"tasks", "", "archive", .oneToMany, none, none⟩

def archive : Schema := (Schema.named "archive").withForeignKey "users" "owner_id"

def archiving : Catalog := catalogOf [archivists, .named "tasks", archive]

theorem declared_archiving : archiving.Declared := by
  refine declared_catalogOf rfl ?_
  simp only [List.forall_mem_cons]
  exact ⟨(Schema.ownsAssociations_of_empty rfl).withAssociation _,
    Schema.ownsAssociations_of_empty rfl, Schema.ownsAssociations_of_empty rfl, by simp⟩

/-- The tasks are joined by the column of the archive, which the association leads to. -/
theorem not_ownKeys_archiving :
    let users := leaf archivists
    let tasks := leaf (.named "tasks")
    archiving.Declared ∧ users.Built archiving ∧ tasks.Built archiving ∧
      KeyRoute.children.ownKeys users tasks = .ok (.single "id" "user_id") ∧
      KeyRoute.children.keys archiving users tasks = .ok (.single "id" "owner_id") ∧
      KeyRoute.children.keys archiving users tasks ≠ KeyRoute.children.ownKeys users tasks := by
  intro users tasks
  have found : KeyRoute.children.association? users tasks =
      some ⟨"tasks", "users", "archive", .oneToMany, none, none⟩ := rfl
  have convention : conventionalKeys (registered archivists) (registered (.named "tasks"))
      .children = .ok (.single "id" "user_id") := rfl
  have own : KeyRoute.children.ownKeys users tasks = .ok (.single "id" "user_id") :=
    (KeyRoute.ownKeys_of_elsewhere found (by decide)).trans convention
  have joined : KeyRoute.children.keys archiving users tasks = .ok (.single "id" "owner_id") := rfl
  refine ⟨declared_archiving, .ofCatalog (rfl : RelationTree.ofCatalog _ "users" = .ok users),
    .ofCatalog (rfl : RelationTree.ofCatalog _ "tasks" = .ok tasks), own, joined, fun same => ?_⟩
  have columns : JoinDirection.children.keys ("id", "owner_id") =
      JoinDirection.children.keys ("id", "user_id") :=
    Except.ok.inj ((joined.symm.trans same).trans own)
  exact absurd (JoinDirection.keys_inj.mp columns) (by decide)

end Sample

end RelationGraph
