import RelationGraph.Proofs.CatalogSetup
import RelationGraph.Proofs.CombinedNodes
import RelationGraph.Proofs.Joins

set_option autoImplicit false

namespace RelationGraph

namespace JoinDirection

/-- The keys of a pair of columns, of the source and of the target, in the direction in which the
join is read. -/
def keys : JoinDirection → String × String → JoinKeys
  | .children, (own, other) => .single own other
  | .parent, (own, other) => .single other own

def keysOf (direction : JoinDirection) (fault : Fault) :
    Option (String × String) → Except Fault JoinKeys
  | some pair => .ok (direction.keys pair)
  | none => .error fault

@[simp] theorem keys_children (pair : String × String) :
    children.keys pair = .single pair.1 pair.2 := rfl

@[simp] theorem keys_parent (pair : String × String) :
    parent.keys pair = .single pair.2 pair.1 := rfl

theorem keys_inj {direction : JoinDirection} {pair pair' : String × String} :
    direction.keys pair = direction.keys pair' ↔ pair = pair' := by
  refine ⟨fun same => ?_, congrArg _⟩
  have columns := congrArg JoinKeys.pairs same
  cases direction <;> simpa [Prod.ext_iff, and_comm] using columns

theorem keysOf_inj {direction : JoinDirection} {fault fault' : Fault}
    {pair? pair?' : Option (String × String)} :
    direction.keysOf fault pair? = direction.keysOf fault' pair?' ↔
      pair? = pair?' ∧ (pair? = none → fault = fault') := by
  cases pair? <;> cases pair?' <;> simp [keysOf, keys_inj]

end JoinDirection

/-- What is wrong if an association has no keys: the side that it refers to has no primary key. -/
def Association.fault (association : Association) : Fault :=
  .unjoinable association.source association.target <|
    match association.kind with
    | .oneToMany | .oneToOne => .associationSourceKeyless
    | .manyToOne => .associationTargetKeyless

/-- The columns of a source and of a target by which an association joins them: the primary key of
the one side, and the foreign key of the other. -/
def Association.pair? (association : Association) (source target : Relation) :
    Option (String × String) :=
  match association.kind with
  | .oneToMany | .oneToOne => source.primaryKey.map fun key =>
      (key, association.foreignKey.getD (target.foreignKeyFor source.name))
  | .manyToOne => target.primaryKey.map fun key =>
      (association.foreignKey.getD (source.foreignKeyFor target.name), key)

/-- What is wrong if two relations have no keys by convention. -/
def conventionalFault (source target : Relation) : Fault :=
  .unjoinable source.name.relation target.name.relation
    (if source.primaryKey = none then .sourceKeyless else .noForeignKey)

/-- The columns of a source and of a target by which convention joins them, if the source has a
primary key and the foreign key column a name. -/
def conventionalPair? (source target : Relation) : Option (String × String) :=
  if target.foreignKeyFor source.name = "" then none
  else source.primaryKey.map fun key => (key, target.foreignKeyFor source.name)

theorem conventionalKeys_eq (source target : Relation) (direction : JoinDirection) :
    conventionalKeys source target direction =
      direction.keysOf (conventionalFault source target) (conventionalPair? source target) := by
  unfold conventionalKeys conventionalFault conventionalPair?
  cases source.primaryKey with
  | none =>
    by_cases unnamed : target.foreignKeyFor source.name = "" <;>
      simp [unnamed, JoinDirection.keysOf]
  | some key =>
    by_cases unnamed : target.foreignKeyFor source.name = ""
    · simp [unnamed, JoinDirection.keysOf]
    · cases direction <;> simp [unnamed, JoinDirection.keysOf]

section Keys

variable {catalog : Catalog} {source target : Relation} {association : Association}

theorem Association.keys_eq (known : catalog.relation association.source = .ok source)
    (reached : catalog.relation association.target = .ok target) :
    association.keys catalog =
      JoinDirection.children.keysOf association.fault (association.pair? source target) := by
  unfold Association.keys Association.pair? Association.fault
  rw [known, reached]
  dsimp only [bind, Except.bind]
  cases association.kind with
  | oneToMany | oneToOne => cases source.primaryKey <;> rfl
  | manyToOne => cases target.primaryKey <;> rfl

/-- An association that a relation declares has the keys of that relation and of the one that it
leads to. -/
theorem Association.exists_keys_of_declared (declared : catalog.Declared) {label : String}
    (known : catalog.relation source.name.relation = .ok source.unrestricted)
    (given : source.association? label = some association) :
    ∃ target, catalog.relation association.target = .ok target ∧
      association.keys catalog =
        JoinDirection.children.keysOf association.fault (association.pair? source target) := by
  obtain ⟨-, own, target, reached⟩ := declared.association known given
  have leads : catalog.relation association.source = .ok source.unrestricted := own ▸ known
  exact ⟨target, reached, (Association.keys_eq leads reached).trans rfl⟩

theorem Association.exists_pair_keys (association : Association) (catalog : Catalog) :
    ∃ fault pair?, association.keys catalog = JoinDirection.children.keysOf fault pair? := by
  cases known : catalog.relation association.source with
  | error fault =>
    refine ⟨fault, none, ?_⟩
    rw [Association.keys, known]
    rfl
  | ok source =>
    cases reached : catalog.relation association.target with
    | error fault =>
      refine ⟨fault, none, ?_⟩
      rw [Association.keys, known, reached]
      rfl
    | ok target => exact ⟨_, _, Association.keys_eq known reached⟩

/-- An association that is found under the name of the target decides, without one convention. -/
theorem keysBetween_of_found (found : source.association? target.name.relation = some association)
    {fault : Fault} {pair? : Option (String × String)}
    (keys : association.keys catalog = JoinDirection.children.keysOf fault pair?)
    (direction : JoinDirection) :
    keysBetween catalog source target direction = direction.keysOf fault pair? := by
  rw [keysBetween, found]
  dsimp only
  rw [keys]
  cases pair? <;> cases direction <;> rfl

theorem keysBetween_of_missing (missing : source.association? target.name.relation = none)
    (direction : JoinDirection) :
    keysBetween catalog source target direction = conventionalKeys source target direction := by
  rw [keysBetween, missing]

/-- Whatever keys are found between two relations, they are one pair of columns, read either way. -/
theorem exists_pair_keysBetween (catalog : Catalog) (source target : Relation) :
    ∃ fault pair?, ∀ direction,
      keysBetween catalog source target direction = direction.keysOf fault pair? := by
  cases found : source.association? target.name.relation with
  | some association =>
    obtain ⟨fault, pair?, keys⟩ := association.exists_pair_keys catalog
    exact ⟨fault, pair?, keysBetween_of_found found keys⟩
  | none =>
    exact ⟨_, _, fun direction =>
      (keysBetween_of_missing found direction).trans (conventionalKeys_eq source target direction)⟩

end Keys

/-- Equal values are null together, so a pair of columns joins both ways. -/
theorem JoinKeys.joins_single_swap (left right : String) (parent child : Tuple) :
    (JoinKeys.single right left).joins child parent =
      (JoinKeys.single left right).joins parent child := by
  have swap : ∀ {left right : String} {parent child : Tuple},
      (JoinKeys.single left right).joins parent child = true →
        (JoinKeys.single right left).joins child parent = true := by
    intro left right parent child joined
    obtain ⟨value, other, given, found, present, equal⟩ :=
      joins_iff.mp joined (left, right) List.mem_cons_self
    refine joins_iff.mpr fun pair member => ?_
    rw [pairs_single, List.mem_singleton] at member
    subst member
    exact ⟨other, value, found, given, Json.isNull_of_beq equal ▸ present, BEq.symm equal⟩
  exact Bool.eq_iff_iff.mpr ⟨swap, swap⟩

/-- The keys between two relations are found in both directions, or fail in both with the same
fault. The two mappings are converses of each other, and inverting either twice gives it back. So
whatever else is attached, a row joins under the node of its children exactly the rows under whose
node of parents it is joined. -/
theorem keysBetween_dual (catalog : Catalog) (source target : RelationTree) :
    ((∃ fault, keysBetween catalog source.relation target.relation .parent = .error fault ∧
        keysBetween catalog source.relation target.relation .children = .error fault) ∨
      ∃ up down, keysBetween catalog source.relation target.relation .parent = .ok up ∧
        keysBetween catalog source.relation target.relation .children = .ok down ∧
        (∀ left right, (left, right) ∈ up.pairs ↔ (right, left) ∈ down.pairs) ∧
        up.invert = down ∧ down.invert = up ∧
        up.invert.invert = up ∧ down.invert.invert = down) ∧
    ∀ groups groups' below above name name',
      source.attachChildren catalog groups = .ok below →
      target.attachParents catalog groups' = .ok above →
      AttachGroup.target? groups name = some target →
      AttachGroup.target? groups' name' = some source →
      ∃ children parents, below.node? name = some children ∧ above.node? name' = some parents ∧
        ∀ parent child, children.link.keys.joins parent child =
          parents.link.keys.joins child parent := by
  obtain ⟨fault, pair?, found⟩ :=
    exists_pair_keysBetween catalog source.relation target.relation
  refine ⟨?_, ?_⟩
  · cases pair? with
    | none => exact Or.inl ⟨fault, found .parent, found .children⟩
    | some pair =>
      refine Or.inr ⟨_, _, found .parent, found .children, fun left right => ?_, rfl, rfl, rfl, rfl⟩
      simp [Prod.ext_iff, and_comm]
  · intro groups groups' below above name name' downward upward attached attached'
    obtain ⟨cardinality, child, keys, -, toward, placed⟩ :=
      RelationTree.node?_attachGroups downward attached
    obtain ⟨cardinality', parent, keys', -, toward', placed'⟩ :=
      RelationTree.node?_attachGroups upward attached'
    refine ⟨_, _, placed, placed', fun row other => ?_⟩
    -- Both trees have asked for the keys between the same two relations.
    have down := (found .children).symm.trans toward
    have up := (found .parent).symm.trans toward'
    cases pair? with
    | none => cases down
    | some pair =>
      cases down
      cases up
      exact (JoinKeys.joins_single_swap _ _ _ _).symm

namespace Sample

def owners : Schema :=
  (Schema.named "users").withAssociation (refers "tasks" "tasks" .oneToMany "owner_id")

def owning : Catalog := catalogOf [owners, .named "tasks"]

theorem declared_owning : owning.Declared := by
  refine declared_catalogOf rfl ?_
  simp only [List.forall_mem_cons]
  exact ⟨(Schema.ownsAssociations_of_empty rfl).withAssociation _,
    Schema.ownsAssociations_of_empty rfl, by simp⟩

end Sample

/-- Owners have tasks, and tasks have owners. -/
theorem keysBetween_dual_owners :
    let owners := Sample.leaf Sample.owners
    let tasks := Sample.leaf (.named "tasks")
    ∃ below above children parents,
      owners.attachChildren Sample.owning [⟨.many, [(none, tasks)]⟩] = .ok below ∧
      tasks.attachParents Sample.owning [⟨.one, [(some "owner", owners)]⟩] = .ok above ∧
      below.node? "tasks" = some children ∧ above.node? "owner" = some parents ∧
      ∀ parent child, children.link.keys.joins parent child =
        parents.link.keys.joins child parent := by
  intro owners tasks
  obtain ⟨children, parents, placed, placed', same⟩ :=
    (keysBetween_dual Sample.owning owners tasks).2 [⟨.many, [(none, tasks)]⟩]
      [⟨.one, [(some "owner", owners)]⟩] _ _ "tasks" "owner" rfl rfl rfl rfl
  exact ⟨_, _, children, parents, rfl, rfl, placed, placed', same⟩

end RelationGraph
