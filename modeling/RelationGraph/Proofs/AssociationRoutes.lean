import RelationGraph.Proofs.KeyInference

set_option autoImplicit false

namespace RelationGraph

/-- Two ways of combining come to the same under a name: to nodes with the same keys, or to no tree
at all. -/
def AgreeUnder (name : String) :
    Except Fault RelationTree → Except Fault RelationTree → Prop
  | .ok combined, .ok combined' => ∃ node node', combined.node? name = some node ∧
      combined'.node? name = some node' ∧ node.link.keys = node'.link.keys
  | .error _, .error _ => True
  | _, _ => False

/-- What combining comes to under a name: a node with these keys, or no tree at all. -/
def YieldsUnder (name : String) (keys? : Option JoinKeys) :
    Except Fault RelationTree → Prop
  | .ok combined => ∃ node, combined.node? name = some node ∧ keys? = some node.link.keys
  | .error _ => keys? = none

theorem YieldsUnder.agree_iff {name : String} {keys? keys?' : Option JoinKeys}
    {result result' : Except Fault RelationTree} (yields : YieldsUnder name keys? result)
    (yields' : YieldsUnder name keys?' result') :
    AgreeUnder name result result' ↔ keys? = keys?' := by
  cases result with
  | error fault =>
    cases yields
    cases result' with
    | error fault' =>
      cases yields'
      exact iff_of_true trivial rfl
    | ok combined' =>
      obtain ⟨node', _, rfl⟩ := yields'
      exact iff_of_false id (by simp)
  | ok combined =>
    obtain ⟨node, placed, rfl⟩ := yields
    cases result' with
    | error fault' =>
      cases yields'
      exact iff_of_false id (by simp)
    | ok combined' =>
      obtain ⟨node', placed', rfl⟩ := yields'
      rw [AgreeUnder, placed, placed']
      simp

/-- The direction in which the one side of an association reads it. -/
def AssociationKind.direction : AssociationKind → JoinDirection
  | .oneToMany | .oneToOne => .children
  | .manyToOne => .parent

namespace Association

/-- The side of an association whose primary key it joins. -/
def one (association : Association) (source target : Relation) : Relation :=
  match association.kind with
  | .oneToMany | .oneToOne => source
  | .manyToOne => target

/-- The side of an association that refers to the other. -/
def many (association : Association) (source target : Relation) : Relation :=
  match association.kind with
  | .oneToMany | .oneToOne => target
  | .manyToOne => source

/-- The columns by which an association joins its two sides: the primary key of the one, and the
foreign key of the other. -/
def columns? (association : Association) (source target : Relation) : Option (String × String) :=
  (association.one source target).primaryKey.map fun key =>
    (key, association.foreignKey.getD
      ((association.many source target).foreignKeyFor (association.one source target).name))

theorem keys_pair? (association : Association) (source target : Relation) :
    (association.pair? source target).map JoinDirection.children.keys =
      (association.columns? source target).map association.kind.direction.keys := by
  unfold pair? columns? one many AssociationKind.direction
  cases association.kind with
  | oneToMany | oneToOne => rfl
  | manyToOne =>
    dsimp only
    cases target.primaryKey <;> rfl

end Association

namespace RelationTree

def attachTarget (catalog : Catalog) (tree : RelationTree) (association : Association)
    (target : RelationTree) : Except Fault RelationTree :=
  let groups := [⟨association.result, [(some association.name, target)]⟩]
  match association.kind with
  | .oneToMany | .oneToOne => tree.attachChildren catalog groups
  | .manyToOne => tree.attachParents catalog groups

variable {catalog : Catalog} {tree target : RelationTree} {association : Association}
  {name : String} {fault : Fault} {pair? : Option (String × String)}

theorem attachTarget_eq (catalog : Catalog) (tree : RelationTree) (association : Association)
    (target : RelationTree) :
    tree.attachTarget catalog association target =
      tree.attachGroups catalog association.kind.direction
        [⟨association.result, [(some association.name, target)]⟩] := by
  unfold attachTarget AssociationKind.direction
  cases association.kind <;> rfl

theorem keysToward_eq (catalog : Catalog) (tree : RelationTree) (association : Association)
    (target : RelationTree) :
    tree.keysToward catalog association.kind.direction target =
      keysBetween catalog (association.one tree.relation target.relation)
        (association.many tree.relation target.relation) association.kind.direction := by
  unfold Association.one Association.many AssociationKind.direction
  cases association.kind <;> rfl

/-- The keys of a node whose tree has to be seen through the view of an association. -/
def keysSeen (association : Association) (target : RelationTree) (keys? : Option JoinKeys) :
    Option JoinKeys :=
  match target.throughAssociation association with
  | .ok _ => keys?
  | .error _ => none

@[simp] theorem keysSeen_none (association : Association) (target : RelationTree) :
    keysSeen association target none = none := by
  unfold keysSeen
  cases target.throughAssociation association <;> rfl

theorem combine_single (catalog : Catalog) (tree : RelationTree) (entry : Attachment) :
    tree.combine catalog [entry] = nodeFor catalog tree entry >>= tree.attach := by
  rw [combine]
  cases nodeFor catalog tree entry with
  | error fault => rfl
  | ok node =>
    change (tree.attach node >>= fun attached => .ok attached) = tree.attach node
    cases tree.attach node <;> rfl

theorem yieldsUnder_attach {keys : JoinKeys} {cardinality : Cardinality}
    (keyed : keys.isEmpty = false) :
    YieldsUnder name (keysSeen association target (some keys))
      (target.throughAssociation association >>= fun viewed =>
        tree.attach (viewed.combined name keys cardinality)) := by
  unfold keysSeen
  cases target.throughAssociation association with
  | error fault => exact rfl
  | ok viewed =>
    have placed : tree.attach (viewed.combined name keys cardinality) = .ok { tree with
        nodes := placeNode (viewed.combined name keys cardinality) tree.nodes } :=
      attach_eq_ok.mpr ⟨keyed, rfl⟩
    change YieldsUnder name (some keys) (tree.attach (viewed.combined name keys cardinality))
    rw [placed]
    exact ⟨_, (find?_placeNode _ _ _).trans (if_pos rfl), rfl⟩

/-- The tree of an association, seen through its view and under its keys. -/
theorem nodeFor_association (given : tree.relation.association? name = some association)
    (plain : ofCatalog catalog association.target = .ok target)
    (keys : association.keys catalog = JoinDirection.children.keysOf fault pair?) :
    nodeFor catalog tree (.association name []) =
      target.throughAssociation association >>= fun viewed =>
        JoinDirection.children.keysOf fault pair? >>= fun keys =>
          .ok (viewed.combined name keys association.result) := by
  have named : tree.association name = .ok association := by
    rw [RelationTree.association, given]
  rw [nodeFor, named]
  change (ofCatalog catalog association.target >>= _) = _
  rw [plain, keys]
  rfl

theorem combineAssociations_single (catalog : Catalog) (tree : RelationTree) (name : String) :
    tree.combineAssociations catalog [name] =
      nodeFor catalog tree (.association name []) >>= tree.attach := by
  rw [combineAssociations, List.map_cons, List.map_nil, combine_single]

theorem yieldsUnder_combineAssociations
    (given : tree.relation.association? name = some association)
    (plain : ofCatalog catalog association.target = .ok target)
    (keys : association.keys catalog = JoinDirection.children.keysOf fault pair?) :
    YieldsUnder name (keysSeen association target (pair?.map JoinDirection.children.keys))
      (tree.combineAssociations catalog [name]) := by
  rw [combineAssociations_single, nodeFor_association given plain keys, bind_assoc]
  cases pair? with
  | none =>
    rw [Option.map_none, keysSeen_none]
    cases target.throughAssociation association <;> exact rfl
  | some pair => exact yieldsUnder_attach rfl

theorem yieldsUnder_attachGroups {direction : JoinDirection} (cardinality : Cardinality)
    (given : tree.relation.association? name = some association)
    (free : target.isRestricted = false)
    (toward : tree.keysToward catalog direction target = direction.keysOf fault pair?) :
    YieldsUnder name (keysSeen association target (pair?.map direction.keys))
      (tree.attachGroups catalog direction [⟨cardinality, [(some name, target)]⟩]) := by
  have single : tree.attachGroups catalog direction [⟨cardinality, [(some name, target)]⟩] =
      direction.keysOf fault pair? >>= fun keys =>
        tree.combine catalog [.explicit cardinality name target (some keys)] := by
    rw [attachGroups_eq, ← toward]
    change [(⟨cardinality, name, target⟩ : AttachRequest)].mapM (tree.entryFor catalog direction)
      >>= _ = _
    rw [List.mapM_cons, List.mapM_nil, entryFor]
    cases tree.keysToward catalog direction target <;> rfl
  rw [single]
  cases pair? with
  | none => exact keysSeen_none association target
  | some pair =>
    have seen : tree.seenUnder name target = target.throughAssociation association := by
      rw [seenUnder, given]
      exact if_neg (by simp [free])
    change YieldsUnder name _ (tree.combine catalog _)
    rw [combine_single, nodeFor, explicitNode_eq, seen, bind_assoc]
    exact yieldsUnder_attach (by cases direction <;> rfl)

/-- An association has the columns of convention if it has the foreign key of convention. -/
theorem conventionalPair?_eq_columns?_iff {source target : Relation}
    (titled : (association.many source target).foreignKeyFor
      (association.one source target).name ≠ "") :
    conventionalPair? (association.one source target) (association.many source target) =
        association.columns? source target ↔
      (association.one source target).primaryKey = none ∨
        association.foreignKey.getD ((association.many source target).foreignKeyFor
            (association.one source target).name) =
          (association.many source target).foreignKeyFor (association.one source target).name := by
  rw [conventionalPair?, if_neg titled, Association.columns?]
  cases (association.one source target).primaryKey <;> simp [eq_comm]

/-- The columns that are found between the two sides of an association, if an association of the
one side that is named like the other leads there. -/
theorem exists_keysBetween_sides {one many : Relation} (declared : catalog.Declared)
    (known : catalog.relation one.name.relation = .ok one.unrestricted)
    (reached : catalog.relation many.name.relation = .ok many.unrestricted)
    (leads : ∀ other, one.association? many.name.relation = some other →
      other.target = many.name.relation) :
    ∃ fault, ∀ direction, keysBetween catalog one many direction = direction.keysOf fault
      (match one.association? many.name.relation with
        | some other => other.pair? one many
        | none => conventionalPair? one many) := by
  cases found : one.association? many.name.relation with
  | some other =>
    obtain ⟨target, there, keys⟩ := Association.exists_keys_of_declared declared known found
    rw [leads other found, reached] at there
    cases there
    exact ⟨other.fault, keysBetween_of_found found keys⟩
  | none =>
    refine ⟨conventionalFault one many, fun direction => ?_⟩
    rw [keysBetween_of_missing found, conventionalKeys_eq]

theorem plain_of_ofCatalog (setup : catalog.SetUp)
    (plain : ofCatalog catalog name = .ok target) :
    catalog.relation name = .ok target.relation ∧ target.relation.name.relation = name ∧
      target.relation.unrestricted = target.relation ∧ target.isRestricted = false := by
  unfold ofCatalog at plain
  cases known : catalog.relation name with
  | error fault =>
    rw [known] at plain
    cases plain
  | ok relation =>
    rw [known] at plain
    cases plain
    obtain ⟨named, unrestricted⟩ := setup.relation known
    refine ⟨rfl, named, unrestricted, ?_⟩
    change relation.isRestricted = false
    rw [← unrestricted]
    rfl

theorem relation_sides {source target : Relation} (association : Association)
    (known : catalog.relation source.name.relation = .ok source.unrestricted)
    (reached : catalog.relation target.name.relation = .ok target.unrestricted) :
    catalog.relation (association.one source target).name.relation =
        .ok (association.one source target).unrestricted ∧
      catalog.relation (association.many source target).name.relation =
        .ok (association.many source target).unrestricted := by
  unfold Association.one Association.many
  cases association.kind with
  | oneToMany | oneToOne => exact ⟨known, reached⟩
  | manyToOne => exact ⟨reached, known⟩

/-- Combining by name and attaching the target agree exactly if the view of the association cannot
be applied, or the columns that are found between the two sides are those of the association. An
association of the one side that is named like the other decides what is found, or else convention.
-/
theorem agreeUnder_iff (declared : catalog.Declared) (built : tree.Built catalog)
    (given : tree.relation.association? name = some association)
    (plain : ofCatalog catalog association.target = .ok target) :
    let one := association.one tree.relation target.relation
    let many := association.many tree.relation target.relation
    (∀ other, one.association? many.name.relation = some other →
      other.target = many.name.relation) →
    (one.association? many.name.relation = none → many.foreignKeyFor one.name ≠ "") →
    (AgreeUnder name (tree.combineAssociations catalog [name])
        (tree.attachTarget catalog association target) ↔
      (∃ fault, target.throughAssociation association = .error fault) ∨
        match one.association? many.name.relation with
        | some other => other.pair? one many = association.columns? tree.relation target.relation
        | none => one.primaryKey = none ∨
            association.foreignKey.getD (many.foreignKeyFor one.name) =
              many.foreignKeyFor one.name) := by
  intro one many leads titled
  have known := built.registered declared
  obtain ⟨rfl, -⟩ := declared.association known given
  obtain ⟨leadsTo, base, free, unrestricted⟩ := plain_of_ofCatalog declared.setUp plain
  obtain ⟨relation, there, keys⟩ := Association.exists_keys_of_declared declared known given
  cases leadsTo.symm.trans there
  obtain ⟨knownOne, knownMany⟩ := relation_sides association known (by rw [base, free, leadsTo])
  obtain ⟨fault, between⟩ := exists_keysBetween_sides declared knownOne knownMany leads
  have byName := yieldsUnder_combineAssociations given plain keys
  have attached := yieldsUnder_attachGroups association.result given unrestricted
    ((keysToward_eq catalog tree association target).trans (between _))
  rw [attachTarget_eq, byName.agree_iff attached, Association.keys_pair?]
  -- Either way the target is seen through the view, so that only the keys can differ.
  unfold keysSeen
  cases target.throughAssociation association with
  | error fault => exact iff_of_true rfl (Or.inl ⟨fault, rfl⟩)
  | ok viewed =>
    have applied : ¬∃ fault : Fault, Except.ok viewed = Except.error fault := by simp
    have injective : Function.Injective association.kind.direction.keys :=
      fun _ _ => JoinDirection.keys_inj.mp
    rw [or_iff_right applied]
    dsimp only
    rw [(Option.map_injective injective).eq_iff, eq_comm]
    cases found : one.association? many.name.relation with
    | some other => exact Iff.rfl
    | none => exact conventionalPair?_eq_columns?_iff (titled found)

/-- The association of owners has the name of the relation that it leads to, so that it decides
either way. -/
theorem agreeUnder_iff_owners :
    AgreeUnder "tasks" ((Sample.leaf Sample.owners).combineAssociations Sample.owning ["tasks"])
      ((Sample.leaf Sample.owners).attachTarget Sample.owning
        ⟨"tasks", "users", "tasks", .oneToMany, some "owner_id", none⟩
        (Sample.leaf (.named "tasks"))) := by
  have built : (Sample.leaf Sample.owners).Built Sample.owning :=
    .ofCatalog (rfl : ofCatalog _ "users" = .ok (Sample.leaf Sample.owners))
  have given : (Sample.leaf Sample.owners).relation.association? "tasks" =
      some ⟨"tasks", "users", "tasks", .oneToMany, some "owner_id", none⟩ := rfl
  refine (agreeUnder_iff Sample.declared_owning built given rfl ?_ ?_).mpr (Or.inr rfl)
  · intro other found
    cases found
    rfl
  · intro missing
    cases missing

end RelationTree

namespace Sample

def authored : Schema :=
  (Schema.named "tasks").withAssociation (refers "author" "users" .manyToOne "author_id")

def authoring : Catalog := catalogOf [.named "users", authored]

theorem declared_authoring : authoring.Declared := by
  refine declared_catalogOf rfl ?_
  simp only [List.forall_mem_cons]
  exact ⟨Schema.ownsAssociations_of_empty rfl,
    (Schema.ownsAssociations_of_empty rfl).withAssociation _, by simp⟩

/-- Users attached as authors are found by the column of convention, since nothing that users
declare leads to tasks. -/
theorem not_agreeUnder_author :
    let tasks := leaf authored
    let users := leaf (.named "users")
    let author : Association := ⟨"author", "tasks", "users", .manyToOne, some "author_id", none⟩
    authoring.Declared ∧ tasks.Built authoring ∧
      tasks.relation.association? "author" = some author ∧
      RelationTree.ofCatalog authoring "users" = .ok users ∧
      author.keys authoring = .ok (.single "author_id" "id") ∧
      tasks.keysToward authoring .parent users = .ok (.single "user_id" "id") ∧
      ¬AgreeUnder "author" (tasks.combineAssociations authoring ["author"])
        (tasks.attachTarget authoring author users) := by
  intro tasks users author
  have built : tasks.Built authoring :=
    .ofCatalog (rfl : RelationTree.ofCatalog _ "tasks" = .ok tasks)
  have given : tasks.relation.association? "author" = some author := rfl
  have keys : author.keys authoring =
      JoinDirection.children.keysOf author.fault (some ("author_id", "id")) := rfl
  have convention : keysBetween authoring (registered (.named "users")) (registered authored)
      .parent = .ok (.single "user_id" "id") := rfl
  have toward : tasks.keysToward authoring .parent users =
      JoinDirection.parent.keysOf author.fault (some ("id", "user_id")) := convention
  have differ : JoinDirection.children.keys ("author_id", "id") ≠
      JoinDirection.children.keys ("user_id", "id") :=
    fun same => absurd (JoinDirection.keys_inj.mp same) (by decide)
  have byName := RelationTree.yieldsUnder_combineAssociations given rfl keys
  have attached := RelationTree.yieldsUnder_attachGroups .one given rfl toward
  refine ⟨declared_authoring, built, given, rfl, keys, convention, fun agree => ?_⟩
  rw [RelationTree.attachTarget_eq] at agree
  exact differ (Option.some.inj ((byName.agree_iff attached).mp agree))

end Sample

end RelationGraph
