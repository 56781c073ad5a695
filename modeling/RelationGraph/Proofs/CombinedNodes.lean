import RelationGraph.Proofs.Combining

set_option autoImplicit false

namespace RelationGraph

theorem Except.mapM_mapM_flatten {α β γ : Type} (parts : α → List β)
    (make : β → Except Fault γ) (items : List α) :
    (do return (← items.mapM fun item => (parts item).mapM make).flatten) =
      (items.flatMap parts).mapM make := by
  induction items with
  | nil => rfl
  | cons item rest ih =>
    rw [List.flatMap_cons, List.mapM_append, List.mapM_cons, ← ih]
    simp

theorem List.find?_of_forall₂ {α β : Type} {related : α → β → Prop} {items : List α}
    {others : List β} {test : α → Bool} (test' : β → Bool)
    (paired : List.Forall₂ related items others)
    (same : ∀ item other, related item other → test item = test' other) {item : α}
    (found : items.find? test = some item) :
    ∃ other, others.find? test' = some other ∧ related item other := by
  induction paired with
  | nil => cases found
  | @cons first partner rest partners here _ ih =>
    have agree := same first partner here
    cases passed : test first with
    | true =>
      rw [List.find?_cons_of_pos passed] at found
      cases found
      exact ⟨partner, List.find?_cons_of_pos (agree ▸ passed), here⟩
    | false =>
      rw [List.find?_cons_of_neg (by simp [passed])] at found
      obtain ⟨other, there, paired⟩ := ih found
      exact ⟨other, (List.find?_cons_of_neg (by simp [← agree, passed])).trans there, paired⟩

theorem List.Forall₂.trans_imp {α β γ : Type} {first : α → β → Prop} {second : β → γ → Prop}
    {both : α → γ → Prop}
    (compose : ∀ item middle other, first item middle → second middle other → both item other)
    {items : List α} {middles : List β} {others : List γ}
    (paired : List.Forall₂ first items middles) (paired' : List.Forall₂ second middles others) :
    List.Forall₂ both items others := by
  induction paired generalizing others with
  | nil =>
    cases paired'
    exact .nil
  | cons here _ ih =>
    obtain ⟨other, rest, there, later, rfl⟩ := List.forall₂_cons_left_iff.mp paired'
    exact .cons (compose _ _ _ here there) (ih later)

/-- A tree that a request attaches, with its cardinality and name. -/
structure AttachRequest where
  cardinality : Cardinality
  name : String
  target : RelationTree

namespace AttachGroup

/-- The trees of groups, first to last, with the names that they are attached under. -/
def requests (groups : List AttachGroup) : List AttachRequest :=
  groups.flatMap fun group => group.targets.map fun (name, target) =>
    ⟨group.cardinality, name.getD (target.attachName group.cardinality), target⟩

/-- The tree that groups attach under a name: the last one with that name. -/
def target? (groups : List AttachGroup) (name : String) : Option RelationTree :=
  ((requests groups).reverse.find? (·.name = name)).map (·.target)

end AttachGroup

def Attachment.name : Attachment → String
  | .association name _ => name
  | .explicit _ name _ _ => name

namespace RelationTree

def node? (tree : RelationTree) (name : String) : Option RelationTree :=
  tree.nodes.find? (·.name = name)

def placeNodes (made nodes : List RelationTree) : List RelationTree :=
  made.foldl (fun nodes node => placeNode node nodes) nodes

theorem find?_placeNode (node : RelationTree) (nodes : List RelationTree) (name : String) :
    (placeNode node nodes).find? (·.name = name) =
      if node.name = name then some node else nodes.find? (·.name = name) := by
  induction nodes with
  | nil => by_cases here : node.name = name <;> simp [placeNode, here]
  | cons head rest ih =>
    unfold placeNode
    by_cases replaced : head.name = node.name
    · by_cases here : node.name = name <;> simp [replaced, here]
    · rw [if_neg replaced, List.find?_cons, List.find?_cons, ih]
      by_cases first : head.name = name
      · have other : node.name ≠ name := fun here => replaced (first.trans here.symm)
        simp [first, other]
      · simp [first]

/-- Under each name stands the last node that was placed with it. -/
theorem find?_placeNodes (made nodes : List RelationTree) (name : String) :
    (placeNodes made nodes).find? (·.name = name) =
      (made.reverse.find? (·.name = name)).or (nodes.find? (·.name = name)) := by
  induction made generalizing nodes with
  | nil => rfl
  | cons node rest ih =>
    rw [placeNodes, List.foldl_cons, ← placeNodes, ih, find?_placeNode, List.reverse_cons,
      List.find?_append, Option.or_assoc]
    by_cases here : node.name = name <;> simp [here]

variable {catalog : Catalog} {tree : RelationTree}

theorem attach_eq_ok {node attached : RelationTree} :
    tree.attach node = .ok attached ↔ node.link.keys.isEmpty = false ∧
      attached = { tree with nodes := placeNode node tree.nodes } := by
  unfold attach
  split
  · rename_i unkeyed
    simp [unkeyed]
  · rename_i keyed
    simp [keyed, eq_comm]

/-- A tree given under a name, seen through the view of the association of that name unless it is
narrowed already. -/
def seenUnder (tree : RelationTree) (name : String) (target : RelationTree) :
    Except Fault RelationTree :=
  match tree.relation.association? name with
  | some association =>
    if target.isRestricted then .ok target else target.throughAssociation association
  | none => .ok target

theorem explicitNode_eq (catalog : Catalog) (tree : RelationTree) (cardinality : Cardinality)
    (name : String) (target : RelationTree) (given : Option JoinKeys) :
    tree.explicitNode catalog cardinality name target given =
      tree.seenUnder name target >>= fun child =>
        tree.keysFor catalog cardinality name target given >>= fun keys =>
          .ok (child.combined name keys cardinality) := by
  unfold explicitNode seenUnder
  cases tree.relation.association? name with
  | none => rfl
  | some association =>
    dsimp only
    split <;> rfl

theorem explicitNode_eq_ok {cardinality : Cardinality} {name : String} {target node : RelationTree}
    {given : Option JoinKeys} :
    tree.explicitNode catalog cardinality name target given = .ok node ↔
      ∃ child keys, tree.seenUnder name target = .ok child ∧
        tree.keysFor catalog cardinality name target given = .ok keys ∧
        node = child.combined name keys cardinality := by
  simp only [explicitNode_eq, Except.bind_eq_ok, Except.ok.injEq]
  constructor
  · rintro ⟨child, seen, keys, found, rfl⟩
    exact ⟨child, keys, seen, found, rfl⟩
  · rintro ⟨child, keys, seen, found, rfl⟩
    exact ⟨child, seen, keys, found, rfl⟩

theorem name_of_nodeFor {entry : Attachment} {node : RelationTree}
    (made : nodeFor catalog tree entry = .ok node) : node.name = entry.name := by
  cases entry with
  | association name nested =>
    obtain ⟨association, _, made⟩ := Except.bind_eq_ok.mp made
    obtain ⟨target, _, made⟩ := Except.bind_eq_ok.mp made
    obtain ⟨viewed, _, made⟩ := Except.bind_eq_ok.mp made
    obtain ⟨combined, _, made⟩ := Except.bind_eq_ok.mp made
    obtain ⟨keys, _, made⟩ := Except.bind_eq_ok.mp made
    cases made
    rfl
  | explicit cardinality name target keys =>
    obtain ⟨child, keys, _, _, rfl⟩ := explicitNode_eq_ok.mp made
    rfl

/-- What an entry makes does not depend on what is combined already. -/
theorem nodeFor_withNodes (catalog : Catalog) (tree : RelationTree) (nodes : List RelationTree)
    (entry : Attachment) :
    nodeFor catalog { tree with nodes := nodes } entry = nodeFor catalog tree entry := by
  cases entry <;> rfl

/-- A request succeeds if every entry makes a node with keys, and leaves the tree with these nodes
placed. -/
theorem combine_eq_ok {entries : List Attachment} {combined : RelationTree} :
    tree.combine catalog entries = .ok combined ↔
      ∃ made, List.Forall₂ (fun entry node => nodeFor catalog tree entry = .ok node) entries made ∧
        (∀ node ∈ made, node.link.keys.isEmpty = false) ∧
        combined = { tree with nodes := placeNodes made tree.nodes } := by
  induction entries generalizing tree with
  | nil =>
    cases tree
    simp only [List.forall₂_nil_left_iff, exists_eq_left]
    constructor
    · intro success
      cases success
      exact ⟨fun _ member => (by cases member), rfl⟩
    · rintro ⟨-, rfl⟩
      rfl
  | cons entry rest ih =>
    rw [RelationTree.combine, Except.bind_eq_ok]
    constructor
    · rintro ⟨node, found, success⟩
      obtain ⟨attached, placed, success⟩ := Except.bind_eq_ok.mp success
      obtain ⟨keyed, rfl⟩ := attach_eq_ok.mp placed
      obtain ⟨made, others, keys, rfl⟩ := ih.mp success
      simp only [nodeFor_withNodes] at others
      exact ⟨node :: made, .cons found others, List.forall_mem_cons.mpr ⟨keyed, keys⟩, rfl⟩
    · rintro ⟨made, paired, keys, rfl⟩
      obtain ⟨node, others, found, later, rfl⟩ := List.forall₂_cons_left_iff.mp paired
      obtain ⟨keyed, keys⟩ := List.forall_mem_cons.mp keys
      refine ⟨node, found, Except.bind_eq_ok.mpr
        ⟨_, attach_eq_ok.mpr ⟨keyed, rfl⟩, ih.mpr ⟨others, ?_, keys, rfl⟩⟩⟩
      simp only [nodeFor_withNodes]
      exact later

/-- Under each name stands the node of the last entry with that name. -/
theorem node?_combine {entries : List Attachment} {combined : RelationTree}
    (success : tree.combine catalog entries = .ok combined) {name : String} {entry : Attachment}
    (last : entries.reverse.find? (·.name = name) = some entry) :
    ∃ node, nodeFor catalog tree entry = .ok node ∧ combined.node? name = some node := by
  obtain ⟨made, paired, -, rfl⟩ := combine_eq_ok.mp success
  obtain ⟨node, found, made⟩ := List.find?_of_forall₂ (·.name = name) (List.rel_reverse paired)
    (fun entry node given => by rw [name_of_nodeFor given]) last
  exact ⟨node, made, by rw [node?, find?_placeNodes, found, Option.some_or]⟩

/-- The keys by which a tree is attached in a direction. -/
def keysToward (catalog : Catalog) (tree : RelationTree) (direction : JoinDirection)
    (target : RelationTree) : Except Fault JoinKeys :=
  match direction with
  | .parent => keysBetween catalog target.relation tree.relation .parent
  | .children => keysBetween catalog tree.relation target.relation .children

def entryFor (catalog : Catalog) (tree : RelationTree) (direction : JoinDirection)
    (request : AttachRequest) : Except Fault Attachment := do
  let keys ← tree.keysToward catalog direction request.target
  return .explicit request.cardinality request.name request.target (some keys)

theorem entriesFor_eq (catalog : Catalog) (tree : RelationTree) (direction : JoinDirection)
    (group : AttachGroup) :
    tree.entriesFor catalog direction group =
      (group.targets.map fun (name, target) =>
        (⟨group.cardinality, name.getD (target.attachName group.cardinality), target⟩ :
          AttachRequest)).mapM (tree.entryFor catalog direction) := by
  rw [entriesFor, List.mapM_map]
  congr 1
  funext given
  cases direction <;> rfl

/-- Trees are attached by combining the entries of all of them. -/
theorem attachGroups_eq (catalog : Catalog) (tree : RelationTree) (direction : JoinDirection)
    (groups : List AttachGroup) :
    tree.attachGroups catalog direction groups =
      (AttachGroup.requests groups).mapM (tree.entryFor catalog direction) >>=
        tree.combine catalog := by
  rw [attachGroups, funext (tree.entriesFor_eq catalog direction), AttachGroup.requests,
    ← Except.mapM_mapM_flatten, bind_assoc]
  rfl

/-- The node is what attaching a tree in a direction makes. -/
def Makes (catalog : Catalog) (tree : RelationTree) (direction : JoinDirection)
    (request : AttachRequest) (node : RelationTree) : Prop :=
  ∃ child keys, tree.seenUnder request.name request.target = .ok child ∧
    tree.keysToward catalog direction request.target = .ok keys ∧
    node = child.combined request.name keys request.cardinality

/-- Attaching trees leaves the tree with a node for each of them placed. -/
theorem exists_made_of_attachGroups {direction : JoinDirection} {groups : List AttachGroup}
    {attached : RelationTree}
    (success : tree.attachGroups catalog direction groups = .ok attached) :
    ∃ made, List.Forall₂ (tree.Makes catalog direction) (AttachGroup.requests groups) made ∧
      attached = { tree with nodes := placeNodes made tree.nodes } := by
  rw [attachGroups_eq, Except.bind_eq_ok] at success
  obtain ⟨entries, entered, success⟩ := success
  obtain ⟨made, paired, -, placed⟩ := combine_eq_ok.mp success
  refine ⟨made, ?_, placed⟩
  refine List.Forall₂.trans_imp ?_ (Except.mapM_eq_ok.mp entered) paired
  intro request entry node opened given
  obtain ⟨keys, found, opened⟩ := Except.bind_eq_ok.mp opened
  cases opened
  obtain ⟨child, _, seen, same, rfl⟩ := explicitNode_eq_ok.mp given
  cases same
  exact ⟨child, keys, seen, found, rfl⟩

/-- Under each name stands the node of the last tree that was attached with that name. -/
theorem node?_attachGroups {direction : JoinDirection} {groups : List AttachGroup}
    {attached : RelationTree}
    (success : tree.attachGroups catalog direction groups = .ok attached) {name : String}
    {target : RelationTree} (last : AttachGroup.target? groups name = some target) :
    ∃ cardinality child keys, tree.seenUnder name target = .ok child ∧
      tree.keysToward catalog direction target = .ok keys ∧
      attached.node? name = some (child.combined name keys cardinality) := by
  obtain ⟨made, paired, rfl⟩ := exists_made_of_attachGroups success
  obtain ⟨request, listed, rfl⟩ := Option.map_eq_some_iff.mp last
  have named : request.name = name := by simpa using List.find?_some listed
  obtain ⟨node, found, child, keys, seen, toward, rfl⟩ :=
    List.find?_of_forall₂ (·.name = name) (List.rel_reverse paired)
      (fun request node ⟨_, _, _, _, same⟩ => by rw [same]; rfl) listed
  refine ⟨request.cardinality, child, keys, named ▸ seen, toward, ?_⟩
  rw [node?, find?_placeNodes, found, Option.some_or, named]

end RelationTree

end RelationGraph
