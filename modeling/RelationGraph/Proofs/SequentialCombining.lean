import RelationGraph.Proofs.KeyInference

set_option autoImplicit false

namespace RelationGraph

namespace RelationTree

/-! ### Placing nodes -/

theorem placeNode_replaced {first second : RelationTree} (same : first.name = second.name)
    (nodes : List RelationTree) :
    placeNode second (placeNode first nodes) = placeNode second nodes := by
  induction nodes with
  | nil => simp [placeNode, same]
  | cons head rest ih =>
    by_cases here : head.name = first.name
    · simp [placeNode, here, same]
    · have other : head.name ≠ second.name := fun found => here (found.trans same.symm)
      simp [placeNode, here, other, ih]

theorem placeNode_comm {first second : RelationTree} (different : first.name ≠ second.name)
    {nodes : List RelationTree} (present : first.name ∈ nodes.map (·.name)) :
    placeNode second (placeNode first nodes) = placeNode first (placeNode second nodes) := by
  induction nodes with
  | nil => cases present
  | cons head rest ih =>
    by_cases here : head.name = first.name
    · simp [placeNode, here, different]
    · have later : first.name ∈ rest.map (·.name) := by
        rw [List.map_cons, List.mem_cons] at present
        exact present.resolve_left (Ne.symm here)
      by_cases there : head.name = second.name
      · simp [placeNode, there, Ne.symm different]
      · simp [placeNode, here, there, ih later]

theorem names_placeNode (node : RelationTree) (nodes : List RelationTree) :
    (placeNode node nodes).map (·.name) =
      if node.name ∈ nodes.map (·.name) then nodes.map (·.name)
      else nodes.map (·.name) ++ [node.name] := by
  induction nodes with
  | nil => simp [placeNode]
  | cons head rest ih =>
    by_cases here : head.name = node.name
    · simp [placeNode, here]
    · unfold placeNode
      rw [if_neg here, List.map_cons, ih, List.map_cons]
      by_cases later : node.name ∈ rest.map (·.name)
      · simp [later]
      · simp [later, Ne.symm here]

/-- A node that is there already stays where and what it is. -/
theorem placeNode_of_find? {node : RelationTree} {nodes : List RelationTree}
    (there : nodes.find? (·.name = node.name) = some node) : placeNode node nodes = nodes := by
  induction nodes with
  | nil => cases there
  | cons head rest ih =>
    by_cases here : head.name = node.name
    · rw [List.find?_cons_of_pos (by simpa using here)] at there
      cases there
      simp [placeNode]
    · rw [List.find?_cons_of_neg (by simpa using here)] at there
      simp [placeNode, here, ih there]

/-- The names that are there keep their places, and the new ones follow in the order in which they
come up first. -/
theorem names_placeNodes (made nodes : List RelationTree) :
    (placeNodes made nodes).map (·.name) =
      nodes.map (·.name) ++
        ((made.map (·.name)).filter (· ∉ nodes.map (·.name))).eraseDups := by
  induction made generalizing nodes with
  | nil => simp [placeNodes]
  | cons node rest ih =>
    rw [placeNodes, List.foldl_cons, ← placeNodes, ih, names_placeNode, List.map_cons]
    by_cases present : node.name ∈ nodes.map (·.name)
    · rw [if_pos present, List.filter_cons_of_neg (by simpa using present)]
    · have others : (rest.map (·.name)).filter (· ∉ nodes.map (·.name) ++ [node.name]) =
          ((rest.map (·.name)).filter (· ∉ nodes.map (·.name))).filter (fun name =>
            !name == node.name) := by
        rw [List.filter_filter]
        apply List.filter_congr
        intro name _
        rw [Bool.eq_iff_iff]
        simp [and_comm]
      rw [if_neg present, List.filter_cons_of_pos (by simpa using present), List.eraseDups_cons,
        others, List.append_assoc, List.singleton_append]

/-- A node under a name that is placed again later on leaves no trace. -/
theorem placeNodes_placeNode {node : RelationTree} {made nodes : List RelationTree}
    (again : node.name ∈ made.map (·.name)) (present : node.name ∈ nodes.map (·.name)) :
    placeNodes made (placeNode node nodes) = placeNodes made nodes := by
  induction made generalizing nodes with
  | nil => cases again
  | cons next rest ih =>
    rw [placeNodes, placeNodes, List.foldl_cons, List.foldl_cons, ← placeNodes, ← placeNodes]
    by_cases same : node.name = next.name
    · rw [placeNode_replaced same]
    · have later : node.name ∈ rest.map (·.name) := by
        rw [List.map_cons, List.mem_cons] at again
        exact again.resolve_left same
      have stays : node.name ∈ (placeNode next nodes).map (·.name) := by
        rw [names_placeNode]
        split
        · exact present
        · exact List.mem_append_left _ present
      rw [placeNode_comm same present, ih later stays]

theorem find?_name_eq_none {nodes : List RelationTree} {name : String} :
    nodes.find? (·.name = name) = none ↔ name ∉ nodes.map (·.name) := by
  simp

/-- Where the last node with each name is there already, placing changes nothing. -/
theorem placeNodes_of_settled {made nodes : List RelationTree}
    (settled : ∀ name node, made.reverse.find? (·.name = name) = some node →
      nodes.find? (·.name = name) = some node) : placeNodes made nodes = nodes := by
  induction made with
  | nil => rfl
  | cons node rest ih =>
    have later : placeNodes rest nodes = nodes := ih fun name other last => by
      refine settled name other ?_
      rw [List.reverse_cons, List.find?_append, last, Option.some_or]
    rw [placeNodes, List.foldl_cons, ← placeNodes]
    by_cases again : node.name ∈ rest.map (·.name)
    · -- The last of the later nodes with this name is there, so the name is.
      obtain ⟨last, found⟩ := Option.ne_none_iff_exists'.mp
        (mt find?_name_eq_none.mp (by simpa using again) :
          rest.reverse.find? (·.name = node.name) ≠ none)
      have there := settled node.name last (by
        rw [List.reverse_cons, List.find?_append, found, Option.some_or])
      have present : node.name ∈ nodes.map (·.name) := by
        have named : last.name = node.name := by simpa using List.find?_some there
        exact named ▸ List.mem_map_of_mem (List.mem_of_find?_eq_some there)
      rw [placeNodes_placeNode again present, later]
    · have last : (node :: rest).reverse.find? (·.name = node.name) = some node := by
        have none : rest.reverse.find? (·.name = node.name) = none :=
          find?_name_eq_none.mpr (by simpa using again)
        rw [List.reverse_cons, List.find?_append, none, Option.none_or]
        simp
      rw [placeNode_of_find? (settled node.name node last), later]

theorem placeNodes_twice (made nodes : List RelationTree) :
    placeNodes made (placeNodes made nodes) = placeNodes made nodes := by
  apply placeNodes_of_settled
  intro name node last
  rw [find?_placeNodes, last, Option.some_or]

/-! ### Combining -/

variable {catalog : Catalog} {tree combined : RelationTree} {entries : List Attachment}

theorem combine_append (catalog : Catalog) (tree : RelationTree)
    (first second : List Attachment) :
    tree.combine catalog (first ++ second) =
      tree.combine catalog first >>= fun combined => combined.combine catalog second := by
  induction first generalizing tree with
  | nil => rfl
  | cons entry rest ih =>
    rw [List.cons_append, combine, combine, bind_assoc]
    congr 1
    funext node
    rw [bind_assoc]
    congr 1
    funext attached
    exact ih attached

theorem names_of_made {made : List RelationTree}
    (paired : List.Forall₂ (fun entry node => nodeFor catalog tree entry = .ok node) entries made) :
    made.map (·.name) = entries.map (·.name) := by
  induction paired with
  | nil => rfl
  | cons here _ ih => rw [List.map_cons, List.map_cons, ih, name_of_nodeFor here]

/-- What a request makes of a tree. Names keep their places, new ones follow in the order in which
they come up first, and under each stands what the last entry with the name makes of the tree
itself, or else what was there. -/
structure Combines (catalog : Catalog) (tree : RelationTree) (entries : List Attachment)
    (combined : RelationTree) : Prop where
  relation : combined.relation = tree.relation
  name : combined.name = tree.name
  link : combined.link = tree.link
  names : combined.nodes.map (·.name) = tree.nodes.map (·.name) ++
    ((entries.map (·.name)).filter (· ∉ tree.nodes.map (·.name))).eraseDups
  last : ∀ name entry, entries.reverse.find? (·.name = name) = some entry →
    ∃ node, nodeFor catalog tree entry = .ok node ∧ combined.node? name = some node
  others : ∀ name, name ∉ entries.map (·.name) → combined.node? name = tree.node? name

theorem combines_of_combine (success : tree.combine catalog entries = .ok combined) :
    Combines catalog tree entries combined := by
  obtain ⟨made, paired, -, rfl⟩ := combine_eq_ok.mp success
  have names := names_of_made paired
  refine ⟨rfl, rfl, rfl, ?_, fun name entry last => node?_combine success last,
    fun name absent => ?_⟩
  · rw [← names]
    exact names_placeNodes made tree.nodes
  · have none : made.reverse.find? (·.name = name) = none := by
      rw [find?_name_eq_none, List.map_reverse, List.mem_reverse, names]
      exact absent
    rw [node?, find?_placeNodes, none, Option.none_or, node?]

/-- A request that has been combined is combined again without effect. -/
theorem combine_twice (success : tree.combine catalog entries = .ok combined) :
    combined.combine catalog entries = .ok combined := by
  obtain ⟨made, paired, keyed, rfl⟩ := combine_eq_ok.mp success
  refine combine_eq_ok.mpr ⟨made, ?_, keyed, ?_⟩
  · simp only [nodeFor_withNodes]
    exact paired
  · rw [placeNodes_twice]

end RelationTree

/-! ### Attaching trees with inferred keys -/

namespace AttachGroup

def apart (groups : List AttachGroup) : List AttachGroup :=
  groups.flatMap fun group => group.targets.map fun target => ⟨group.cardinality, [target]⟩

theorem requests_append (first second : List AttachGroup) :
    requests (first ++ second) = requests first ++ requests second :=
  List.flatMap_append

theorem requests_apart (groups : List AttachGroup) : requests (apart groups) = requests groups := by
  induction groups with
  | nil => rfl
  | cons group rest ih =>
    have single : apart (group :: rest) =
        group.targets.map (fun target => ⟨group.cardinality, [target]⟩) ++ apart rest :=
      List.flatMap_cons
    have own : requests (group.targets.map fun target => ⟨group.cardinality, [target]⟩) =
        requests [group] := by
      rw [requests, List.flatMap_map, requests, List.flatMap_singleton, List.map_eq_flatMap]
      rfl
    rw [single, requests_append, ih, own, ← requests_append, List.singleton_append]

end AttachGroup

namespace RelationTree

variable {catalog : Catalog} {tree attached : RelationTree} {direction : JoinDirection}

/-- Groups are attached together exactly if they are attached one after the other, and to the same
tree. -/
theorem attachGroups_append {first second : List AttachGroup} :
    tree.attachGroups catalog direction (first ++ second) = .ok attached ↔
      ∃ between, tree.attachGroups catalog direction first = .ok between ∧
        between.attachGroups catalog direction second = .ok attached := by
  have requested : tree.attachGroups catalog direction (first ++ second) =
      (AttachGroup.requests first).mapM (tree.entryFor catalog direction) >>= fun entries =>
        (AttachGroup.requests second).mapM (tree.entryFor catalog direction) >>= fun others =>
          tree.combine catalog entries >>= fun between => between.combine catalog others := by
    rw [attachGroups_eq, AttachGroup.requests_append, List.mapM_append]
    simp only [bind_assoc, pure_bind, combine_append]
  rw [requested]
  simp only [attachGroups_eq, Except.bind_eq_ok]
  constructor
  · rintro ⟨entries, found, others, foundToo, between, success, finished⟩
    obtain ⟨_, _, _, rfl⟩ := combine_eq_ok.mp success
    exact ⟨_, ⟨entries, found, success⟩, others, foundToo, finished⟩
  · rintro ⟨between, ⟨entries, found, success⟩, others, foundToo, finished⟩
    obtain ⟨_, _, _, rfl⟩ := combine_eq_ok.mp success
    exact ⟨entries, found, others, foundToo, _, success, finished⟩

theorem attachGroups_eq_ok_iff_foldlM {groups : List AttachGroup} :
    tree.attachGroups catalog direction groups = .ok attached ↔
      groups.foldlM (fun tree group => tree.attachGroups catalog direction [group]) tree =
        .ok attached := by
  induction groups generalizing tree with
  | nil => exact Iff.rfl
  | cons group rest ih =>
    rw [← List.singleton_append, attachGroups_append, List.singleton_append, List.foldlM_cons,
      Except.bind_eq_ok]
    exact exists_congr fun between => and_congr_right fun _ => ih

/-- Trees in groups are attached exactly if they are attached one after another. -/
theorem attachGroups_iff_apart {groups : List AttachGroup} :
    tree.attachGroups catalog direction groups = .ok attached ↔
      (AttachGroup.apart groups).foldlM
        (fun tree group => tree.attachGroups catalog direction [group]) tree = .ok attached := by
  rw [← attachGroups_eq_ok_iff_foldlM, attachGroups_eq, attachGroups_eq,
    AttachGroup.requests_apart]

/-- Combining is a fold. A request may be cut anywhere, with the same tree or the same first fault,
and repeated without effect; it puts the node of the last entry with each name into the place where
the name came up first and leaves all else. Trees whose keys are inferred are attached, whatever
their groups, exactly if they are attached one after another, and to the same tree. -/
theorem combine_stepwise (catalog : Catalog) (tree : RelationTree) :
    (∀ first second, tree.combine catalog (first ++ second) =
      tree.combine catalog first >>= fun combined => combined.combine catalog second) ∧
    (∀ entries, (tree.combine catalog entries >>= fun combined =>
      combined.combine catalog entries) = tree.combine catalog entries) ∧
    (∀ entries combined, tree.combine catalog entries = .ok combined →
      Combines catalog tree entries combined) ∧
    (∀ groups attached, tree.attachParents catalog groups = .ok attached ↔
      (AttachGroup.apart groups).foldlM
        (fun tree group => tree.attachParents catalog [group]) tree = .ok attached) ∧
    ∀ groups attached, tree.attachChildren catalog groups = .ok attached ↔
      (AttachGroup.apart groups).foldlM
        (fun tree group => tree.attachChildren catalog [group]) tree = .ok attached := by
  refine ⟨combine_append catalog tree, fun entries => ?_, fun _ _ => combines_of_combine,
    fun _ _ => attachGroups_iff_apart, fun _ _ => attachGroups_iff_apart⟩
  cases success : tree.combine catalog entries with
  | error fault => rfl
  | ok combined => exact combine_twice success

/-- Owners with their tasks, with one of these, and with their tasks again. -/
theorem combine_stepwise_owners :
    let owners := Sample.leaf Sample.owners
    let tasks := Sample.leaf (.named "tasks")
    let entries : List Attachment := [.association "tasks" [],
      .explicit .one "first" tasks (some (.single "id" "owner_id")),
      .explicit .one "tasks" tasks none]
    ∃ combined, owners.combine Sample.owning entries = .ok combined ∧
      Combines Sample.owning owners entries combined ∧
      combined.nodes.map (·.name) = ["tasks", "first"] ∧
      (combined.node? "tasks").map (·.link.cardinality) = some (some .one) :=
  ⟨_, rfl, (combine_stepwise Sample.owning _).2.2.1 _ _ rfl, rfl, rfl⟩

end RelationTree

end RelationGraph
