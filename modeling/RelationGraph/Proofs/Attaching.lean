import RelationGraph.Proofs.Loading

/-!
Loading a tree into which one more child is combined.

The values of the child are put into tuples that the nodes around it are still joined by. As long as
no name on the way to the child covers a column that is joined on, the child is all that the larger
tree adds: with it erased, both trees load the same.
-/

set_option autoImplicit false

namespace RelationGraph

theorem List.map_eq_of_map_eq {α β γ : Type} {first : α → β} {second : α → γ}
    (determines : ∀ item other, first item = first other → second item = second other)
    {items others : List α} (same : items.map first = others.map first) :
    items.map second = others.map second := by
  induction items generalizing others with
  | nil =>
    cases others with
    | nil => rfl
    | cons _ _ => cases same
  | cons item rest ih =>
    cases others with
    | nil => cases same
    | cons other others =>
      obtain ⟨here, later⟩ := List.cons.inj same
      rw [List.map_cons, List.map_cons, determines item other here, ih later]

/-! ### Editing values in place -/

namespace Entries

variable {κ α : Type} [DecidableEq κ]

theorem get?_map (edit : κ → α → α) (key : κ) (entries : List (κ × α)) :
    get? key (entries.map fun entry => (entry.1, edit entry.1 entry.2)) =
      (get? key entries).map (edit key) := by
  induction entries with
  | nil => rfl
  | cons entry rest ih =>
    rw [List.map_cons, get?_cons, ih]
    obtain ⟨other, value⟩ := entry
    rw [get?_cons]
    by_cases same : key = other
    · rw [if_pos same, if_pos same, same]
      rfl
    · rw [if_neg same, if_neg same]

variable [LT κ] [DecidableLT κ]

theorem map_insert (edit : κ → α → α) (key : κ) (value : α) (entries : List (κ × α)) :
    (insert key value entries).map (fun entry => (entry.1, edit entry.1 entry.2)) =
      insert key (edit key value) (entries.map fun entry => (entry.1, edit entry.1 entry.2)) := by
  induction entries with
  | nil => rfl
  | cons entry rest ih =>
    obtain ⟨other, previous⟩ := entry
    rw [List.map_cons, insert, insert]
    split
    · rfl
    · split
      · rfl
      · rw [List.map_cons, ih]

theorem erase_insert_self (key : κ) (value : α) (entries : List (κ × α)) :
    erase key (insert key value entries) = erase key entries := by
  induction entries with
  | nil => simp [insert, erase]
  | cons entry rest ih =>
    obtain ⟨other, previous⟩ := entry
    rw [insert]
    by_cases same : key = other
    · rw [if_pos same, erase, erase, if_pos rfl, if_pos same]
    · rw [if_neg same]
      split
      · rw [erase, if_pos rfl]
      · rw [erase, erase, if_neg same, if_neg same, ih]

end Entries

def Json.mapTuples (edit : Tuple → Tuple) : Json → Json
  | .object members => .object (edit members)
  | .array items => .array (items.map fun item =>
      match item with
      | .object members => .object (edit members)
      | other => other)
  | value => value

theorem Link.mapTuples_nested (link : Link) (edit : Tuple → Tuple) (children : List Tuple) :
    (link.nested children).mapTuples edit = link.nested (children.map edit) := by
  unfold nested
  split
  · simp [Json.mapTuples, Function.comp_def]
  · cases children <;> rfl

namespace Tuple

def editUnder (name : String) (edit : Tuple → Tuple) (tuple : Tuple) : Tuple :=
  tuple.map fun entry => (entry.1, if entry.1 = name then entry.2.mapTuples edit else entry.2)

/-- The tuple without a column, in the tuples that are nested in it under the names of a path. -/
def eraseAt (column : String) : List String → Tuple → Tuple
  | [], tuple => tuple.erase column
  | name :: path, tuple => tuple.editUnder name (eraseAt column path)

theorem get?_editUnder_of_ne {name column : String} (other : column ≠ name)
    (edit : Tuple → Tuple) (tuple : Tuple) :
    (tuple.editUnder name edit).get? column = tuple.get? column := by
  have found := Entries.get?_map
    (fun key value => if key = name then Json.mapTuples edit value else value) column tuple
  simp only [if_neg other, Option.map_id'] at found
  exact found

theorem editUnder_insert (name : String) (edit : Tuple → Tuple) (tuple : Tuple) (column : String)
    (value : Json) :
    (tuple.insert column value).editUnder name edit =
      (tuple.editUnder name edit).insert column
        (if column = name then value.mapTuples edit else value) :=
  Entries.map_insert (fun key value => if key = name then Json.mapTuples edit value else value)
    column value tuple

theorem get?_eraseAt {column other : String} {path : List String}
    (apart : other ≠ path.headD column) (tuple : Tuple) :
    (tuple.eraseAt column path).get? other = tuple.get? other := by
  cases path with
  | nil =>
    rw [eraseAt, get?_erase]
    exact if_neg apart
  | cons name path => exact get?_editUnder_of_ne apart _ tuple

end Tuple

namespace RelationTree

/-- The larger tree has the child attached at a position, the names on the way to which are the
path. -/
inductive Attaches (child : RelationTree) : List String → RelationTree → RelationTree → Prop
  | here {tree extended : RelationTree} (fresh : ∀ other ∈ tree.nodes, other.name ≠ child.name)
      (success : tree.attach child = .ok extended) : Attaches child [] tree extended
  | inside {relation : Relation} {name : String} {link : Link} {before after : List RelationTree}
      {node extended : RelationTree} {path : List String}
      (inner : Attaches child path node extended) :
      Attaches child (node.name :: path) ⟨relation, name, link, before ++ node :: after⟩
        ⟨relation, name, link, before ++ extended :: after⟩

/-- No name on the way to a column covers what is still joined on: nodes behind the one of that name
are joined on other columns of the parent, and the node itself is joined to its parent on none that
the next name covers, or at the end of the way the column. -/
def PathApart (column : String) : List String → RelationTree → Prop
  | [], _ => True
  | name :: path, tree =>
    (tree.nodes.Pairwise fun first second =>
        first.name = name → name ∉ second.link.parentColumns) ∧
      ∀ node ∈ tree.nodes, node.name = name →
        path.headD column ∉ node.link.childColumns ∧ PathApart column path node

theorem placeNode_of_fresh {child : RelationTree} {nodes : List RelationTree}
    (fresh : ∀ other ∈ nodes, other.name ≠ child.name) :
    placeNode child nodes = nodes ++ [child] := by
  induction nodes with
  | nil => rfl
  | cons node rest ih =>
    obtain ⟨other, fresh⟩ := List.forall_mem_cons.mp fresh
    rw [placeNode, if_neg other, ih fresh]
    rfl

theorem nodes_attach {tree child extended : RelationTree}
    (fresh : ∀ other ∈ tree.nodes, other.name ≠ child.name)
    (success : tree.attach child = .ok extended) :
    extended = { tree with nodes := tree.nodes ++ [child] } := by
  rw [attach] at success
  split at success
  · cases success
  · cases success
    rw [placeNode_of_fresh fresh]

theorem Attaches.same {child tree extended : RelationTree} {path : List String}
    (attaches : Attaches child path tree extended) :
    extended.relation = tree.relation ∧ extended.name = tree.name ∧
      extended.link = tree.link := by
  cases attaches with
  | here fresh success =>
    rw [nodes_attach fresh success]
    exact ⟨rfl, rfl, rfl⟩
  | inside inner => exact ⟨rfl, rfl, rfl⟩

theorem Attaches.of_combine {catalog : Catalog} {tree extended child : RelationTree}
    {entry : Attachment} (given : nodeFor catalog tree entry = .ok child)
    (fresh : ∀ other ∈ tree.nodes, other.name ≠ child.name)
    (success : tree.combine catalog [entry] = .ok extended) :
    Attaches child [] tree extended := by
  obtain ⟨node, found, success⟩ := Except.bind_eq_ok.mp success
  obtain ⟨attached, made, finished⟩ := Except.bind_eq_ok.mp success
  cases finished
  cases found.symm.trans given
  exact .here fresh made

/-! ### Loading that succeeds -/

variable (store : Store)

def fetched (parents : List Tuple) (node : RelationTree) : List Tuple :=
  (node.relation.rows store).filter
    (node.relation.criteria.merge (node.link.keys.restriction parents)).matchesTuple

theorem nestAll_append (parents : List Tuple) (first second : List RelationTree) :
    nestAll store parents (first ++ second) =
      nestAll store parents first >>= fun parents => nestAll store parents second := by
  induction first generalizing parents with
  | nil => rfl
  | cons node rest ih =>
    rw [List.cons_append, nestAll, nestAll, bind_assoc]
    congr 1
    funext parents
    exact ih parents

theorem nestNode_of_ok {store : Store} {node : RelationTree}
    (accepts : node.relation.gateway.refuse .fetch = none)
    {parents children : List Tuple}
    (inner : nestAll store (fetched store parents node) node.nodes = .ok children) :
    nestNode store parents node =
      .ok (parents.map (giveChildren node.name node.link children)) := by
  by_cases empty : parents = []
  · subst empty
    cases node
    rfl
  · rw [nestNode_eq empty accepts, ← fetched, inner]
    rfl

theorem exists_nestAll {nodes : List RelationTree}
    (each : ∀ node ∈ nodes, ∀ parents, ∃ nested, nestNode store parents node = .ok nested)
    (parents : List Tuple) : ∃ loaded, nestAll store parents nodes = .ok loaded := by
  induction nodes generalizing parents with
  | nil => exact ⟨parents, rfl⟩
  | cons node rest ih =>
    obtain ⟨here, others⟩ := List.forall_mem_cons.mp each
    obtain ⟨nested, made⟩ := here parents
    rw [nestAll, made]
    exact ih others nested

theorem Readable.exists_nestNode {node : RelationTree} (readable : node.Readable)
    (parents : List Tuple) :
    ∃ children, nestAll store (fetched store parents node) node.nodes = .ok children ∧
      nestNode store parents node =
        .ok (parents.map (giveChildren node.name node.link children)) := by
  induction node using induction generalizing parents with
  | step node ih =>
    have each : ∀ child ∈ node.nodes, ∀ parents, ∃ nested,
        nestNode store parents child = .ok nested := by
      intro child member parents
      obtain ⟨_, _, nested⟩ := ih child member (readable.of_mem_nodes member) parents
      exact ⟨_, nested⟩
    obtain ⟨children, inner⟩ := exists_nestAll store each (fetched store parents node)
    exact ⟨children, inner, nestNode_of_ok (readable node node.self_mem_subtrees) inner⟩

theorem Readable.exists_nested {node : RelationTree} (readable : node.Readable)
    (parents : List Tuple) : ∃ nested, nestNode store parents node = .ok nested := by
  obtain ⟨children, _, nested⟩ := readable.exists_nestNode store parents
  exact ⟨_, nested⟩

/-! ### Nodes beside the path -/

theorem restriction_congr {keys : JoinKeys} {parents parents' : List Tuple}
    (same : ∀ column ∈ keys.keys, parents'.map (·.get? column) = parents.map (·.get? column)) :
    keys.restriction parents' = keys.restriction parents := by
  have found (tuples : List Tuple) (column : String) :
      tuples.filterMap (·.get? column) = (tuples.map (·.get? column)).filterMap id := by
    rw [List.filterMap_map]
    rfl
  rw [JoinKeys.restriction, JoinKeys.restriction]
  refine List.foldl_ext _ _ _ fun criteria pair member => ?_
  obtain ⟨parentColumn, childColumn⟩ := pair
  dsimp only
  rw [columnValues, columnValues, found, found,
    same parentColumn (JoinKeys.mem_keys_of_mem_pairs member)]

section Beside

variable {name : String} {edit : Tuple → Tuple} {node : RelationTree}

/-- Parents that are the same but for the edit are given the same, but for the edit. -/
theorem editUnder_giveChildren_congr (apart : name ∉ node.link.parentColumns)
    (children : List Tuple) {parent parent' : Tuple}
    (same : parent'.editUnder name edit = parent.editUnder name edit) :
    (giveChildren node.name node.link children parent').editUnder name edit =
      (giveChildren node.name node.link children parent).editUnder name edit := by
  have joined : node.link.keys.joins parent' = node.link.keys.joins parent := by
    funext child
    refine JoinKeys.joins_congr (fun column member => ?_) fun _ _ => rfl
    have other : column ≠ name := fun here => apart (here ▸ member)
    rw [← Tuple.get?_editUnder_of_ne other edit parent', same, Tuple.get?_editUnder_of_ne other]
  rw [giveChildren, giveChildren, Tuple.editUnder_insert, Tuple.editUnder_insert, same, joined]

/-- A node beside the path adds the same to parents that are the same but for the edit. -/
theorem nestNode_congr (readable : node.Readable) (apart : name ∉ node.link.parentColumns)
    {parents parents' : List Tuple}
    (same : parents'.map (·.editUnder name edit) = parents.map (·.editUnder name edit)) :
    ∃ nested nested', nestNode store parents node = .ok nested ∧
      nestNode store parents' node = .ok nested' ∧
      nested'.map (·.editUnder name edit) = nested.map (·.editUnder name edit) := by
  have columns : ∀ column ∈ node.link.keys.keys,
      parents'.map (·.get? column) = parents.map (·.get? column) := by
    intro column joined
    have other : column ≠ name := fun here => apart (here ▸ joined)
    refine List.map_eq_of_map_eq (fun parent' parent alike => ?_) same
    rw [← Tuple.get?_editUnder_of_ne other edit parent', alike, Tuple.get?_editUnder_of_ne other]
  have rows : fetched store parents' node = fetched store parents node := by
    rw [fetched, fetched, restriction_congr columns]
  obtain ⟨children, inner, nested⟩ := readable.exists_nestNode store parents
  have nested' := nestNode_of_ok (readable node node.self_mem_subtrees) (rows ▸ inner)
  refine ⟨_, _, nested, nested', ?_⟩
  rw [List.map_map, List.map_map]
  exact List.map_eq_of_map_eq (fun _ _ => editUnder_giveChildren_congr apart children) same

theorem nestAll_congr {nodes : List RelationTree} (readable : ∀ node ∈ nodes, node.Readable)
    (apart : ∀ node ∈ nodes, name ∉ node.link.parentColumns) {parents parents' : List Tuple}
    (same : parents'.map (·.editUnder name edit) = parents.map (·.editUnder name edit)) :
    ∃ loaded loaded', nestAll store parents nodes = .ok loaded ∧
      nestAll store parents' nodes = .ok loaded' ∧
      loaded'.map (·.editUnder name edit) = loaded.map (·.editUnder name edit) := by
  induction nodes generalizing parents parents' with
  | nil => exact ⟨parents, parents', rfl, rfl, same⟩
  | cons node rest ih =>
    obtain ⟨here, readable⟩ := List.forall_mem_cons.mp readable
    obtain ⟨clear, apart⟩ := List.forall_mem_cons.mp apart
    obtain ⟨nested, nested', made, made', alike⟩ := nestNode_congr store here clear same
    rw [nestAll, nestAll, made, made']
    exact ih readable apart alike

end Beside

/-! ### The node on the path -/

/-- Where the edit covers no column that a node is joined to its parent on, its tuples are handed
out as without the edit. -/
theorem editUnder_giveChildren {node : RelationTree} {edit : Tuple → Tuple}
    (kept : ∀ child : Tuple, ∀ column ∈ node.link.childColumns,
      (edit child).get? column = child.get? column)
    (children : List Tuple) (parent : Tuple) :
    (giveChildren node.name node.link children parent).editUnder node.name edit =
      (parent.editUnder node.name edit).insert node.name
        (node.link.nested ((children.map edit).filter (node.link.keys.joins parent))) := by
  have joined : node.link.keys.joins parent ∘ edit = node.link.keys.joins parent := by
    funext child
    exact JoinKeys.joins_congr (fun _ _ => rfl) (kept child)
  rw [giveChildren, Tuple.editUnder_insert, if_pos rfl, Link.mapTuples_nested, List.filter_map,
    joined]

/-- Children that are the same but for the edit are handed out alike. -/
theorem map_giveChildren_congr {node : RelationTree} {edit : Tuple → Tuple}
    (kept : ∀ child : Tuple, ∀ column ∈ node.link.childColumns,
      (edit child).get? column = child.get? column)
    {children children' : List Tuple} (same : children'.map edit = children.map edit)
    (parents : List Tuple) :
    (parents.map (giveChildren node.name node.link children')).map (·.editUnder node.name edit) =
      (parents.map (giveChildren node.name node.link children)).map
        (·.editUnder node.name edit) := by
  rw [List.map_map, List.map_map]
  refine List.map_congr_left fun parent _ => ?_
  rw [Function.comp_apply, Function.comp_apply, editUnder_giveChildren kept,
    editUnder_giveChildren kept, same]

theorem nestAll_attach {child tree extended : RelationTree} {path : List String}
    (attaches : Attaches child path tree extended) (apart : tree.PathApart child.name path)
    (readable : ∀ node ∈ tree.nodes, node.Readable) (childReadable : child.Readable)
    (rows : List Tuple) :
    ∃ loaded loaded', nestAll store rows tree.nodes = .ok loaded ∧
      nestAll store rows extended.nodes = .ok loaded' ∧
      loaded'.map (·.eraseAt child.name path) = loaded.map (·.eraseAt child.name path) := by
  induction attaches generalizing rows with
  | @here tree extended fresh success =>
    obtain ⟨loaded, before⟩ := exists_nestAll store (fun node member parents =>
      (readable node member).exists_nested store parents) rows
    obtain ⟨children, _, nested⟩ := childReadable.exists_nestNode store loaded
    refine ⟨loaded, loaded.map (giveChildren child.name child.link children), before, ?_, ?_⟩
    · rw [nodes_attach fresh success, nestAll_append, before]
      change nestAll store loaded [child] = _
      rw [nestAll, nested]
      rfl
    · rw [List.map_map]
      exact List.map_congr_left fun tuple _ => Entries.erase_insert_self _ _ tuple
  | @inside relation name link before after node extended path inner ih =>
    obtain ⟨later, here⟩ := apart
    have member : node ∈ before ++ node :: after :=
      List.mem_append_right _ List.mem_cons_self
    obtain ⟨clear, apart⟩ := here node member rfl
    have own : node.Readable := readable node member
    obtain ⟨sameRelation, sameName, sameLink⟩ := inner.same
    obtain ⟨parents, first⟩ := exists_nestAll store (fun other among parents =>
      (readable other (List.mem_append_left _ among)).exists_nested store parents) rows
    -- The same rows are fetched for the node, with the child or without it.
    obtain ⟨children, children', inside, inside', same⟩ :=
      ih apart (fun _ => own.of_mem_nodes) (fetched store parents node)
    have nested := nestNode_of_ok (own node node.self_mem_subtrees) inside
    have nested' : nestNode store parents extended =
        .ok (parents.map (giveChildren node.name node.link children')) := by
      have accepts : extended.relation.gateway.refuse .fetch = none :=
        sameRelation ▸ own node node.self_mem_subtrees
      have rows : fetched store parents extended = fetched store parents node := by
        rw [fetched, fetched, sameRelation, sameLink]
      rw [nestNode_of_ok accepts (rows ▸ inside'), sameName, sameLink]
    have kept : ∀ tuple : Tuple, ∀ column ∈ node.link.childColumns,
        (tuple.eraseAt child.name path).get? column = tuple.get? column :=
      fun tuple column joined => Tuple.get?_eraseAt (fun covered => clear (covered ▸ joined)) tuple
    have alike := map_giveChildren_congr kept same parents
    -- The nodes behind it are joined by other columns, so they add the same.
    have behind : ∀ other ∈ after, node.name ∉ other.link.parentColumns := fun other among =>
      (List.pairwise_cons.mp (List.pairwise_append.mp later).2.1).1 other among rfl
    obtain ⟨loaded, loaded', rest, rest', final⟩ := nestAll_congr store
      (fun other among => readable other (List.mem_append_right _ (List.mem_cons_of_mem _ among)))
      behind alike
    refine ⟨loaded, loaded', ?_, ?_, final⟩
    · rw [nestAll_append, first]
      change nestAll store parents (node :: after) = _
      rw [nestAll, nested]
      exact rest
    · rw [nestAll_append, first]
      change nestAll store parents (extended :: after) = _
      rw [nestAll, nested']
      exact rest'

/-- Where the names on the way to a further child, and its own, cover no column that is joined on,
the child is all that it adds: erased from the tuples at its position, it leaves what the tree loads
without it, every other child under the parent that it had. -/
theorem load_attach {child tree extended : RelationTree} {path : List String}
    (attaches : Attaches child path tree extended) (apart : tree.PathApart child.name path)
    (readable : tree.Readable) (childReadable : child.Readable) :
    ∃ loaded loaded', tree.load store = .ok loaded ∧ extended.load store = .ok loaded' ∧
      loaded'.map (·.eraseAt child.name path) = loaded.map (·.eraseAt child.name path) := by
  have accepts := readable tree tree.self_mem_subtrees
  have sameRelation := attaches.same.1
  obtain ⟨loaded, loaded', before, after, same⟩ := nestAll_attach store attaches apart
    (fun _ => readable.of_mem_nodes) childReadable
    ((tree.relation.rows store).filter tree.relation.criteria.matchesTuple)
  refine ⟨loaded, loaded', ?_, ?_, same⟩
  · rw [load_eq accepts, before]
  · rw [load_eq (sameRelation ▸ accepts), sameRelation, after]

end RelationTree

namespace Sample

def owner (name : String) : RelationTree :=
  (tree "users" []).combined name (.ofList [("user_id", "id")]) .one

def usersWith (nodes : List RelationTree) : RelationTree :=
  tree "users" [many "tasks" [("id", "user_id")] (tree "tasks" nodes)]

theorem attaches_owner (name : String) :
    RelationTree.Attaches (owner name) ["tasks"] (usersWith []) (usersWith [owner name]) := by
  have under : RelationTree.Attaches (owner name) [] (many "tasks" [("id", "user_id")]
      (tree "tasks" [])) (many "tasks" [("id", "user_id")] (tree "tasks" [owner name])) := by
    let entry : Attachment :=
      .explicit .one name (tree "users" []) (some (.ofList [("user_id", "id")]))
    have given : RelationTree.nodeFor catalog
        (many "tasks" [("id", "user_id")] (tree "tasks" [])) entry = .ok (owner name) := rfl
    exact .of_combine given (fun _ member => by cases member) rfl
  exact @RelationTree.Attaches.inside _ (relation "users") "users" .root [] [] _ _ _ under

end Sample

namespace RelationTree

/-- The user of each task is put into it, under a name of its own. -/
theorem load_attach_owner :
    let store := Sample.store
      [("tasks", [[("id", .ofNat 1), ("title", .string "Sweep"), ("user_id", .ofNat 1)]]),
        ("users", [[("id", .ofNat 1)], [("id", .ofNat 2)]])]
    Attaches (Sample.owner "owner") ["tasks"] (Sample.usersWith [])
        (Sample.usersWith [Sample.owner "owner"]) ∧
      (Sample.usersWith []).PathApart "owner" ["tasks"] ∧
      (Sample.usersWith []).Readable ∧ (Sample.owner "owner").Readable ∧
      ∃ loaded loaded', (Sample.usersWith []).load store = .ok loaded ∧
        (Sample.usersWith [Sample.owner "owner"]).load store = .ok loaded' ∧
        loaded'.map (·.eraseAt "owner" ["tasks"]) = loaded.map (·.eraseAt "owner" ["tasks"]) := by
  intro store
  have apart : (Sample.usersWith []).PathApart "owner" ["tasks"] := by
    simp only [PathApart]
    decide
  have readable : (Sample.usersWith []).Readable := by
    unfold Readable
    decide
  have childReadable : (Sample.owner "owner").Readable := by
    unfold Readable
    decide
  exact ⟨Sample.attaches_owner "owner", apart, readable, childReadable,
    load_attach store (Sample.attaches_owner "owner") apart readable childReadable⟩

end RelationTree

namespace Sample

/-- Under the name of the column that tasks are joined by, their users take the place of the key,
and no user is given a task. -/
theorem not_conservative_owner :
    let store := store
      [("tasks", [[("id", .ofNat 1), ("title", .string "Sweep"), ("user_id", .ofNat 1)]]),
        ("users", [[("id", .ofNat 1)]])]
    let task : Json := .object [("id", .ofNat 1), ("title", .string "Sweep")]
    ∃ loaded loaded',
      (usersWith []).Built catalog ∧ (tree "users" []).Built catalog ∧
        RelationTree.Attaches (owner "user_id") ["tasks"] (usersWith [])
          (usersWith [owner "user_id"]) ∧
        (usersWith []).load store = .ok loaded ∧
        (usersWith [owner "user_id"]).load store = .ok loaded' ∧
        loaded.map (·.eraseAt "user_id" ["tasks"]) =
          [[("id", .ofNat 1), ("tasks", .array [task])]] ∧
        loaded'.map (·.eraseAt "user_id" ["tasks"]) = [[("id", .ofNat 1), ("tasks", .array [])]] ∧
        loaded'.map (·.eraseAt "user_id" ["tasks"]) ≠
          loaded.map (·.eraseAt "user_id" ["tasks"]) := by
  intro store task
  have built : (usersWith []).Built catalog :=
    (built_leaf "users" rfl).combineTree (built_leaf "tasks" rfl) .many "tasks"
      (.ofList [("id", "user_id")]) rfl
  have differ : ([[("id", .ofNat 1), ("tasks", .array [])]] : List Tuple) ≠
      [[("id", .ofNat 1), ("tasks", .array [task])]] := by
    intro same
    cases same
  exact ⟨_, _, built, built_leaf "users" rfl, attaches_owner "user_id", rfl, rfl, rfl, rfl, differ⟩

end Sample

end RelationGraph
