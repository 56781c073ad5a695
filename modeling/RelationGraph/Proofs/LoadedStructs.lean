import RelationGraph.Proofs.CacheTransparency
import RelationGraph.Proofs.StructMapping
import RelationGraph.Proofs.WriteHistories

set_option autoImplicit false

namespace RelationGraph

/-- The columns of a tuple that are taken over as they are: the declared ones, or else all but those
under the names of nodes. -/
def Tuple.ownColumns (declared names : List String) (tuple : Tuple) : List (String × Json) :=
  if declared.isEmpty then tuple.without names
  else declared.map fun column => (column, tuple.read column)

/-- The projection of what stands under the name of a node: an array for many, and an object or null
for one. -/
def Link.projected (link : Link) (project : Tuple → Tuple) (value : Json) : Json :=
  match link.cardinality, value with
  | some .many, .array items =>
    .array (items.map fun
      | .object tuple => .object (project tuple)
      | item => item)
  | some .many, _ => .array []
  | _, .object tuple => .object (project tuple)
  | _, _ => .null

theorem Link.nested_of_many {link : Link} (many : link.cardinality = some .many)
    (children : List Tuple) : link.nested children = .array (children.map .object) := by
  rw [nested, many]

theorem Link.nested_of_not_many {link : Link} (single : link.cardinality ≠ some .many)
    (children : List Tuple) : link.nested children = .ofOption (children.head?.map .object) := by
  rw [nested]
  split
  · exact absurd ‹_› single
  · rfl

theorem Link.projected_nested (link : Link) (project : Tuple → Tuple) (children : List Tuple) :
    link.projected project (link.nested children) = link.nested (children.map project) := by
  unfold projected nested
  cases link.cardinality with
  | none => cases children <;> rfl
  | some cardinality =>
    cases cardinality with
    | one => cases children <;> rfl
    | many => simp [Function.comp_def]

namespace RelationTree

mutual

/-- What a tree says of a tuple: its own columns, and under the name of each node the projection of
what is nested there, which covers a column of that name. -/
def project : RelationTree → Tuple → Tuple
  | ⟨relation, _, _, nodes⟩, tuple =>
    .ofList (tuple.ownColumns relation.schema.attributes (nodes.map (·.name)) ++
      projectNodes tuple nodes)

def projectNodes (tuple : Tuple) : List RelationTree → List (String × Json)
  | [] => []
  | ⟨relation, name, link, nodes⟩ :: rest =>
    (name, link.projected (project ⟨relation, name, link, nodes⟩) (tuple.read name)) ::
      projectNodes tuple rest

end

theorem projectNodes_eq (tuple : Tuple) (nodes : List RelationTree) :
    projectNodes tuple nodes = nodes.map fun node =>
      (node.name, node.link.projected node.project (tuple.read node.name)) := by
  induction nodes with
  | nil => rfl
  | cons node rest ih =>
    rw [List.map_cons, ← ih]
    cases node
    rfl

theorem project_eq (tree : RelationTree) (tuple : Tuple) :
    tree.project tuple =
      .ofList (tuple.ownColumns tree.relation.schema.attributes (tree.nodes.map (·.name)) ++
        tree.nodes.map fun node =>
          (node.name, node.link.projected node.project (tuple.read node.name))) := by
  rw [← projectNodes_eq]
  cases tree
  rfl

mutual

def layout : RelationTree → StructLayout
  | ⟨relation, name, link, nodes⟩ =>
    ⟨name, link.cardinality.getD .one, relation.schema.attributes, layouts nodes⟩

def layouts : List RelationTree → List StructLayout
  | [] => []
  | tree :: rest => layout tree :: layouts rest

end

theorem layouts_eq (trees : List RelationTree) : layouts trees = trees.map layout := by
  induction trees with
  | nil => rfl
  | cons tree rest ih => rw [layouts, List.map_cons, ih]

theorem layouts_names (trees : List RelationTree) :
    (layouts trees).map (·.name) = trees.map (·.name) := by
  rw [layouts_eq, List.map_map]
  refine List.map_congr_left fun tree _ => ?_
  cases tree
  rfl

theorem attributesIn_toPlans (names : List String) (nodes : List RelationTree) :
    Plan.attributesIn (names.map Plan.attribute ++ toPlans nodes) = names := by
  induction names with
  | nil =>
    induction nodes with
    | nil => rfl
    | cons node rest ih =>
      cases node
      exact ih
  | cons name rest ih => rw [List.map_cons, List.cons_append, Plan.attributesIn, ih]

theorem layoutsIn_attributes_append (names : List String) (plans : List Plan) :
    StructLayout.layoutsIn (names.map Plan.attribute ++ plans) = StructLayout.layoutsIn plans := by
  induction names with
  | nil => rfl
  | cons name rest ih =>
    rw [List.map_cons, List.cons_append, StructLayout.layoutsIn, ih]
    rfl

mutual

theorem layoutsOf_toPlan (tree : RelationTree) :
    StructLayout.layoutsOf tree.toPlan = [tree.layout] := by
  match tree with
  | ⟨relation, name, link, nodes⟩ =>
    rw [toPlan, StructLayout.layoutsOf, attributesIn_toPlans, layoutsIn_attributes_append,
      layoutsIn_toPlans nodes, layout]

theorem layoutsIn_toPlans (trees : List RelationTree) :
    StructLayout.layoutsIn (toPlans trees) = layouts trees := by
  match trees with
  | [] => rfl
  | tree :: rest =>
    rw [toPlans, StructLayout.layoutsIn, layoutsOf_toPlan tree, layoutsIn_toPlans rest]
    rfl

end

theorem ofPlan_toPlan (tree : RelationTree) :
    StructLayout.ofPlan tree.toPlan = .ok tree.layout := by
  cases tree with
  | mk relation name link nodes =>
    rw [toPlan, StructLayout.ofPlan, attributesIn_toPlans, layoutsIn_attributes_append,
      layoutsIn_toPlans nodes, layout]

/-! ### What loading leaves in tuples -/

mutual

/-- Under the name of each node the tuple holds what the node's link gives out, at every level, and
every tuple is good. -/
def Filled (good : Tuple → Prop) : RelationTree → Tuple → Prop
  | ⟨_, _, _, nodes⟩, tuple => good tuple ∧ FilledAll good tuple nodes

def FilledAll (good : Tuple → Prop) (tuple : Tuple) : List RelationTree → Prop
  | [] => True
  | ⟨relation, name, link, nodes⟩ :: rest =>
    (∃ children : List Tuple, tuple.get? name = some (link.nested children) ∧
      ∀ child ∈ children, Filled good ⟨relation, name, link, nodes⟩ child) ∧
      FilledAll good tuple rest

end

theorem filled_iff {good : Tuple → Prop} {tree : RelationTree} {tuple : Tuple} :
    tree.Filled good tuple ↔ good tuple ∧ ∀ node ∈ tree.nodes, ∃ children : List Tuple,
      tuple.get? node.name = some (node.link.nested children) ∧
        ∀ child ∈ children, node.Filled good child := by
  have all (nodes : List RelationTree) : FilledAll good tuple nodes ↔
      ∀ node ∈ nodes, ∃ children : List Tuple,
        tuple.get? node.name = some (node.link.nested children) ∧
          ∀ child ∈ children, node.Filled good child := by
    induction nodes with
    | nil => simp [FilledAll]
    | cons node rest ih =>
      rw [List.forall_mem_cons, ← ih]
      cases node
      rfl
  rw [← all]
  cases tree
  rfl

/-- Nodes beside each other have different names, at every level. -/
def NamesDiffer (tree : RelationTree) : Prop :=
  ∀ other ∈ tree.subtrees, (other.nodes.map (·.name)).Nodup

theorem NamesDiffer.of_mem_nodes {tree node : RelationTree} (differ : tree.NamesDiffer)
    (child : node ∈ tree.nodes) : node.NamesDiffer :=
  fun other inside => differ other (mem_subtrees_of_mem_nodes child inside)

theorem Sound.namesDiffer {catalog : Catalog} {tree : RelationTree} (sound : Sound catalog tree) :
    tree.NamesDiffer := by
  intro other inside
  cases sound.of_mem_subtrees inside with
  | intro _ distinct _ _ _ => exact distinct

end RelationTree

def Store.All (good : Tuple → Prop) (store : Store) : Prop :=
  ∀ gateway name, ∀ row ∈ (store.dataset gateway name).rows, good row

theorem Relation.mem_of_load {relation : Relation} {store : Store} {rows : List Tuple}
    (loaded : relation.load store = .ok rows) {row : Tuple} (member : row ∈ rows) :
    row ∈ relation.rows store := by
  obtain ⟨_, _, fetched⟩ := Except.bind_eq_ok.mp loaded
  cases fetched
  exact (List.mem_filter.mp member).1

namespace RelationTree

section Loading

variable {good : Tuple → Prop} {store : Store}

theorem nestAll_nil (store : Store) (nodes : List RelationTree) :
    nestAll store [] nodes = .ok [] := by
  induction nodes with
  | nil => rfl
  | cons node rest ih =>
    have empty : nestNode store [] node = .ok [] := by
      cases node
      rfl
    rw [nestAll, empty]
    exact ih

/-- Parents are given what rows of the node were loaded to. -/
theorem exists_children_of_nestNode {node : RelationTree} {parents nested : List Tuple}
    (made : nestNode store parents node = .ok nested) :
    ∃ rows children, (∀ row ∈ rows, row ∈ node.relation.rows store) ∧
      nestAll store rows node.nodes = .ok children ∧
      nested = parents.map (giveChildren node.name node.link children) := by
  obtain ⟨relation, name, link, nodes⟩ := node
  by_cases empty : parents = []
  · subst empty
    cases made
    exact ⟨[], [], fun _ member => (by cases member), nestAll_nil store nodes, rfl⟩
  · rw [nestNode, if_neg (by simpa using empty)] at made
    obtain ⟨rows, fetched, made⟩ := Except.bind_eq_ok.mp made
    obtain ⟨children, inner, made⟩ := Except.bind_eq_ok.mp made
    cases made
    exact ⟨rows, children, fun row member => Relation.mem_of_load fetched member, inner, rfl⟩

/-- Nodes that are nested change a tuple under their names alone. -/
theorem exists_parent_of_nestAll {nodes : List RelationTree} {parents tuples : List Tuple}
    (loaded : nestAll store parents nodes = .ok tuples) {tuple : Tuple} (member : tuple ∈ tuples) :
    ∃ parent ∈ parents, ∀ column, column ∉ nodes.map (·.name) →
      tuple.get? column = parent.get? column := by
  induction nodes generalizing parents with
  | nil =>
    cases loaded
    exact ⟨tuple, member, fun _ _ => rfl⟩
  | cons node rest ih =>
    obtain ⟨nested, made, loaded⟩ := Except.bind_eq_ok.mp loaded
    obtain ⟨between, inside, same⟩ := ih loaded
    obtain ⟨_, children, _, _, rfl⟩ := exists_children_of_nestNode made
    obtain ⟨parent, given, rfl⟩ := List.mem_map.mp inside
    refine ⟨parent, given, fun column other => ?_⟩
    rw [List.map_cons, List.mem_cons, not_or] at other
    rw [same column other.2, giveChildren, Tuple.get?_insert_of_ne other.1]

/-- Tuples stay good while nodes are nested, if rows are good and an insertion keeps them so. -/
theorem good_of_nestAll
    (grows : ∀ tuple column value, good tuple → good (tuple.insert column value))
    {nodes : List RelationTree} {parents tuples : List Tuple}
    (loaded : nestAll store parents nodes = .ok tuples) (given : ∀ parent ∈ parents, good parent) :
    ∀ tuple ∈ tuples, good tuple := by
  induction nodes generalizing parents with
  | nil =>
    cases loaded
    exact given
  | cons node rest ih =>
    obtain ⟨nested, made, loaded⟩ := Except.bind_eq_ok.mp loaded
    obtain ⟨_, children, _, _, rfl⟩ := exists_children_of_nestNode made
    refine ih loaded fun between inside => ?_
    obtain ⟨parent, member, rfl⟩ := List.mem_map.mp inside
    exact grows parent _ _ (given parent member)

/-- Each node stands in the tuples as its link gives it out, with children that are filled
themselves. -/
theorem exists_nested_of_nestAll {nodes : List RelationTree} {parents tuples : List Tuple}
    (filled : ∀ node ∈ nodes, ∀ rows children, (∀ row ∈ rows, row ∈ node.relation.rows store) →
      nestAll store rows node.nodes = .ok children → ∀ child ∈ children, node.Filled good child)
    (distinct : (nodes.map (·.name)).Nodup) (loaded : nestAll store parents nodes = .ok tuples)
    {tuple : Tuple} (member : tuple ∈ tuples) :
    ∀ node ∈ nodes, ∃ children : List Tuple,
      tuple.get? node.name = some (node.link.nested children) ∧
        ∀ child ∈ children, node.Filled good child := by
  induction nodes generalizing parents with
  | nil => exact fun _ inside => (by cases inside)
  | cons node rest ih =>
    obtain ⟨fresh, distinct⟩ := List.nodup_cons.mp distinct
    obtain ⟨here, others⟩ := List.forall_mem_cons.mp filled
    obtain ⟨nested, made, loaded⟩ := Except.bind_eq_ok.mp loaded
    refine List.forall_mem_cons.mpr ⟨?_, ih others distinct loaded⟩
    obtain ⟨between, inside, same⟩ := exists_parent_of_nestAll loaded member
    obtain ⟨rows, children, stored, inner, rfl⟩ := exists_children_of_nestNode made
    obtain ⟨parent, _, rfl⟩ := List.mem_map.mp inside
    refine ⟨children.filter (node.link.keys.joins parent), ?_, fun child given => ?_⟩
    · rw [same node.name fresh, giveChildren, Tuple.get?_insert, if_pos rfl]
    · exact here rows children stored inner child (List.mem_filter.mp given).1

theorem filled_of_nestAll
    (grows : ∀ tuple column value, good tuple → good (tuple.insert column value))
    (stored : store.All good) {tree : RelationTree} (differ : tree.NamesDiffer)
    {rows tuples : List Tuple} (given : ∀ row ∈ rows, row ∈ tree.relation.rows store)
    (loaded : nestAll store rows tree.nodes = .ok tuples) :
    ∀ tuple ∈ tuples, tree.Filled good tuple := by
  induction tree using induction generalizing rows tuples with
  | step tree ih =>
    intro tuple member
    refine filled_iff.mpr ⟨?_, ?_⟩
    · exact good_of_nestAll grows loaded (fun row inside => stored _ _ row (given row inside))
        tuple member
    · refine exists_nested_of_nestAll ?_ (differ tree tree.self_mem_subtrees) loaded member
      intro node child rows children inside inner
      exact ih node child (differ.of_mem_nodes child) inside inner

/-- Loaded tuples are filled at every level. -/
theorem filled_of_load
    (grows : ∀ tuple column value, good tuple → good (tuple.insert column value))
    (stored : store.All good) {tree : RelationTree} (differ : tree.NamesDiffer)
    {tuples : List Tuple} (loaded : tree.load store = .ok tuples) :
    ∀ tuple ∈ tuples, tree.Filled good tuple := by
  obtain ⟨rows, fetched, loaded⟩ := Except.bind_eq_ok.mp loaded
  exact filled_of_nestAll grows stored differ (fun row => Relation.mem_of_load fetched) loaded

end Loading

end RelationTree

/-! ### Structs of filled tuples -/

namespace Struct

theorem columns_eq_map (attributes : List (String × Attribute)) :
    columns attributes = attributes.map fun entry => (entry.1, attributeValue entry.2) := by
  induction attributes with
  | nil => rfl
  | cons entry rest ih => rw [columns, ih, List.map_cons]

theorem columns_append (first second : List (String × Attribute)) :
    columns (first ++ second) = columns first ++ columns second := by
  rw [columns_eq_map, columns_eq_map, columns_eq_map, List.map_append]

theorem itemValues_eq_map (structs : List Struct) :
    itemValues structs = structs.map fun struct => .object struct.toTuple := by
  induction structs with
  | nil => rfl
  | cons struct rest ih => rw [itemValues, ih, List.map_cons]

end Struct

namespace StructLayout

theorem columns_plainAttributes (declared : List String) (nodes : List StructLayout)
    (tuple : Tuple) :
    Struct.columns (plainAttributes declared nodes tuple) =
      tuple.ownColumns declared (nodes.map (·.name)) := by
  rw [Struct.columns_eq_map, plainAttributes, Tuple.ownColumns]
  split
  · rw [List.map_map, Tuple.without]
    have same : (tuple.filter fun column => !nodes.any (·.name = column.1)) =
        tuple.filter fun column => column.1 ∉ nodes.map (·.name) := by
      apply List.filter_congr
      intro column _
      rw [Bool.eq_iff_iff]
      simp
    rw [same]
    exact List.map_id _
  · rw [List.map_map]
    rfl

end StructLayout

namespace RelationTree

variable {good : Tuple → Prop}

theorem exists_structs {map : Tuple → Except Fault Struct} {project : Tuple → Tuple}
    {tuples : List Tuple}
    (each : ∀ tuple ∈ tuples, ∃ struct, map tuple = .ok struct ∧ struct.toTuple = project tuple) :
    ∃ structs, tuples.mapM map = .ok structs ∧
      structs.map Struct.toTuple = tuples.map project := by
  induction tuples with
  | nil => exact ⟨[], rfl, rfl⟩
  | cons tuple rest ih =>
    obtain ⟨⟨struct, mapped, same⟩, others⟩ := List.forall_mem_cons.mp each
    obtain ⟨structs, later, alike⟩ := ih others
    refine ⟨struct :: structs, ?_, ?_⟩
    · rw [List.mapM_cons, mapped, later]
      rfl
    · rw [List.map_cons, List.map_cons, same, alike]

theorem exists_mapNested {name : String} {link : Link} {map : Tuple → Except Fault Struct}
    {project : Tuple → Tuple} {children : List Tuple}
    (each : ∀ child ∈ children, ∃ struct, map child = .ok struct ∧ struct.toTuple = project child) :
    ∃ nested, StructLayout.mapNested name (link.cardinality.getD .one) map
        (link.nested children) = .ok nested ∧
      Struct.attributeValue nested = link.projected project (link.nested children) := by
  rw [Link.projected_nested]
  by_cases many : link.cardinality = some .many
  · obtain ⟨structs, mapped, same⟩ := exists_structs each
    have items : (children.map Json.object).mapM (StructLayout.mapItem name map) =
        .ok structs := by
      rw [List.mapM_map]
      exact mapped
    have values := congrArg (List.map Json.object) same
    rw [List.map_map] at values
    rw [Link.nested_of_many many, Link.nested_of_many many]
    refine ⟨.many structs, ?_, ?_⟩
    · rw [StructLayout.mapNested, items]
      rfl
    · rw [Struct.attributeValue, Struct.itemValues_eq_map]
      exact congrArg Json.array values
  · have one : link.cardinality.getD .one = .one := by
      cases card : link.cardinality with
      | none => rfl
      | some cardinality =>
        cases cardinality with
        | one => rfl
        | many => exact absurd card many
    rw [Link.nested_of_not_many many, Link.nested_of_not_many many, one]
    cases children with
    | nil => exact ⟨.absent, rfl, rfl⟩
    | cons child rest =>
      obtain ⟨struct, mapped, same⟩ := each child List.mem_cons_self
      refine ⟨.one struct, ?_, congrArg Json.object same⟩
      show (do return Attribute.one (← map child)) = _
      rw [mapped]
      rfl

theorem exists_mapNodes {nodes : List RelationTree} {tuple : Tuple}
    (each : ∀ node ∈ nodes, ∃ nested,
      StructLayout.mapNested node.name (node.link.cardinality.getD .one) node.layout.mapTuple
          (tuple.read node.name) = .ok nested ∧
        Struct.attributeValue nested = node.link.projected node.project (tuple.read node.name)) :
    ∃ nested, StructLayout.mapNodes tuple (layouts nodes) = .ok nested ∧
      Struct.columns nested = projectNodes tuple nodes := by
  induction nodes with
  | nil => exact ⟨[], rfl, rfl⟩
  | cons node rest ih =>
    obtain ⟨⟨nested, mapped, same⟩, others⟩ := List.forall_mem_cons.mp each
    obtain ⟨remaining, finished, alike⟩ := ih others
    obtain ⟨relation, name, link, inner⟩ := node
    refine ⟨(name, nested) :: remaining, ?_, ?_⟩
    · rw [layouts, layout, StructLayout.mapNodes]
      rw [layout] at mapped
      rw [mapped, finished]
      rfl
    · rw [Struct.columns, projectNodes, same, alike]

/-- A filled tuple becomes a struct, whose tuple is the projection. -/
theorem exists_struct {tree : RelationTree} {tuple : Tuple} (filled : tree.Filled good tuple) :
    ∃ struct, tree.layout.mapTuple tuple = .ok struct ∧ struct.toTuple = tree.project tuple := by
  induction tree using induction generalizing tuple with
  | step tree ih =>
    obtain ⟨_, held⟩ := filled_iff.mp filled
    obtain ⟨nested, mapped, same⟩ := @exists_mapNodes tree.nodes tuple fun node child => by
      obtain ⟨children, given, inner⟩ := held node child
      rw [Tuple.read_of_get? given]
      exact exists_mapNested fun tuple member => ih node child (inner tuple member)
    obtain ⟨relation, name, link, inner⟩ := tree
    refine ⟨.mk name (StructLayout.plainAttributes relation.schema.attributes (layouts inner) tuple
      ++ nested), ?_, ?_⟩
    · rw [layout, StructLayout.mapTuple, mapped]
      rfl
    · rw [Struct.toTuple, Struct.columns_append, StructLayout.columns_plainAttributes, same,
        layouts_names, project]

/-! ### What a projection says -/

theorem sorted_project (tree : RelationTree) (tuple : Tuple) :
    Entries.Sorted (tree.project tuple) := by
  rw [project_eq]
  exact Entries.sorted_ofList _

/-- Under the name of a node stands the projection of what is nested there. -/
theorem get?_project_of_mem {tree node : RelationTree} (child : node ∈ tree.nodes)
    (distinct : (tree.nodes.map (·.name)).Nodup) (tuple : Tuple) :
    (tree.project tuple).get? node.name =
      some (node.link.projected node.project (tuple.read node.name)) := by
  have pairs : (tree.nodes.map fun node =>
      (node.name, node.link.projected node.project (tuple.read node.name))).map (·.1) =
        tree.nodes.map (·.name) := by
    rw [List.map_map]
    rfl
  have found := Entries.get?_ofList_of_mem (pairs ▸ distinct) (List.mem_map_of_mem child)
  rw [project_eq, Tuple.get?, Tuple.ofList, Entries.get?_ofList_append, found, Option.some_or]

/-- Any other column is there if it is declared, and null where the tuple lacks it; where none is
declared it stands as in the tuple. -/
theorem get?_project_of_not_mem {tree : RelationTree} {column : String}
    (other : column ∉ tree.nodes.map (·.name)) {tuple : Tuple} (sorted : Entries.Sorted tuple) :
    (tree.project tuple).get? column =
      if tree.relation.schema.attributes = [] then tuple.get? column
      else if column ∈ tree.relation.schema.attributes then some (tuple.read column)
      else none := by
  have fresh : ∀ pair ∈ tree.nodes.map fun node =>
      (node.name, node.link.projected node.project (tuple.read node.name)), pair.1 ≠ column := by
    rintro pair member rfl
    obtain ⟨node, child, rfl⟩ := List.mem_map.mp member
    exact other (List.mem_map_of_mem child)
  rw [project_eq, Tuple.get?, Tuple.ofList, Entries.get?_ofList_append,
    Entries.get?_ofList_of_fresh fresh, Option.none_or, Tuple.ownColumns]
  by_cases none : tree.relation.schema.attributes = []
  · have kept : Entries.Sorted (tuple.without (tree.nodes.map (·.name))) := sorted.filter _
    rw [if_pos none, if_pos (by rw [none]; rfl), Entries.get?_ofList kept.nodup, Tuple.without,
      Entries.get?_filter fun _ => by simpa using other]
    rfl
  · rw [if_neg none, if_neg (by simpa using none)]
    exact Entries.get?_ofList_map tuple.read column _

example :
    let users := Sample.tree "users"
      [Sample.many "tasks" [("id", "user_id")] (Sample.tree "tasks" [])]
    let declared := { users.relation.schema with attributes := ["tasks", "name", "email"] }
    ({ users with relation := { users.relation with schema := declared } }).project
        [("id", .ofNat 1), ("name", .string "Ann"), ("tasks", .array [])] =
      [("email", .null), ("name", .string "Ann"), ("tasks", .array [])] := rfl

/-- Where nothing is declared, a filled tuple is its own projection. -/
theorem project_eq_self {tree : RelationTree} (differ : tree.NamesDiffer)
    (plain : ∀ other ∈ tree.subtrees, other.relation.schema.attributes = []) {tuple : Tuple}
    (filled : tree.Filled Entries.Sorted tuple) : tree.project tuple = tuple := by
  induction tree using induction generalizing tuple with
  | step tree ih =>
    obtain ⟨sorted, held⟩ := filled_iff.mp filled
    refine Entries.Sorted.ext (tree.sorted_project tuple) sorted fun column => ?_
    show (tree.project tuple).get? column = tuple.get? column
    by_cases named : column ∈ tree.nodes.map (·.name)
    · obtain ⟨node, child, rfl⟩ := List.mem_map.mp named
      obtain ⟨children, given, inner⟩ := held node child
      have same : children.map node.project = children := by
        refine (List.map_congr_left fun tuple member => ?_).trans (List.map_id _)
        exact ih node child (differ.of_mem_nodes child)
          (fun other inside => plain other (mem_subtrees_of_mem_nodes child inside))
          (inner tuple member)
      rw [get?_project_of_mem child (differ tree tree.self_mem_subtrees), given,
        Tuple.read_of_get? given, Link.projected_nested, same]
    · rw [get?_project_of_not_mem named sorted, if_pos (plain tree tree.self_mem_subtrees)]

end RelationTree

/-! ### Rows in order -/

theorem Dataset.sorted_insert {name : String} {primaryKey : Option String} {tuple row : Tuple}
    {dataset changed : Dataset} (sorted : Entries.Sorted tuple)
    (success : insert name primaryKey tuple dataset = .ok (row, changed)) : Entries.Sorted row := by
  unfold insert at success
  split at success
  · cases success
    exact sorted
  · split at success
    · cases success
      exact sorted.insert _ _
    · split at success
      · cases success
      · cases success
        exact sorted

theorem Change.sorted_apply {change : Change} {name : String} {dataset : Dataset}
    (given : ∀ primaryKey tuple, change = .insert primaryKey tuple → Entries.Sorted tuple)
    (sorted : ∀ row ∈ dataset.rows, Entries.Sorted row) :
    ∀ row ∈ (change.apply name dataset).rows, Entries.Sorted row := by
  cases change with
  | insert primaryKey tuple =>
    cases inserted : Dataset.insert name primaryKey tuple dataset with
    | error _ =>
      rw [apply, inserted]
      exact sorted
    | ok result =>
      rw [apply, inserted]
      dsimp only
      rw [Dataset.rows_insert inserted]
      intro row member
      rcases List.mem_append.mp member with earlier | here
      · exact sorted row earlier
      · rw [List.mem_singleton.mp here]
        exact Dataset.sorted_insert (given primaryKey tuple rfl) inserted
  | update criteria changes =>
    intro row member
    obtain ⟨earlier, known, rfl⟩ := List.mem_map.mp member
    split
    · exact (sorted earlier known).insertAll changes
    · exact sorted earlier known
  | delete criteria => exact fun row member => sorted row (List.mem_filter.mp member).1

/-- Rows that are added in order stay so, whatever is written. -/
theorem Gateway.sorted_written {gateway : Gateway} (memory : gateway.InMemory)
    {writes : List Write} (given : ∀ write ∈ writes, ∀ primaryKey tuple,
      write.change = .insert primaryKey tuple → Entries.Sorted tuple)
    {store : Store} (sorted : store.All Entries.Sorted) :
    (gateway.written writes store).All Entries.Sorted := by
  induction writes generalizing store with
  | nil => exact sorted
  | cons write rest ih =>
    obtain ⟨here, others⟩ := List.forall_mem_cons.mp given
    refine ih others fun other name => ?_
    rw [dataset_run memory]
    split
    · exact Change.sorted_apply here (sorted gateway.id name)
    · exact sorted other name

/-! ### Loading into structs -/

theorem WorkM.outcome_reading {α : Type} (look : Store → Except Fault α) (workspace : Workspace) :
    outcome (reading look) workspace = (look workspace.store, workspace) :=
  outcome_ofExcept (look workspace.store) workspace

namespace Repository

variable {directory : Directory} {workspace : Workspace}

/-- Wherever requests have led, a tree that can be loaded is loaded into structs, one for each tuple
in order, whose tuples are the projections by the tree. Where no relation of it declares attributes
and rows are in order, they are the loaded tuples. -/
theorem loadAll_projects (reached : directory.Reached workspace) (repository : Repository)
    {catalog : Catalog} (setup : catalog.SetUp) {tree : RelationTree} (built : tree.Built catalog)
    {tuples : List Tuple} (loaded : tree.load workspace.store = .ok tuples) :
    ∃ structs after,
      WorkM.outcome (repository.loadAll tree) workspace = (.ok structs, after) ∧
      after.shelf = workspace.shelf ∧
      structs.map Struct.toTuple = tuples.map tree.project ∧
      (workspace.store.All Entries.Sorted →
        (∀ other ∈ tree.subtrees, other.relation.schema.attributes = []) →
          structs.map Struct.toTuple = tuples) := by
  have differ := (built.sound_of_setUp setup).namesDiffer
  have filled := @RelationTree.filled_of_load (fun _ => True) _ (fun _ _ _ _ => trivial)
    (fun _ _ _ _ => trivial) _ differ _ loaded
  obtain ⟨structs, mapped, same⟩ := RelationTree.exists_structs fun tuple member =>
    RelationTree.exists_struct (filled tuple member)
  obtain ⟨after, ran, shelved, _, _⟩ :=
    repository.outcome_layout reached.sound.1 tree.ofPlan_toPlan
  refine ⟨structs, after, ?_, shelved, same, fun ordered plain => ?_⟩
  · have read : WorkM.outcome (WorkM.reading tree.load) after = (.ok tuples, after) := by
      have unchanged : after.store = workspace.store := congrArg Shelf.store shelved
      rw [WorkM.outcome_reading, unchanged, loaded]
    rw [loadAll, WorkM.outcome_bind_of_ok ran, WorkM.outcome_bind_of_ok read, mapped,
      WorkM.outcome_ofExcept]
  · rw [same]
    refine (List.map_congr_left fun tuple member => ?_).trans (List.map_id _)
    have sorted := RelationTree.filled_of_load
      (fun tuple column value (given : Entries.Sorted tuple) => given.insert column value)
      ordered differ loaded
    exact RelationTree.project_eq_self differ plain (sorted tuple member)

/-- A user with a task and a user without; a repository that has loaded the tree before. -/
theorem loadAll_projects_users :
    let store := Sample.store [("users", [[("id", .ofNat 1)], [("name", .string "Bob")]]),
      ("tasks", [[("title", .string "Sweep"), ("user_id", .ofNat 1)]])]
    let workspace :=
      (WorkM.outcome (Sample.repository.layout Sample.users.toPlan) ⟨store, ∅, ∅, 0⟩).2
    ∃ structs after,
      WorkM.outcome (Sample.repository.loadAll Sample.users) workspace = (.ok structs, after) ∧
      structs.map Struct.toTuple =
        [[("id", .ofNat 1), ("tasks", .array [.object [("tags", .array []),
          ("title", .string "Sweep"), ("user_id", .ofNat 1)]])],
          [("name", .string "Bob"), ("tasks", .array [])]] := by
  intro store workspace
  have reached : Sample.directory.Reached workspace :=
    .loaded (.fresh store 0) Sample.repository Sample.users
  have loaded : Sample.users.load workspace.store =
      .ok [[("id", .ofNat 1), ("tasks", .array [.object [("tags", .array []),
          ("title", .string "Sweep"), ("user_id", .ofNat 1)]])],
        [("name", .string "Bob"), ("tasks", .array [])]] := rfl
  obtain ⟨structs, after, ran, _, same, _⟩ := loadAll_projects reached Sample.repository
    Sample.overMemory.setUp Sample.built_users loaded
  exact ⟨structs, after, ran, same⟩

end Repository

end RelationGraph
