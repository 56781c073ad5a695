import RelationGraph.Proofs.CombinedNodes
import RelationGraph.Proofs.LoadedStructs
import RelationGraph.Proofs.NestedFrame

set_option autoImplicit false

namespace RelationGraph

namespace Entries

variable {κ α β : Type} [DecidableEq κ]

theorem get?_map_values (edit : α → β) (key : κ) (entries : List (κ × α)) :
    get? key (entries.map fun entry => (entry.1, edit entry.2)) =
      (get? key entries).map edit := by
  induction entries with
  | nil => rfl
  | cons entry rest ih =>
    obtain ⟨head, value⟩ := entry
    rw [List.map_cons, get?_cons, get?_cons, ih]
    split <;> rfl

theorem get?_map_of_mem (value : κ → α) {key : κ} {keys : List κ} (member : key ∈ keys) :
    get? key (keys.map fun key => (key, value key)) = some (value key) := by
  induction keys with
  | nil => cases member
  | cons first rest ih =>
    rw [List.map_cons, get?_cons]
    split
    · rename_i same
      rw [same]
    · rename_i other
      exact ih ((List.mem_cons.mp member).resolve_left other)

variable [LT κ] [DecidableLT κ]

theorem isSome_get?_ofList_iff {key : κ} {pairs : List (κ × α)} :
    (get? key (ofList pairs)).isSome = true ↔ key ∈ pairs.map (·.1) := by
  constructor
  · intro found
    by_contra missing
    have fresh : ∀ pair ∈ pairs, pair.1 ≠ key := by
      rintro pair member rfl
      exact missing (List.mem_map_of_mem member)
    rw [get?_ofList_of_fresh fresh] at found
    cases found
  · intro known
    obtain ⟨pair, member, rfl⟩ := List.mem_map.mp known
    obtain ⟨value, found⟩ := exists_get?_insertAll member []
    rw [ofList, found]
    rfl

end Entries

/-- The members of objects are ordered by their keys, at every depth. -/
inductive Json.Ordered : Json → Prop
  | null : Ordered .null
  | bool (value : Bool) : Ordered (.bool value)
  | number (value : Number) : Ordered (.number value)
  | string (value : String) : Ordered (.string value)
  | array {items : List Json} (each : ∀ item ∈ items, Ordered item) : Ordered (.array items)
  | object {members : List (String × Json)} (sorted : Entries.Sorted members)
      (each : ∀ member ∈ members, Ordered member.2) : Ordered (.object members)

theorem Json.Ordered.read {tuple : Tuple} (ordered : (Json.object tuple).Ordered)
    (column : String) : (tuple.read column).Ordered := by
  unfold Tuple.read
  cases found : tuple.get? column with
  | none => exact .null
  | some value =>
    cases ordered with
    | object _ each => exact each _ (Entries.mem_of_get? found)

/-- The object that a value is, or those that it holds as an array. -/
def Json.objects : Json → List Tuple
  | .object tuple => [tuple]
  | .array items => items.filterMap members?
  | _ => []

theorem Json.Ordered.of_mem_objects {value : Json} (ordered : value.Ordered) {tuple : Tuple}
    (member : tuple ∈ value.objects) : (Json.object tuple).Ordered := by
  cases ordered with
  | null | bool | number | string => cases member
  | object sorted each =>
    cases List.mem_singleton.mp member
    exact .object sorted each
  | array each =>
    obtain ⟨item, inside, same⟩ := List.mem_filterMap.mp member
    cases item with
    | object members =>
      cases same
      exact each _ inside
    | null | bool | number | string | array => cases same

/-! ### Structs in structs -/

namespace Attribute

def single? : Attribute → Option Struct
  | .one struct => some struct
  | _ => none

def collection : Attribute → List Struct
  | .many structs => structs
  | _ => []

def structs (held : Attribute) : List Struct := held.single?.toList ++ held.collection

end Attribute

namespace Struct

/-- The struct is the other one, or one of those in its attributes, at any depth. -/
inductive Inside (inner : Struct) : Struct → Prop
  | self : Inside inner inner
  | nested {struct part : Struct} {name : String} {held : Attribute}
      (entry : (name, held) ∈ struct.attributes) (member : part ∈ held.structs)
      (inside : Inside inner part) : Inside inner struct

theorem one?_of_get? {struct : Struct} {name : String} {held : Attribute}
    (found : struct.get? name = some held) : struct.one? name = held.single? := by
  rw [one?, found]
  cases held <;> rfl

theorem many_of_get? {struct : Struct} {name : String} {held : Attribute}
    (found : struct.get? name = some held) : struct.many name = held.collection := by
  rw [many, found]
  cases held <;> rfl

theorem toTuple_eq (struct : Struct) :
    struct.toTuple = .ofList (struct.attributes.map fun entry =>
      (entry.1, attributeValue entry.2)) := by
  cases struct
  rw [toTuple, columns_eq_map]
  rfl

theorem isSome_get?_toTuple (struct : Struct) (name : String) :
    (struct.toTuple.get? name).isSome = (struct.get? name).isSome := by
  rw [Bool.eq_iff_iff, get?, Entries.isSome_get?_iff, toTuple_eq, Tuple.get?, Tuple.ofList,
    Entries.isSome_get?_ofList_iff, List.map_map]
  rfl

theorem get?_toTuple {struct : Struct} (distinct : struct.attributeNames.Nodup) (name : String) :
    struct.toTuple.get? name = (struct.get? name).map attributeValue := by
  have names : (struct.attributes.map fun entry => (entry.1, attributeValue entry.2)).map (·.1) =
      struct.attributeNames := by
    rw [List.map_map]
    rfl
  rw [toTuple_eq, Tuple.get?, Tuple.ofList, Entries.get?_ofList (names ▸ distinct),
    Entries.get?_map_values, get?]

end Struct

/-! ### Plans and their layouts -/

namespace Plan

/-- A relation of a plan: its root, or a relation of one that is combined into it. -/
inductive Relates (relation : Plan) : Plan → Prop
  | root : Relates relation relation
  | combined {name : String} {base : RelationName} {link : Link} {content : List Plan}
      {child : Plan} (among : child ∈ relationsIn content) (relates : Relates relation child) :
      Relates relation (.relation name base link content)

/-- The names that a relation declares, those of its attributes and of what is combined into it. -/
def declaredNames (content : List Plan) : List String :=
  attributesIn content ++ (relationsIn content).filterMap name?

end Plan

namespace StructLayout

mutual

theorem forall₂_layoutsOf (plan : Plan) :
    List.Forall₂ (fun child node => ofPlan child = .ok node) plan.relationsOf (layoutsOf plan) := by
  match plan with
  | .relation name base link content =>
    rw [Plan.relationsOf, layoutsOf]
    exact .cons rfl .nil
  | .header nodes =>
    rw [Plan.relationsOf, layoutsOf]
    exact forall₂_layoutsIn nodes
  | .attribute name =>
    rw [Plan.relationsOf, layoutsOf]
    exact .nil

/-- The layouts among plans are those of the relations among them. -/
theorem forall₂_layoutsIn (plans : List Plan) :
    List.Forall₂ (fun child node => ofPlan child = .ok node) (Plan.relationsIn plans)
      (layoutsIn plans) := by
  match plans with
  | [] =>
    rw [Plan.relationsIn, layoutsIn]
    exact .nil
  | plan :: rest =>
    rw [Plan.relationsIn, layoutsIn]
    exact List.rel_append (forall₂_layoutsOf plan) (forall₂_layoutsIn rest)

end

theorem name?_of_ofPlan {plan : Plan} {layout : StructLayout} (laid : ofPlan plan = .ok layout) :
    plan.name? = some layout.name := by
  cases plan <;> cases laid
  rfl

theorem names_layoutsIn (plans : List Plan) :
    (layoutsIn plans).map (·.name) = (Plan.relationsIn plans).filterMap Plan.name? := by
  have names {relations : List Plan} {nodes : List StructLayout}
      (laid : List.Forall₂ (fun child node => ofPlan child = .ok node) relations nodes) :
      nodes.map (·.name) = relations.filterMap Plan.name? := by
    induction laid with
    | nil => rfl
    | cons here _ ih => rw [List.map_cons, List.filterMap_cons, name?_of_ofPlan here, ih]
  exact names (forall₂_layoutsIn plans)

/-! ### Mapped structs -/

variable {layout node : StructLayout} {tuple : Tuple} {struct : Struct}

theorem mapNodes_eq (tuple : Tuple) (nodes : List StructLayout) :
    mapNodes tuple nodes = nodes.mapM fun node => do
      return (node.name,
        ← mapNested node.name node.cardinality node.mapTuple (tuple.read node.name)) := by
  induction nodes with
  | nil => rfl
  | cons node rest ih =>
    obtain ⟨name, cardinality, attributes, inner⟩ := node
    rw [mapNodes, ih, List.mapM_cons]
    cases mapNested name cardinality (mapTuple ⟨name, cardinality, attributes, inner⟩)
      (tuple.read name) <;> rfl

/-- The attributes of a mapped struct: the plain ones, and what was mapped for each node. -/
theorem exists_attributes_of_mapTuple (mapped : layout.mapTuple tuple = .ok struct) :
    ∃ nested, struct.attributes =
        plainAttributes layout.attributes layout.nodes tuple ++ nested ∧
      List.Forall₂ (fun node entry => entry.1 = node.name ∧
        mapNested node.name node.cardinality node.mapTuple (tuple.read node.name) = .ok entry.2)
        layout.nodes nested := by
  obtain ⟨name, cardinality, attributes, nodes⟩ := layout
  rw [mapTuple, mapNodes_eq] at mapped
  obtain ⟨nested, made, finished⟩ := Except.bind_eq_ok.mp mapped
  cases finished
  refine ⟨nested, rfl, (Except.mapM_eq_ok.mp made).imp fun node entry given => ?_⟩
  obtain ⟨value, inner, same⟩ := Except.bind_eq_ok.mp given
  cases same
  exact ⟨rfl, inner⟩

theorem eq_value_of_mem_plainAttributes {declared : List String} {nodes : List StructLayout}
    {name : String} {held : Attribute}
    (member : (name, held) ∈ plainAttributes declared nodes tuple) :
    ∃ value, held = .value value := by
  unfold plainAttributes at member
  split at member <;>
  · obtain ⟨_, _, same⟩ := List.mem_map.mp member
    cases same
    exact ⟨_, rfl⟩

/-- The structs of what was mapped for a node are mapped from objects in the value. -/
theorem exists_tuple_of_mapNested {name : String} {cardinality : Cardinality}
    {map : Tuple → Except Fault Struct} {value : Json} {held : Attribute}
    (mapped : mapNested name cardinality map value = .ok held) :
    ∀ part ∈ held.structs, ∃ tuple ∈ value.objects, map tuple = .ok part := by
  intro part member
  cases value with
  | null => cases cardinality <;> cases mapped <;> cases member
  | bool | number | string => cases mapped
  | object tuple =>
    obtain ⟨struct, made, same⟩ := Except.bind_eq_ok.mp mapped
    cases same
    cases List.mem_singleton.mp member
    exact ⟨tuple, List.mem_singleton_self tuple, made⟩
  | array items =>
    obtain ⟨structs, made, same⟩ := Except.bind_eq_ok.mp mapped
    cases same
    have each : ∀ struct ∈ structs, ∃ tuple ∈ (Json.array items).objects,
        map tuple = .ok struct := by
      refine List.forall_mem_of_forall₂ (Except.mapM_eq_ok.mp made) ?_
      intro item inside struct given
      cases item with
      | object tuple => exact ⟨tuple, List.mem_filterMap.mpr ⟨_, inside, rfl⟩, given⟩
      | null | bool | number | string | array => cases given
    exact each part member

/-- The tuple stands in the other one where the other's layout has this one: it is the other, or it
stands in an object under the name of a node. -/
inductive Places (node : StructLayout) (part : Tuple) : StructLayout → Tuple → Prop
  | self : Places node part node part
  | nested {layout child : StructLayout} {tuple item : Tuple} (among : child ∈ layout.nodes)
      (held : item ∈ (tuple.read child.name).objects) (places : Places node part child item) :
      Places node part layout tuple

theorem Places.ordered {part : Tuple} (places : Places node part layout tuple)
    (ordered : (Json.object tuple).Ordered) : (Json.object part).Ordered := by
  induction places with
  | self => exact ordered
  | nested _ held _ ih => exact ih ((ordered.read _).of_mem_objects held)

/-- A struct in a mapped struct is mapped itself, from a tuple of a relation of the plan. -/
theorem exists_mapped_of_inside {plan : Plan} (laid : ofPlan plan = .ok layout)
    (mapped : layout.mapTuple tuple = .ok struct) {inner : Struct} (inside : inner.Inside struct) :
    ∃ relation node part, Plan.Relates relation plan ∧ ofPlan relation = .ok node ∧
      node.Places part layout tuple ∧ node.mapTuple part = .ok inner := by
  induction inside generalizing plan layout tuple with
  | self => exact ⟨plan, layout, tuple, .root, laid, .self, mapped⟩
  | nested entry member _ ih =>
    obtain ⟨nested, attributes, paired⟩ := exists_attributes_of_mapTuple mapped
    rw [attributes] at entry
    rcases List.mem_append.mp entry with plain | combined
    · obtain ⟨value, rfl⟩ := eq_value_of_mem_plainAttributes plain
      cases member
    · cases plan with
      | header | «attribute» => cases laid
      | relation name base link content =>
        cases laid
        have made : ∀ entry ∈ nested, ∃ node ∈ layoutsIn content,
            mapNested node.name node.cardinality node.mapTuple (tuple.read node.name) =
              .ok entry.2 :=
          List.forall_mem_of_forall₂ paired fun node among _ given => ⟨node, among, given.2⟩
        have layouts : ∀ node ∈ layoutsIn content, ∃ child ∈ Plan.relationsIn content,
            ofPlan child = .ok node :=
          List.forall_mem_of_forall₂ (forall₂_layoutsIn content) fun child among _ given =>
            ⟨child, among, given⟩
        obtain ⟨node, among, given⟩ := made _ combined
        obtain ⟨child, amongRelations, below⟩ := layouts node among
        obtain ⟨item, held, there⟩ := exists_tuple_of_mapNested given _ member
        obtain ⟨relation, last, part, relates, found, places, inner⟩ := ih below there
        exact ⟨relation, last, part, .combined amongRelations relates, found,
          .nested among held places, inner⟩

theorem attributeNames_of_mapTuple (mapped : layout.mapTuple tuple = .ok struct) :
    struct.attributeNames =
      (tuple.ownColumns layout.attributes (layout.nodes.map (·.name))).map (·.1) ++
        layout.nodes.map (·.name) := by
  obtain ⟨nested, attributes, paired⟩ := exists_attributes_of_mapTuple mapped
  have names : layout.nodes.map (·.name) = nested.map (·.1) := by
    rw [← List.forall₂_eq_eq_eq, List.forall₂_map_left_iff, List.forall₂_map_right_iff]
    exact paired.imp fun node entry given => given.1.symm
  rw [← columns_plainAttributes, Struct.columns_eq_map, List.map_map, Struct.attributeNames,
    attributes, List.map_append, ← names]
  rfl

/-- No name occurs twice in a mapped struct exactly if none is declared twice. -/
theorem nodup_attributeNames_iff (sorted : Entries.Sorted tuple)
    (mapped : layout.mapTuple tuple = .ok struct) :
    struct.attributeNames.Nodup ↔ (layout.attributes ++ layout.nodes.map (·.name)).Nodup := by
  rw [attributeNames_of_mapTuple mapped, Tuple.ownColumns]
  by_cases none : layout.attributes = []
  · have kept : Entries.Sorted (tuple.without (layout.nodes.map (·.name))) := sorted.filter _
    have apart : List.Disjoint ((tuple.without (layout.nodes.map (·.name))).map (·.1))
        (layout.nodes.map (·.name)) := by
      intro name column named
      obtain ⟨entry, member, rfl⟩ := List.mem_map.mp column
      simpa [named] using (List.mem_filter.mp member).2
    rw [if_pos (by rw [none]; rfl), none, List.nil_append, List.nodup_append']
    exact ⟨fun all => all.2.1, fun distinct => ⟨kept.nodup, distinct, apart⟩⟩
  · rw [if_neg (by simpa using none), List.map_map]
    simp [Function.comp_def]

/-- What is asked of a mapped struct by name agrees with its tuple: no name occurs twice, a name is
found with the value that the tuple has, and under the name of each node stands what was mapped for
it. -/
structure Faithful (layout : StructLayout) (tuple : Tuple) (struct : Struct) : Prop where
  distinct : struct.attributeNames.Nodup
  value : ∀ name, struct.toTuple.get? name = (struct.get? name).map Struct.attributeValue
  nodes : ∀ node ∈ layout.nodes, ∃ held,
    mapNested node.name node.cardinality node.mapTuple (tuple.read node.name) = .ok held ∧
      struct.get? node.name = some held ∧ struct.one? node.name = held.single? ∧
        struct.many node.name = held.collection

theorem faithful_iff (sorted : Entries.Sorted tuple)
    (mapped : layout.mapTuple tuple = .ok struct) :
    layout.Faithful tuple struct ↔ (layout.attributes ++ layout.nodes.map (·.name)).Nodup := by
  rw [← nodup_attributeNames_iff sorted mapped]
  refine ⟨Faithful.distinct, fun distinct => ⟨distinct, Struct.get?_toTuple distinct, ?_⟩⟩
  obtain ⟨nested, attributes, paired⟩ := exists_attributes_of_mapTuple mapped
  have made : ∀ node ∈ layout.nodes, ∃ entry ∈ nested, entry.1 = node.name ∧
      mapNested node.name node.cardinality node.mapTuple (tuple.read node.name) = .ok entry.2 :=
    List.forall_mem_of_forall₂ (List.Forall₂.flip paired) fun entry inside _ given =>
      ⟨entry, inside, given⟩
  intro node inside
  obtain ⟨⟨name, held⟩, member, rfl, given⟩ := made node inside
  have entry : (node.name, held) ∈ struct.attributes :=
    attributes ▸ List.mem_append_right _ member
  have found : struct.get? node.name = some held := Entries.get?_of_mem distinct entry
  exact ⟨held, given, found, Struct.one?_of_get? found, Struct.many_of_get? found⟩

/-- A declared attribute is found as the plain value of its column, whatever is combined under its
name. -/
theorem get?_of_mem_attributes (mapped : layout.mapTuple tuple = .ok struct) {name : String}
    (declared : name ∈ layout.attributes) :
    struct.get? name = some (.value (tuple.read name)) := by
  obtain ⟨nested, attributes, -⟩ := exists_attributes_of_mapTuple mapped
  have some : layout.attributes.isEmpty = false := by
    cases names : layout.attributes with
    | nil =>
      rw [names] at declared
      cases declared
    | cons => rfl
  rw [Struct.get?, attributes, Entries.get?_append, plainAttributes, some, if_neg (by simp),
    Entries.get?_map_of_mem _ declared, Option.some_or]

/-- Each struct in one that a tuple of a plan is mapped to is mapped for a relation of the plan. A
name is found in it exactly if its tuple has the column. All that is asked of it by name agrees with
its tuple, and reaches what was mapped for each child, exactly if the relation declares no name
twice. An attribute that is declared covers a child of its name. -/
theorem faithful_iff_of_inside {plan : Plan} (laid : ofPlan plan = .ok layout)
    (ordered : (Json.object tuple).Ordered) (mapped : layout.mapTuple tuple = .ok struct)
    {inner : Struct} (inside : inner.Inside struct) :
    ∃ name base link content node part,
      Plan.Relates (.relation name base link content) plan ∧
      ofPlan (.relation name base link content) = .ok node ∧ node.Places part layout tuple ∧
      node.mapTuple part = .ok inner ∧
      (∀ name, (inner.toTuple.get? name).isSome = (inner.get? name).isSome) ∧
      (node.Faithful part inner ↔ (Plan.declaredNames content).Nodup) ∧
      ∀ name ∈ Plan.attributesIn content, inner.get? name = some (.value (part.read name)) := by
  obtain ⟨relation, node, part, relates, found, places, made⟩ :=
    exists_mapped_of_inside laid mapped inside
  cases relation with
  | header | «attribute» => cases found
  | relation name base link content =>
    cases found
    have sorted : Entries.Sorted part := by
      cases places.ordered ordered with
      | object sorted _ => exact sorted
    refine ⟨name, base, link, content, _, part, relates, rfl, places, made,
      inner.isSome_get?_toTuple, ?_, fun name => get?_of_mem_attributes made⟩
    rw [faithful_iff sorted made, Plan.declaredNames, ← names_layoutsIn]

end StructLayout

namespace Sample

/-- Users with these attributes declared, and their tasks, of which only the title is. -/
def titled (names : List String) : Plan :=
  .relation "users" ⟨"users", "users"⟩ .root <|
    names.map Plan.attribute ++
      [.relation "tasks" ⟨"tasks", "tasks"⟩ ⟨.single "id" "user_id", some .many, some "tasks"⟩
        [.attribute "title"]]

def titledLayout (names : List String) : StructLayout :=
  ⟨"users", .one, names, [⟨"tasks", .many, ["title"], []⟩]⟩

def sweep : Tuple := [("id", .ofNat 2), ("title", .string "Sweep")]

def sweeper : Tuple := [("id", .ofNat 1), ("tasks", .array [.object sweep])]

theorem ordered_sweeper : (Json.object sweeper).Ordered := by
  have task : (Json.object sweep).Ordered := by
    refine .object (by decide) ?_
    simp only [sweep, List.forall_mem_cons]
    exact ⟨.number _, .string _, by simp⟩
  refine .object (by decide) ?_
  simp only [sweeper, List.forall_mem_cons]
  exact ⟨.number _, .array (by simpa using task), by simp⟩

def sweepStruct : Struct := .mk "tasks" [("title", .value (.string "Sweep"))]

def sweeperStruct : Struct :=
  .mk "users" [("id", .value (.ofNat 1)), ("tasks", .many [sweepStruct])]

end Sample

/-- The user and the task in it. -/
theorem StructLayout.faithful_iff_of_inside_users :
    ofPlan (Sample.titled ["id"]) = .ok (Sample.titledLayout ["id"]) ∧
      (Json.object Sample.sweeper).Ordered ∧
      (Sample.titledLayout ["id"]).mapTuple Sample.sweeper = .ok Sample.sweeperStruct ∧
      Sample.sweepStruct.Inside Sample.sweeperStruct ∧
      ∃ (node : StructLayout) (part : Tuple),
        node.Places part (Sample.titledLayout ["id"]) Sample.sweeper ∧
        node.mapTuple part = .ok Sample.sweepStruct ∧
        ∀ name, (Sample.sweepStruct.toTuple.get? name).isSome =
          (Sample.sweepStruct.get? name).isSome := by
  have inside : Sample.sweepStruct.Inside Sample.sweeperStruct :=
    .nested (List.mem_cons_of_mem _ List.mem_cons_self) List.mem_cons_self .self
  have laid : ofPlan (Sample.titled ["id"]) = .ok (Sample.titledLayout ["id"]) := rfl
  obtain ⟨_, _, _, _, node, part, -, -, places, mapped, present, -, -⟩ :=
    faithful_iff_of_inside laid Sample.ordered_sweeper rfl inside
  exact ⟨laid, Sample.ordered_sweeper, rfl, inside, node, part, places, mapped, present⟩

namespace Sample

/-- The attribute that is declared covers the tasks, which the tuple has nevertheless. -/
theorem not_faithful_titled :
    let layout := titledLayout ["id", "tasks"]
    let struct := Struct.mk "users" [("id", .value (.ofNat 1)),
      ("tasks", .value (.array [.object sweep])), ("tasks", .many [sweepStruct])]
    StructLayout.ofPlan (titled ["id", "tasks"]) = .ok layout ∧ (Json.object sweeper).Ordered ∧
      layout.mapTuple sweeper = .ok struct ∧
      struct.attributeNames = ["id", "tasks", "tasks"] ∧ struct.many "tasks" = [] ∧
      struct.toTuple = [("id", .ofNat 1),
        ("tasks", .array [.object [("title", .string "Sweep")]])] ∧
      ¬layout.Faithful sweeper struct := by
  refine ⟨rfl, ordered_sweeper, rfl, rfl, rfl, rfl, fun faithful => ?_⟩
  exact absurd faithful.distinct (by decide)

end Sample

end RelationGraph
