import RelationGraph.StructLayout
import RelationGraph.Proofs.StoreSteps

set_option autoImplicit false

namespace RelationGraph

theorem Except.exists_bind_pure_iff {α β : Type} {act : Except Fault α} {make : α → β} :
    (∃ result, (do return make (← act)) = Except.ok result) ↔ ∃ value, act = .ok value := by
  cases act with
  | error error =>
    constructor
    · rintro ⟨_, made⟩
      cases made
    · rintro ⟨_, same⟩
      cases same
  | ok value => exact iff_of_true ⟨make value, rfl⟩ ⟨value, rfl⟩

/-- A value that can be mapped: null, an accepted object, or an array of such objects. -/
def Json.Nests (accepts : Tuple → Prop) : Json → Prop
  | .null => True
  | .object tuple => accepts tuple
  | .array items => ∀ item ∈ items, ∃ tuple, item = .object tuple ∧ accepts tuple
  | _ => False

namespace StructLayout

mutual

/-- Whatever the tuple holds under the names of the nodes can be mapped. -/
def Accepts : StructLayout → Tuple → Prop
  | ⟨_, _, _, nodes⟩, tuple => AcceptsAll tuple nodes

def AcceptsAll (tuple : Tuple) : List StructLayout → Prop
  | [] => True
  | ⟨name, cardinality, attributes, nodes⟩ :: rest =>
    (tuple.read name).Nests (Accepts ⟨name, cardinality, attributes, nodes⟩) ∧
      AcceptsAll tuple rest

end

theorem acceptsAll_iff {tuple : Tuple} {nodes : List StructLayout} :
    AcceptsAll tuple nodes ↔ ∀ node ∈ nodes, (tuple.read node.name).Nests node.Accepts := by
  induction nodes with
  | nil => simp [AcceptsAll]
  | cons node rest ih =>
    rw [List.forall_mem_cons, ← ih]
    cases node
    rfl

theorem accepts_iff {layout : StructLayout} {tuple : Tuple} :
    layout.Accepts tuple ↔ ∀ node ∈ layout.nodes, (tuple.read node.name).Nests node.Accepts := by
  rw [← acceptsAll_iff]
  cases layout
  rfl

theorem exists_mapItem_iff {name : String} {map : Tuple → Except Fault Struct}
    {accepts : Tuple → Prop}
    (maps : ∀ tuple, (∃ struct, map tuple = .ok struct) ↔ accepts tuple) (item : Json) :
    (∃ struct, mapItem name map item = .ok struct) ↔
      ∃ tuple, item = .object tuple ∧ accepts tuple := by
  cases item with
  | object tuple =>
    rw [mapItem, maps]
    constructor
    · intro accepted
      exact ⟨tuple, rfl, accepted⟩
    · rintro ⟨other, same, accepted⟩
      cases same
      exact accepted
  | _ =>
    constructor
    · rintro ⟨_, made⟩
      cases made
    · rintro ⟨_, same, _⟩
      cases same

theorem exists_mapItems_iff {name : String} {map : Tuple → Except Fault Struct}
    {accepts : Tuple → Prop}
    (maps : ∀ tuple, (∃ struct, map tuple = .ok struct) ↔ accepts tuple) (items : List Json) :
    (∃ structs, items.mapM (mapItem name map) = .ok structs) ↔
      (Json.array items).Nests accepts := by
  rw [Except.exists_mapM_iff, Json.Nests]
  exact forall₂_congr fun item _ => exists_mapItem_iff maps item

theorem exists_mapNested_iff {name : String} {cardinality : Cardinality}
    {map : Tuple → Except Fault Struct} {accepts : Tuple → Prop}
    (maps : ∀ tuple, (∃ struct, map tuple = .ok struct) ↔ accepts tuple) (value : Json) :
    (∃ nested, mapNested name cardinality map value = .ok nested) ↔ value.Nests accepts := by
  cases value with
  | null =>
    cases cardinality with
    | one => exact iff_of_true ⟨_, rfl⟩ trivial
    | many => exact iff_of_true ⟨_, rfl⟩ trivial
  | object tuple => exact Except.exists_bind_pure_iff.trans (maps tuple)
  | array items => exact Except.exists_bind_pure_iff.trans (exists_mapItems_iff maps items)
  | _ =>
    constructor
    · rintro ⟨_, made⟩
      cases made
    · intro nests
      cases nests

mutual

/-- A tuple is mapped exactly if the layout accepts it. -/
theorem exists_mapTuple_iff (layout : StructLayout) (tuple : Tuple) :
    (∃ struct, layout.mapTuple tuple = .ok struct) ↔ layout.Accepts tuple := by
  match layout with
  | ⟨name, _, attributes, nodes⟩ =>
    rw [Accepts, ← exists_mapNodes_iff tuple nodes, mapTuple]
    exact Except.exists_bind_pure_iff

theorem exists_mapNodes_iff (tuple : Tuple) (nodes : List StructLayout) :
    (∃ nested, mapNodes tuple nodes = .ok nested) ↔ AcceptsAll tuple nodes := by
  match nodes with
  | [] => exact iff_of_true ⟨_, rfl⟩ trivial
  | ⟨name, cardinality, attributes, inner⟩ :: rest =>
    rw [AcceptsAll, ← exists_mapNodes_iff tuple rest,
      ← exists_mapNested_iff (exists_mapTuple_iff ⟨name, cardinality, attributes, inner⟩),
      mapNodes]
    constructor
    · rintro ⟨nested, made⟩
      obtain ⟨first, here, made⟩ := Except.bind_eq_ok.mp made
      obtain ⟨others, later, _⟩ := Except.bind_eq_ok.mp made
      exact ⟨⟨first, here⟩, others, later⟩
    · rintro ⟨⟨first, here⟩, others, later⟩
      rw [here, later]
      exact ⟨_, rfl⟩

end

/-- An output is mapped exactly if it is null, an object that the layout accepts, or an array of
such objects. -/
theorem exists_map_iff (layout : StructLayout) (output : Json) :
    (∃ mapped, layout.map output = .ok mapped) ↔ output.Nests layout.Accepts := by
  cases output with
  | null => exact iff_of_true ⟨_, rfl⟩ trivial
  | object tuple => exact Except.exists_bind_pure_iff.trans (layout.exists_mapTuple_iff tuple)
  | array items =>
    exact Except.exists_bind_pure_iff.trans (exists_mapItems_iff layout.exists_mapTuple_iff items)
  | _ =>
    constructor
    · rintro ⟨_, made⟩
      cases made
    · intro nests
      cases nests

end StructLayout

end RelationGraph
