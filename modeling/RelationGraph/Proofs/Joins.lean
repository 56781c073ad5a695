import RelationGraph.Load
import RelationGraph.Proofs.Tuples

set_option autoImplicit false

namespace RelationGraph

namespace JoinKeys

theorem mem_pairs_of_mem_invert {keys : JoinKeys} {pair : String × String}
    (member : pair ∈ keys.invert.pairs) : (pair.2, pair.1) ∈ keys.pairs := by
  rcases Entries.mem_of_mem_insertAll member with given | impossible
  · obtain ⟨other, inside, rfl⟩ := List.mem_map.mp given
    exact inside
  · cases impossible

theorem exists_mem_invert {keys : JoinKeys} {pair : String × String} (member : pair ∈ keys.pairs) :
    ∃ column, (pair.2, column) ∈ keys.invert.pairs := by
  have swapped : pair.swap ∈ keys.pairs.map Prod.swap := List.mem_map_of_mem member
  obtain ⟨column, found⟩ := Entries.exists_get?_insertAll swapped []
  exact ⟨column, Entries.mem_of_get? found⟩

theorem nodup_keys_invert (keys : JoinKeys) : (keys.invert.pairs.map (·.1)).Nodup := by
  have ordered : keys.invert.pairs.Pairwise fun left right => left.1 < right.1 :=
    keys.invert.sorted
  rw [List.Nodup, List.pairwise_map]
  refine ordered.imp ?_
  intro left right less same
  rw [same] at less
  exact String.lt_irrefl _ less

theorem mem_keys_of_mem_pairs {keys : JoinKeys} {pair : String × String}
    (member : pair ∈ keys.pairs) : pair.1 ∈ keys.keys :=
  List.mem_map_of_mem member

theorem mem_values_of_mem_pairs {keys : JoinKeys} {pair : String × String}
    (member : pair ∈ keys.pairs) : pair.2 ∈ keys.values :=
  List.mem_map_of_mem member

theorem joins_iff {keys : JoinKeys} {parent child : Tuple} :
    keys.joins parent child = true ↔ ∀ pair ∈ keys.pairs, ∃ value other,
      parent.get? pair.1 = some value ∧ child.get? pair.2 = some other ∧
        value.isNull = false ∧ (value == other) = true := by
  simp only [joins, List.all_eq_true]
  refine forall_congr' fun pair => forall_congr' fun _ => ?_
  cases parent.get? pair.1 <;> cases child.get? pair.2 <;> simp

theorem joins_congr {keys : JoinKeys} {parent parent' child child' : Tuple}
    (parents : ∀ column ∈ keys.keys, parent.get? column = parent'.get? column)
    (children : ∀ column ∈ keys.values, child.get? column = child'.get? column) :
    keys.joins parent child = keys.joins parent' child' := by
  rw [Bool.eq_iff_iff, joins_iff, joins_iff]
  refine forall_congr' fun pair => forall_congr' fun member => ?_
  rw [parents pair.1 (mem_keys_of_mem_pairs member),
    children pair.2 (mem_values_of_mem_pairs member)]

end JoinKeys

namespace JoinKeys

/-- The row has, in every child column, the value that is copied there from the parent. -/
def carried (keys : JoinKeys) (parent row : Tuple) : Bool :=
  keys.invert.pairs.all fun pair => parent.read pair.2 == row.read pair.1

/-- The parent can have children: no column of it that is joined on is null, and those that the same
child column has to equal are equal. -/
def Joinable (keys : JoinKeys) (parent : Tuple) : Prop :=
  ∀ pair ∈ keys.pairs, (parent.read pair.1).isNull = false ∧
    ∀ other ∈ keys.pairs, other.2 = pair.2 →
      (parent.read pair.1 == parent.read other.1) = true

/-- Children of a parent can be found by what is copied into them: the parent can have children, and
the columns that are copied hold in `seen` what they hold in `returned`. -/
def Transfers (keys : JoinKeys) (returned seen : Tuple) : Prop :=
  keys.Joinable returned ∧
    ∀ pair ∈ keys.invert.pairs, (seen.read pair.2 == returned.read pair.2) = true

/-- Something joins exactly the parents that can have children. -/
theorem exists_joins_iff {keys : JoinKeys} {parent : Tuple} :
    (∃ child, keys.joins parent child = true) ↔ keys.Joinable parent := by
  constructor
  · rintro ⟨child, joined⟩ pair member
    obtain ⟨value, held, given, found, present, equal⟩ := joins_iff.mp joined pair member
    rw [Tuple.read_of_get? given]
    refine ⟨present, fun other inside same => ?_⟩
    obtain ⟨value', held', given', found', _, equal'⟩ := joins_iff.mp joined other inside
    rw [same, found] at found'
    cases found'
    rw [Tuple.read_of_get? given']
    exact BEq.trans equal (BEq.symm equal')
  · intro agree
    let columns := keys.pairs.map fun pair => (pair.2, parent.read pair.1)
    refine ⟨Tuple.ofList columns, joins_iff.mpr fun pair member => ?_⟩
    obtain ⟨present, equal⟩ := agree pair member
    have listed : (pair.2, parent.read pair.1) ∈ columns := List.mem_map_of_mem member
    obtain ⟨value, found⟩ := Entries.exists_get?_insertAll listed []
    refine ⟨parent.read pair.1, value, Tuple.get?_of_isNull_read present, found, present, ?_⟩
    -- The value in the column comes from a pair with the same child column.
    rcases Entries.mem_of_mem_insertAll (Entries.mem_of_get? found) with source | impossible
    · obtain ⟨other, inside, same⟩ := List.mem_map.mp source
      obtain ⟨sameColumn, rfl⟩ := Prod.mk.inj same
      exact equal other inside sameColumn
    · cases impossible

theorem exists_carried (keys : JoinKeys) (parent : Tuple) :
    ∃ row, keys.carried parent row = true := by
  let columns := keys.invert.pairs.map fun pair => (pair.1, parent.read pair.2)
  have names : (columns.map (·.1)).Nodup := by
    rw [List.map_map]
    exact keys.nodup_keys_invert
  refine ⟨Tuple.ofList columns, List.all_eq_true.mpr fun pair member => ?_⟩
  have listed : (pair.1, parent.read pair.2) ∈ columns := List.mem_map_of_mem member
  have found : (Tuple.ofList columns).get? pair.1 = some (parent.read pair.2) :=
    Entries.get?_insertAll_of_mem names listed
  rw [Tuple.read_of_get? found]
  exact BEq.rfl

theorem read_of_joins {keys : JoinKeys} {parent child : Tuple}
    (joined : keys.joins parent child = true) {pair : String × String}
    (member : pair ∈ keys.invert.pairs) :
    (parent.read pair.2 == child.read pair.1) = true := by
  obtain ⟨value, other, given, found, _, equal⟩ :=
    joins_iff.mp joined _ (mem_pairs_of_mem_invert member)
  have source : parent.read pair.2 = value := Tuple.read_of_get? given
  have target : child.read pair.1 = other := Tuple.read_of_get? found
  rw [source, target]
  exact equal

theorem isNull_read_of_joins {keys : JoinKeys} {parent child : Tuple}
    (joined : keys.joins parent child = true) {pair : String × String}
    (member : pair ∈ keys.invert.pairs) : (parent.read pair.2).isNull = false := by
  obtain ⟨value, _, given, _, present, _⟩ :=
    joins_iff.mp joined _ (mem_pairs_of_mem_invert member)
  have source : parent.read pair.2 = value := Tuple.read_of_get? given
  rw [source]
  exact present

/-- Where children can be found by what is copied, a row joins exactly if it has that. -/
theorem Transfers.carried_eq_joins {keys : JoinKeys} {returned seen : Tuple}
    (transfers : keys.Transfers returned seen) (row : Tuple) :
    keys.carried seen row = keys.joins returned row := by
  obtain ⟨joinable, agree⟩ := transfers
  obtain ⟨child, joined⟩ := exists_joins_iff.mpr joinable
  rw [Bool.eq_iff_iff, carried, List.all_eq_true]
  constructor
  · intro copied
    refine joins_iff.mpr fun pair member => ?_
    obtain ⟨value, other, given, found, present, equal⟩ := joins_iff.mp joined pair member
    -- The column is filled from a parent column that the child equals as well.
    obtain ⟨source, filled⟩ := exists_mem_invert member
    have sourced : (returned.read source == other) = true := by
      rw [← Tuple.read_of_get? found]
      exact read_of_joins joined filled
    have same : (row.read pair.2 == value) = true :=
      BEq.trans (BEq.symm (copied _ filled))
        (BEq.trans (agree _ filled) (BEq.trans sourced (BEq.symm equal)))
    have held : (row.read pair.2).isNull = false := by
      rw [Json.isNull_of_beq same]
      exact present
    exact ⟨value, row.read pair.2, given, Tuple.get?_of_isNull_read held, present, BEq.symm same⟩
  · intro joins pair member
    exact BEq.trans (agree pair member) (read_of_joins joins member)

theorem transfers_of_joins {keys : JoinKeys} {returned seen row : Tuple}
    (joined : keys.joins returned row = true) (copied : keys.carried seen row = true) :
    keys.Transfers returned seen := by
  refine ⟨exists_joins_iff.mp ⟨row, joined⟩, fun pair member => ?_⟩
  exact BEq.trans (List.all_eq_true.mp copied pair member)
    (BEq.symm (read_of_joins joined member))

end JoinKeys

end RelationGraph
