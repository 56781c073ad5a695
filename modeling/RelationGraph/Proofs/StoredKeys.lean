import Mathlib.Data.List.Pairwise
import RelationGraph.Proofs.Insertions

/-!
Keys of stored rows.

A dataset whose rows all came with one key column keeps their keys apart as long as its counter has
passed every integer among them. Adding a row does so, also with a given key, and so does removing
rows. An update does so only under a condition (`Dataset.SparesKeys`): it writes what it is told to
write, to each row that it meets, and leaves the counter where it is.
-/

set_option autoImplicit false

namespace RelationGraph

theorem List.length_le_one_iff_pairwise {α : Type} {items : List α} :
    items.length ≤ 1 ↔ items.Pairwise fun _ _ => False := by
  match items with
  | [] => simp
  | [_] => simp
  | first :: second :: rest =>
    constructor
    · intro short
      simp at short
    · intro apart
      exact absurd ((List.pairwise_cons.mp apart).1 second List.mem_cons_self) id

namespace Json

theorem toInt64?_eq_some {value : Json} {key : Int} (integer : value.toInt64? = some key) :
    value = .number (.int key) ∧ -0x8000000000000000 ≤ key ∧ key < 0x8000000000000000 := by
  cases value with
  | number n =>
    cases n with
    | int own =>
      simp only [toInt64?, Number.toInt64?, Option.ite_none_right_eq_some] at integer
      obtain ⟨range, same⟩ := integer
      cases same
      exact ⟨rfl, range⟩
    | float _ => cases integer
  | _ => cases integer

theorem toInt64?_int {key : Int} (low : 0 ≤ key) (high : key < 0x8000000000000000) :
    (number (.int key)).toInt64? = some key := by
  rw [toInt64?, Number.toInt64?, if_pos ⟨by omega, high⟩]

theorem eq_int_of_beq {value : Json} {key : Int}
    (equal : (value == .number (.int key)) = true) : value = .number (.int key) := by
  change value.same (.number (.int key)) = true at equal
  cases value with
  | number n =>
    cases n with
    | int own =>
      have integer : own = key := by simpa [same, Number.sameNumber] using equal
      rw [integer]
    | float _ => simp [same, Number.sameNumber] at equal
  | _ => simp [same] at equal

end Json

namespace Tuple

def holds (tuple : Tuple) (column : String) (value : Json) : Bool :=
  (tuple.get? column).any (· == value)

/-- The value that merging these changes gives to a column. -/
def assigned? (changes : Tuple) (column : String) : Option Json :=
  get? (ofList changes) column

theorem get?_merge (tuple changes : Tuple) (column : String) :
    (tuple.merge changes).get? column = (changes.assigned? column).or (tuple.get? column) :=
  Entries.get?_insertAll column changes tuple

theorem get?_merge_of_assigned {changes : Tuple} {column : String} {value : Json}
    (set : changes.assigned? column = some value) (tuple : Tuple) :
    (tuple.merge changes).get? column = some value := by
  rw [get?_merge, set, Option.some_or]

theorem get?_merge_of_unassigned {changes : Tuple} {column : String}
    (unset : changes.assigned? column = none) (tuple : Tuple) :
    (tuple.merge changes).get? column = tuple.get? column := by
  rw [get?_merge, unset, Option.none_or]

theorem holds_of_get? {tuple : Tuple} {column : String} {value : Json}
    (found : tuple.get? column = some value) : tuple.holds column value = true := by
  rw [holds, found, Option.any_some]
  exact BEq.rfl

theorem holds_congr {tuple : Tuple} {column : String} {value other : Json}
    (equal : (value == other) = true) : tuple.holds column value = tuple.holds column other := by
  rw [holds, holds]
  cases tuple.get? column with
  | none => rfl
  | some own => exact BEq.congr_right equal

/-- The two tuples do not hold the same value of the column. -/
def DifferIn (column : String) (left right : Tuple) : Prop :=
  ∀ value, left.get? column = some value → right.holds column value = false

theorem DifferIn.symm {column : String} {left right : Tuple} (differ : DifferIn column left right) :
    DifferIn column right left := by
  intro value found
  rw [Bool.eq_false_iff]
  intro held
  obtain ⟨own, given, equal⟩ := (Option.any_eq_true _ _).mp held
  have apart := differ own given
  rw [holds_congr equal, holds_of_get? found] at apart
  cases apart

end Tuple

namespace Dataset

/-- No two rows hold the same value of the column. -/
def KeysDiffer (column : String) (dataset : Dataset) : Prop :=
  dataset.rows.Pairwise (Tuple.DifferIn column)

/-- The keys differ, and the counter has passed those that it could give out. -/
structure Keyed (column : String) (dataset : Dataset) : Prop where
  differ : dataset.KeysDiffer column
  passed : ∀ row ∈ dataset.rows, ∀ value, row.get? column = some value →
    ∀ key, value.toInt64? = some key → key ≤ dataset.lastKey
  natural : 0 ≤ dataset.lastKey

/-- An update leaves the keys apart and behind the counter: it does not set their column, or meets
no row, or meets one and gives it a key that no other row has and that the counter has passed. -/
def SparesKeys (column : String) (criteria : Criteria) (changes : Tuple) (dataset : Dataset) :
    Prop :=
  match changes.assigned? column with
  | none => True
  | some value =>
    dataset.fetch criteria = [] ∨
      (dataset.fetch criteria).length = 1 ∧
        (dataset.delete criteria).2.hasValue column value = false ∧
          ∀ key, value.toInt64? = some key → key ≤ dataset.lastKey

variable {column name : String} {dataset : Dataset}

theorem keyed_empty (column : String) : Keyed column ∅ :=
  ⟨List.Pairwise.nil, fun _ member => (by cases member), Int.le_refl 0⟩

theorem hasValue_eq_false {value : Json} :
    dataset.hasValue column value = false ↔
      ∀ row ∈ dataset.rows, row.holds column value = false := by
  rw [hasValue, List.any_eq_false]
  simp only [Bool.not_eq_true]
  rfl

theorem KeysDiffer.append {row : Tuple} {value : Json} {lastKey : Int}
    (differ : dataset.KeysDiffer column) (found : row.get? column = some value)
    (fresh : dataset.hasValue column value = false) :
    KeysDiffer column ⟨dataset.rows ++ [row], lastKey⟩ := by
  refine List.pairwise_append.mpr ⟨differ, List.pairwise_singleton _ _, ?_⟩
  intro other member last here
  obtain rfl := List.mem_singleton.mp here
  refine Tuple.DifferIn.symm fun own given => ?_
  obtain rfl := Option.some.inj (found.symm.trans given)
  exact hasValue_eq_false.mp fresh other member

theorem Keyed.fresh (keyed : dataset.Keyed column)
    (range : dataset.lastKey + 1 < 0x8000000000000000) :
    dataset.hasValue column (.number (.int (dataset.lastKey + 1))) = false := by
  rw [hasValue_eq_false]
  intro row member
  rw [Bool.eq_false_iff]
  intro held
  obtain ⟨value, found, equal⟩ := (Option.any_eq_true _ _).mp held
  obtain rfl := Json.eq_int_of_beq equal
  have low := keyed.natural
  have behind := keyed.passed row member _ found _ (Json.toInt64?_int (by omega) range)
  omega

theorem Keyed.insertNext (keyed : dataset.Keyed column) (tuple : Tuple)
    (range : dataset.lastKey + 1 < 0x8000000000000000) :
    (dataset.insertNext column tuple).2.Keyed column := by
  have low := keyed.natural
  have found : (dataset.insertNext column tuple).1.get? column =
      some (.number (.int (dataset.lastKey + 1))) := by
    rw [Dataset.insertNext, Tuple.get?_insert, if_pos rfl]
  refine ⟨keyed.differ.append found (keyed.fresh range), ?_, ?_⟩
  · intro row member value given key integer
    change key ≤ dataset.lastKey + 1
    rcases List.mem_append.mp member with earlier | here
    · have behind := keyed.passed row earlier value given key integer
      omega
    · obtain rfl := List.mem_singleton.mp here
      obtain rfl := Option.some.inj (found.symm.trans given)
      obtain ⟨same, _⟩ := Json.toInt64?_eq_some integer
      cases same
      exact Int.le_refl _
  · change 0 ≤ dataset.lastKey + 1
    omega

theorem Keyed.insert {tuple row : Tuple} {changed : Dataset} (keyed : dataset.Keyed column)
    (success : insert name (some column) tuple dataset = .ok (row, changed))
    (range : changed.lastKey < 0x8000000000000000) : changed.Keyed column := by
  unfold Dataset.insert at success
  dsimp only at success
  split at success
  · cases success
    exact keyed.insertNext tuple range
  · rename_i given present
    split at success
    · cases success
    · rename_i fresh
      have fresh := Bool.eq_false_iff.mpr fresh
      have found : tuple.get? column = some (tuple.read column) := by
        apply Tuple.get?_of_isNull_read
        cases read : tuple.read column with
        | null => exact absurd read present
        | _ => rfl
      have grows : ∀ key, (tuple.read column).toInt64? = some key →
          changed.lastKey = max dataset.lastKey key := by
        intro key integer
        cases success
        simp only [integer]
      have stays : dataset.lastKey ≤ changed.lastKey := by
        cases success
        dsimp only
        split
        · exact Int.le_max_left _ _
        · exact Int.le_refl _
      have rows : changed.rows = dataset.rows ++ [tuple] := by
        cases success
        rfl
      refine ⟨?_, ?_, Int.le_trans keyed.natural stays⟩
      · have apart : KeysDiffer column ⟨dataset.rows ++ [tuple], changed.lastKey⟩ :=
          keyed.differ.append found fresh
        rwa [← rows] at apart
      · rw [rows]
        intro other member value held key integer
        rcases List.mem_append.mp member with earlier | here
        · exact Int.le_trans (keyed.passed other earlier value held key integer) stays
        · obtain rfl := List.mem_singleton.mp here
          obtain rfl := Option.some.inj (found.symm.trans held)
          rw [grows key integer]
          exact Int.le_max_right _ _

theorem Keyed.delete (keyed : dataset.Keyed column) (criteria : Criteria) :
    (dataset.delete criteria).2.Keyed column :=
  ⟨List.Pairwise.filter _ keyed.differ,
    fun row member => keyed.passed row (List.mem_filter.mp member).1, keyed.natural⟩

/-- An update that sets the column keeps the keys apart exactly if it meets at most one row and no
other row has the key that it gives. -/
theorem KeysDiffer.update_iff {criteria : Criteria} {changes : Tuple} {value : Json}
    (differ : dataset.KeysDiffer column) (set : changes.assigned? column = some value) :
    (dataset.update criteria changes).2.KeysDiffer column ↔
      dataset.fetch criteria = [] ∨ (dataset.fetch criteria).length = 1 ∧
        (dataset.delete criteria).2.hasValue column value = false := by
  have found := Tuple.get?_merge_of_assigned set
  have single : (dataset.fetch criteria).length ≤ 1 ↔ dataset.rows.Pairwise fun left right =>
      criteria.matchesTuple left = true → criteria.matchesTuple right = true → False := by
    rw [List.length_le_one_iff_pairwise, fetch, List.pairwise_filter]
  have unmet : (dataset.delete criteria).2.hasValue column value = false ↔
      ∀ row ∈ dataset.rows, criteria.matchesTuple row = false →
        row.holds column value = false := by
    simp [hasValue_eq_false, Dataset.delete]
  rw [KeysDiffer, Dataset.update, List.pairwise_map]
  constructor
  · intro apart
    have short : (dataset.fetch criteria).length ≤ 1 := by
      refine single.mpr (apart.imp fun {left right} differ here there => ?_)
      rw [if_pos here, if_pos there] at differ
      have other := differ value (found left)
      rw [Tuple.holds_of_get? (found right)] at other
      cases other
    cases met : dataset.fetch criteria with
    | nil => exact Or.inl rfl
    | cons row rest =>
      rw [met, List.length_cons] at short
      refine Or.inr ⟨by rw [List.length_cons]; omega, unmet.mpr fun other member missed => ?_⟩
      have inside : row ∈ dataset.rows ∧ criteria.matchesTuple row = true := by
        apply List.mem_filter.mp
        show row ∈ dataset.fetch criteria
        rw [met]
        exact List.mem_cons_self
      have different : row ≠ other := by
        rintro rfl
        rw [inside.2] at missed
        cases missed
      have : Std.Symm fun left right : Tuple => Tuple.DifferIn column
          (if criteria.matchesTuple left then left.merge changes else left)
          (if criteria.matchesTuple right then right.merge changes else right) :=
        ⟨fun _ _ => Tuple.DifferIn.symm⟩
      have differ := apart.forall inside.1 member different
      rw [if_pos inside.2, if_neg (by simp [missed])] at differ
      exact differ value (found row)
  · intro spared
    have short : (dataset.fetch criteria).length ≤ 1 := by
      rcases spared with none | ⟨one, _⟩
      · simp [none]
      · omega
    have alone : ∀ row ∈ dataset.rows, ∀ other ∈ dataset.rows, criteria.matchesTuple row = true →
        criteria.matchesTuple other = false → other.holds column value = false := by
      intro row member other inside here missed
      rcases spared with none | ⟨_, fresh⟩
      · have present : row ∈ dataset.fetch criteria := List.mem_filter.mpr ⟨member, here⟩
        rw [none] at present
        cases present
      · exact unmet.mp fresh other inside missed
    refine (differ.and (single.mp short)).imp_of_mem ?_
    rintro left right leftMember rightMember ⟨apart, one⟩
    cases here : criteria.matchesTuple left with
    | true =>
      cases there : criteria.matchesTuple right with
      | true => exact absurd there (one here)
      | false =>
        intro own given
        simp only [if_true, found, Option.some.injEq] at given
        subst given
        exact alone left leftMember right rightMember here there
    | false =>
      cases there : criteria.matchesTuple right with
      | true =>
        refine Tuple.DifferIn.symm fun own given => ?_
        simp only [if_true, found, Option.some.injEq] at given
        subst given
        exact alone right rightMember left leftMember there here
      | false => exact apart

/-- An update keeps a dataset in order exactly if it spares the keys. -/
theorem Keyed.update_iff (keyed : dataset.Keyed column) (criteria : Criteria) (changes : Tuple) :
    (dataset.update criteria changes).2.Keyed column ↔
      dataset.SparesKeys column criteria changes := by
  unfold SparesKeys
  cases set : changes.assigned? column with
  | none =>
    have same : ∀ row, (if criteria.matchesTuple row then row.merge changes else row).get? column =
        row.get? column := by
      intro row
      split
      · exact Tuple.get?_merge_of_unassigned set row
      · rfl
    refine iff_of_true ⟨?_, ?_, keyed.natural⟩ trivial
    · rw [KeysDiffer, Dataset.update, List.pairwise_map]
      refine keyed.differ.imp fun {left right} differ value given => ?_
      rw [same] at given
      rw [Tuple.holds, same]
      exact differ value given
    · intro row member value given
      obtain ⟨earlier, known, rfl⟩ := List.mem_map.mp member
      rw [same] at given
      exact keyed.passed earlier known value given
  | some value =>
    have found := Tuple.get?_merge_of_assigned set
    dsimp only
    constructor
    · intro kept
      refine ((keyed.differ.update_iff set).mp kept.differ).imp id fun ⟨one, fresh⟩ =>
        ⟨one, fresh, fun key integer => ?_⟩
      obtain ⟨row, met⟩ := List.length_eq_one_iff.mp one
      have inside : row ∈ dataset.rows ∧ criteria.matchesTuple row = true := by
        apply List.mem_filter.mp
        show row ∈ dataset.fetch criteria
        simp [met]
      have changed : row.merge changes ∈ (dataset.update criteria changes).2.rows := by
        refine List.mem_map.mpr ⟨row, inside.1, ?_⟩
        rw [if_pos inside.2]
      exact kept.passed _ changed value (found row) key integer
    · intro spared
      refine ⟨(keyed.differ.update_iff set).mpr (spared.imp id fun fine => ⟨fine.1, fine.2.1⟩), ?_,
        keyed.natural⟩
      intro row member own given key integer
      obtain ⟨earlier, known, rfl⟩ := List.mem_map.mp member
      show key ≤ dataset.lastKey
      split at given
      · rename_i met
        rw [found, Option.some.injEq] at given
        subst given
        rcases spared with none | ⟨_, _, passed⟩
        · have present : earlier ∈ dataset.fetch criteria := List.mem_filter.mpr ⟨known, met⟩
          rw [none] at present
          cases present
        · exact passed key integer
      · exact keyed.passed earlier known own given key integer

theorem lastKey_le_insert {primaryKey : Option String} {tuple row : Tuple} {changed : Dataset}
    (success : insert name primaryKey tuple dataset = .ok (row, changed)) :
    dataset.lastKey ≤ changed.lastKey := by
  unfold Dataset.insert at success
  split at success
  · cases success
    exact Int.le_refl _
  · split at success
    · cases success
      show dataset.lastKey ≤ dataset.lastKey + 1
      omega
    · split at success
      · cases success
      · cases success
        dsimp only
        split
        · exact Int.le_max_left _ _
        · exact Int.le_refl _

end Dataset

end RelationGraph
