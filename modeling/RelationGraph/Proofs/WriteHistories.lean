import RelationGraph.Proofs.StoredKeys

set_option autoImplicit false

namespace RelationGraph

open StoreM

inductive Change where
  | insert (primaryKey : Option String) (tuple : Tuple)
  | update (criteria : Criteria) (changes : Tuple)
  | delete (criteria : Criteria)

/-- The dataset after a change; one that is refused leaves it. -/
def Change.apply (change : Change) (name : String) (dataset : Dataset) : Dataset :=
  match change with
  | .insert primaryKey tuple =>
    match Dataset.insert name primaryKey tuple dataset with
    | .ok (_, changed) => changed
    | .error _ => dataset
  | .update criteria changes => (dataset.update criteria changes).2
  | .delete criteria => (dataset.delete criteria).2

/-- The rows that a change answers, and the dataset after it. -/
def Change.perform (change : Change) (name : String) (dataset : Dataset) :
    Except Fault (List Tuple × Dataset) :=
  match change with
  | .insert primaryKey tuple =>
    match Dataset.insert name primaryKey tuple dataset with
    | .ok (row, changed) => .ok ([row], changed)
    | .error error => .error error
  | .update criteria changes => .ok (dataset.update criteria changes)
  | .delete criteria => .ok (dataset.delete criteria)

theorem Change.apply_eq (change : Change) (name : String) (dataset : Dataset) :
    change.apply name dataset =
      match change.perform name dataset with
      | .ok (_, changed) => changed
      | .error _ => dataset := by
  cases change with
  | insert primaryKey tuple =>
    rw [apply, perform]
    cases Dataset.insert name primaryKey tuple dataset <;> rfl
  | update | delete => rfl

theorem Change.lastKey_le_apply (change : Change) (name : String) (dataset : Dataset) :
    dataset.lastKey ≤ (change.apply name dataset).lastKey := by
  cases change with
  | insert primaryKey tuple =>
    cases inserted : Dataset.insert name primaryKey tuple dataset with
    | ok result =>
      rw [apply, inserted]
      exact Dataset.lastKey_le_insert inserted
    | error _ => exact Int.le_of_eq (by rw [apply, inserted])
  | update => exact Int.le_refl _
  | delete => exact Int.le_refl _

structure Write where
  dataset : String
  change : Change

namespace Write

def run (gateway : Gateway) (write : Write) : StoreM (List Tuple) :=
  match write.change with
  | .insert primaryKey tuple => do return [← gateway.insert write.dataset primaryKey tuple]
  | .update criteria changes => gateway.update write.dataset criteria changes
  | .delete criteria => gateway.delete write.dataset criteria

theorem run_insert (gateway : Gateway) (target : String) (primaryKey : Option String)
    (tuple : Tuple) :
    (Write.mk target (.insert primaryKey tuple)).run gateway = do
      return [← gateway.change .insert target (Dataset.insert target primaryKey tuple)] := rfl

theorem run_update (gateway : Gateway) (target : String) (criteria : Criteria) (changes : Tuple) :
    (Write.mk target (.update criteria changes)).run gateway =
      gateway.change .update target fun rows => .ok (rows.update criteria changes) := rfl

theorem run_delete (gateway : Gateway) (target : String) (criteria : Criteria) :
    (Write.mk target (.delete criteria)).run gateway =
      gateway.change .delete target fun rows => .ok (rows.delete criteria) := rfl

/-- Rows are added to the dataset with this key column only. -/
def Keys (name column : String) (write : Write) : Prop :=
  write.dataset = name →
    ∀ primaryKey tuple, write.change = .insert primaryKey tuple → primaryKey = some column

/-- Rows of the dataset are added, with this key column, or removed. -/
def AddsOrRemoves (name column : String) (write : Write) : Prop :=
  write.dataset = name →
    (∃ tuple, write.change = .insert (some column) tuple) ∨
      ∃ criteria, write.change = .delete criteria

def blank (name column : String) : Write := ⟨name, .insert (some column) []⟩

theorem addsOrRemoves_blank (name column : String) :
    (blank name column).AddsOrRemoves name column :=
  fun _ => Or.inl ⟨[], rfl⟩

theorem addsOrRemoves_delete (name column target : String) (criteria : Criteria) :
    (Write.mk target (.delete criteria)).AddsOrRemoves name column :=
  fun _ => Or.inr ⟨criteria, rfl⟩

theorem keys_update (name column target : String) (criteria : Criteria) (changes : Tuple) :
    (Write.mk target (.update criteria changes)).Keys name column := by
  intro _ _ _ inserts
  cases inserts

theorem AddsOrRemoves.keys {name column : String} {write : Write}
    (plain : write.AddsOrRemoves name column) : write.Keys name column := by
  intro named primaryKey tuple inserts
  rcases plain named with ⟨other, same⟩ | ⟨criteria, deletes⟩
  · rw [inserts] at same
    exact (Change.insert.inj same).1
  · rw [inserts] at deletes
    cases deletes

/-- An update of the dataset spares the keys in the rows that it finds. -/
def SparesKeys (name column : String) (write : Write) (dataset : Dataset) : Prop :=
  write.dataset = name → ∀ criteria changes, write.change = .update criteria changes →
    dataset.SparesKeys column criteria changes

theorem AddsOrRemoves.sparesKeys {name column : String} {write : Write}
    (plain : write.AddsOrRemoves name column) (dataset : Dataset) :
    write.SparesKeys name column dataset := by
  intro named criteria changes updates
  rcases plain named with ⟨_, inserts⟩ | ⟨_, deletes⟩
  · rw [updates] at inserts
    cases inserts
  · rw [updates] at deletes
    cases deletes

end Write

namespace Gateway

variable {gateway : Gateway}

/-- The store after some writes; one that is refused leaves it. -/
def written (gateway : Gateway) : List Write → Store → Store
  | [], store => store
  | write :: rest, store => gateway.written rest (outcome (write.run gateway) store).2

/-- Each update of the dataset spares the keys in the rows that it finds. -/
def SparesKeys (gateway : Gateway) (name column : String) : List Write → Store → Prop
  | [], _ => True
  | write :: rest, store =>
    write.SparesKeys name column (store.dataset gateway.id name) ∧
      gateway.SparesKeys name column rest (outcome (write.run gateway) store).2

theorem written_append (gateway : Gateway) (first second : List Write) (store : Store) :
    gateway.written (first ++ second) store =
      gateway.written second (gateway.written first store) := by
  induction first generalizing store with
  | nil => rfl
  | cons write rest ih => exact ih _

theorem sparesKeys_append {name column : String} {first second : List Write} {store : Store} :
    gateway.SparesKeys name column (first ++ second) store ↔
      gateway.SparesKeys name column first store ∧
        gateway.SparesKeys name column second (gateway.written first store) := by
  induction first generalizing store with
  | nil => exact ⟨fun spares => ⟨trivial, spares⟩, And.right⟩
  | cons write rest ih =>
    rw [List.cons_append, SparesKeys, SparesKeys, ih, and_assoc]
    rfl

theorem outcome_run (memory : gateway.InMemory) (write : Write) (store : Store) :
    outcome (write.run gateway) store =
      match write.change.perform write.dataset (store.dataset gateway.id write.dataset) with
      | .ok (rows, changed) => (.ok rows, store.withDataset gateway.id write.dataset changed)
      | .error error => (.error error, store) := by
  obtain ⟨target, change⟩ := write
  cases change with
  | insert primaryKey tuple =>
    rw [Write.run_insert, outcome_bind, outcome_change (memory.accepts .insert), Change.perform]
    cases Dataset.insert target primaryKey tuple (store.dataset gateway.id target) <;> rfl
  | update criteria changes =>
    rw [Write.run_update, outcome_change (memory.accepts .update)]
    rfl
  | delete criteria =>
    rw [Write.run_delete, outcome_change (memory.accepts .delete)]
    rfl

theorem dataset_run (memory : gateway.InMemory) (write : Write) (store : Store) (other : Nat)
    (name : String) :
    (outcome (write.run gateway) store).2.dataset other name =
      if other = gateway.id ∧ name = write.dataset then
        write.change.apply name (store.dataset gateway.id name)
      else store.dataset other name := by
  rw [outcome_run memory]
  cases performed : write.change.perform write.dataset (store.dataset gateway.id write.dataset) with
  | ok result =>
    show (store.withDataset gateway.id write.dataset result.2).dataset other name = _
    rw [Store.dataset_withDataset]
    split
    · rename_i here
      rw [here.2, Change.apply_eq, performed]
    · rfl
  | error _ =>
    show store.dataset other name = _
    split
    · rename_i here
      rw [here.1, here.2, Change.apply_eq, performed]
    · rfl

theorem lastKey_le_run (memory : gateway.InMemory) (write : Write) (store : Store) (name : String) :
    (store.dataset gateway.id name).lastKey ≤
      ((outcome (write.run gateway) store).2.dataset gateway.id name).lastKey := by
  rw [dataset_run memory]
  split
  · exact write.change.lastKey_le_apply name _
  · exact Int.le_refl _

theorem lastKey_le_written (memory : gateway.InMemory) (writes : List Write) (store : Store)
    (name : String) :
    (store.dataset gateway.id name).lastKey ≤
      ((gateway.written writes store).dataset gateway.id name).lastKey := by
  induction writes generalizing store with
  | nil => exact Int.le_refl _
  | cons write rest ih => exact Int.le_trans (lastKey_le_run memory write store name) (ih _)

/-- A write keeps a dataset in order if rows are added with its key column and an update spares the
keys. -/
theorem keyed_run (memory : gateway.InMemory) {name column : String} {write : Write} {store : Store}
    (keys : write.Keys name column)
    (spares : write.SparesKeys name column (store.dataset gateway.id name))
    (range : ((outcome (write.run gateway) store).2.dataset gateway.id name).lastKey <
      0x8000000000000000)
    (keyed : (store.dataset gateway.id name).Keyed column) :
    ((outcome (write.run gateway) store).2.dataset gateway.id name).Keyed column := by
  rw [dataset_run memory] at range ⊢
  by_cases here : gateway.id = gateway.id ∧ name = write.dataset
  · rw [if_pos here] at range ⊢
    cases changed : write.change with
    | insert primaryKey tuple =>
      obtain rfl := keys here.2.symm primaryKey tuple changed
      rw [changed] at range
      rw [Change.apply] at range ⊢
      cases inserted : Dataset.insert name (some column) tuple (store.dataset gateway.id name) with
      | ok result =>
        rw [inserted] at range
        exact keyed.insert inserted range
      | error _ => exact keyed
    | update criteria changes =>
      exact (keyed.update_iff criteria changes).mpr (spares here.2.symm criteria changes changed)
    | delete criteria => exact keyed.delete criteria
  · rw [if_neg here]
    exact keyed

/-- The dataset stays in order in a history whose updates spare the keys. -/
theorem keyed_written (memory : gateway.InMemory) {name column : String} {writes : List Write}
    {store : Store} (keys : ∀ write ∈ writes, write.Keys name column)
    (spares : gateway.SparesKeys name column writes store)
    (range : ((gateway.written writes store).dataset gateway.id name).lastKey < 0x8000000000000000)
    (keyed : (store.dataset gateway.id name).Keyed column) :
    ((gateway.written writes store).dataset gateway.id name).Keyed column := by
  induction writes generalizing store with
  | nil => exact keyed
  | cons write rest ih =>
    obtain ⟨here, others⟩ := List.forall_mem_cons.mp keys
    have later := lastKey_le_written memory rest (outcome (write.run gateway) store).2 name
    exact ih others spares.2 range
      (keyed_run memory here spares.1 (Int.lt_of_le_of_lt later range) keyed)

theorem sparesKeys_of_addsOrRemoves {name column : String} {writes : List Write} {store : Store}
    (plain : ∀ write ∈ writes, write.AddsOrRemoves name column) :
    gateway.SparesKeys name column writes store := by
  induction writes generalizing store with
  | nil => exact trivial
  | cons write rest ih =>
    obtain ⟨here, others⟩ := List.forall_mem_cons.mp plain
    exact ⟨here.sparesKeys _, ih others⟩

/-- Rows that come without a key are added under the keys that follow the counter. -/
theorem written_blanks (memory : gateway.InMemory) (name column : String) (count : Nat)
    (store : Store) :
    ((gateway.written (List.replicate count (.blank name column)) store).dataset
        gateway.id name).lastKey = (store.dataset gateway.id name).lastKey + count ∧
      (store.dataset gateway.id name).rows.Sublist
        ((gateway.written (List.replicate count (.blank name column)) store).dataset
          gateway.id name).rows := by
  induction count generalizing store with
  | zero => exact ⟨(Int.add_zero _).symm, List.Sublist.refl _⟩
  | succ count ih =>
    have first : (outcome ((Write.blank name column).run gateway) store).2.dataset gateway.id name =
        ((store.dataset gateway.id name).insertNext column []).2 := by
      rw [dataset_run memory, if_pos ⟨rfl, rfl⟩]
      rfl
    obtain ⟨counted, kept⟩ := ih (outcome ((Write.blank name column).run gateway) store).2
    rw [first] at counted kept
    rw [List.replicate_succ, written]
    refine ⟨counted.trans ?_, (List.sublist_append_left _ _).trans kept⟩
    show (store.dataset gateway.id name).lastKey + 1 + count = _
    omega

/-- A dataset that stays in order whatever is added and removed has counted past its keys: a key
ahead of the counter is given out a second time. -/
theorem passed_of_differ (memory : gateway.InMemory) {name column : String} {store : Store}
    (differ : ∀ writes : List Write, (∀ write ∈ writes, write.AddsOrRemoves name column) →
      ((gateway.written writes store).dataset gateway.id name).lastKey < 0x8000000000000000 →
        ((gateway.written writes store).dataset gateway.id name).KeysDiffer column)
    {row : Tuple} (member : row ∈ (store.dataset gateway.id name).rows) {value : Json}
    (found : row.get? column = some value) {key : Int} (integer : value.toInt64? = some key) :
    key ≤ (store.dataset gateway.id name).lastKey := by
  refine Decidable.byContradiction fun ahead => ?_
  obtain ⟨rfl, _, limit⟩ := Json.toInt64?_eq_some integer
  obtain ⟨count, reached⟩ : ∃ count : Nat,
      (store.dataset gateway.id name).lastKey + count + 1 = key :=
    ⟨(key - (store.dataset gateway.id name).lastKey - 1).toNat, by omega⟩
  obtain ⟨counted, kept⟩ := written_blanks memory name column count store
  have full := (written_blanks memory name column (count + 1) store).1
  have apart := differ (List.replicate (count + 1) (.blank name column))
    (fun write blank => List.eq_of_mem_replicate blank ▸ Write.addsOrRemoves_blank name column)
    (by rw [full]; omega)
  have last : (gateway.written (List.replicate (count + 1) (.blank name column)) store).dataset
        gateway.id name =
      (((gateway.written (List.replicate count (.blank name column)) store).dataset
        gateway.id name).insertNext column []).2 := by
    rw [List.replicate_succ', written_append]
    show (outcome ((Write.blank name column).run gateway) _).2.dataset gateway.id name = _
    rw [dataset_run memory, if_pos ⟨rfl, rfl⟩]
    rfl
  rw [last] at apart
  have again : (Tuple.insert [] column (.number (.int key))).holds column (.number (.int key)) =
      true := Tuple.holds_of_get? (Entries.get?_insert_self _ _ _)
  have clash := (List.pairwise_append.mp apart).2.2 row (kept.subset member) _
    List.mem_cons_self _ found
  rw [counted, reached, again] at clash
  cases clash

/-- A history that keeps a dataset in order at every time has updates that spare the keys. -/
theorem sparesKeys_of_keyed (memory : gateway.InMemory) {name column : String}
    {writes : List Write} {store : Store}
    (keyed : ∀ before, before <+: writes →
      ((gateway.written before store).dataset gateway.id name).Keyed column) :
    gateway.SparesKeys name column writes store := by
  induction writes generalizing store with
  | nil => exact trivial
  | cons write rest ih =>
    refine ⟨fun named criteria changes updates => ?_, ih fun before start => ?_⟩
    · have now := keyed [] (List.nil_prefix)
      have next := keyed [write] ⟨rest, rfl⟩
      have updated : (gateway.written [write] store).dataset gateway.id name =
          ((store.dataset gateway.id name).update criteria changes).2 := by
        show (outcome (write.run gateway) store).2.dataset gateway.id name = _
        rw [dataset_run memory, if_pos ⟨rfl, named.symm⟩, updates, Change.apply]
      rw [updated] at next
      exact (now.update_iff criteria changes).mp next
    · exact keyed (write :: before) (List.cons_prefix_cons.mpr ⟨rfl, start⟩)

/-- In a dataset that starts empty and takes its key from one column, the keys of the rows differ at
every time, and however rows are added and removed from there, exactly if every update spares the
keys. -/
theorem keysDiffer_iff_sparesKeys (memory : gateway.InMemory) {name column : String}
    {writes : List Write} {store : Store} (fresh : store.dataset gateway.id name = ∅)
    (keys : ∀ write ∈ writes, write.Keys name column)
    (range : ((gateway.written writes store).dataset gateway.id name).lastKey <
      0x8000000000000000) :
    (∀ before, before <+: writes → ∀ further : List Write,
        (∀ write ∈ further, write.AddsOrRemoves name column) →
          ((gateway.written (before ++ further) store).dataset gateway.id name).lastKey <
              0x8000000000000000 →
            ((gateway.written (before ++ further) store).dataset gateway.id name).KeysDiffer
              column) ↔
      gateway.SparesKeys name column writes store := by
  have empty : (store.dataset gateway.id name).Keyed column := fresh ▸ Dataset.keyed_empty column
  constructor
  · intro differ
    refine sparesKeys_of_keyed memory fun before start => ?_
    have natural : 0 ≤ ((gateway.written before store).dataset gateway.id name).lastKey :=
      Int.le_trans empty.natural (lastKey_le_written memory before store name)
    have low : ((gateway.written before store).dataset gateway.id name).lastKey <
        0x8000000000000000 := by
      obtain ⟨rest, rfl⟩ := start
      rw [written_append] at range
      have later := lastKey_le_written memory rest (gateway.written before store) name
      omega
    have stays : ∀ further : List Write, (∀ write ∈ further, write.AddsOrRemoves name column) →
        ((gateway.written further (gateway.written before store)).dataset gateway.id name).lastKey <
            0x8000000000000000 →
          ((gateway.written further (gateway.written before store)).dataset gateway.id
            name).KeysDiffer column := by
      intro further plain limit
      rw [← written_append] at limit ⊢
      exact differ before start further plain limit
    have now := stays [] (fun _ member => (by cases member)) low
    exact ⟨now, fun row member value found key integer =>
      passed_of_differ memory stays member found integer, natural⟩
  · rintro spares before ⟨rest, rfl⟩ further plain limit
    obtain ⟨spared, _⟩ := sparesKeys_append.mp spares
    have named : ∀ write ∈ before ++ further, write.Keys name column := by
      intro write member
      rcases List.mem_append.mp member with earlier | later
      · exact keys write (List.mem_append_left _ earlier)
      · exact (plain write later).keys
    have fine := sparesKeys_append.mpr ⟨spared, sparesKeys_of_addsOrRemoves plain⟩
    exact (keyed_written memory named fine limit empty).differ

/-- Two users are added, the first is removed, the second is given its key, and a third is added. -/
theorem keysDiffer_iff_sparesKeys_users :
    let add : Write := .blank "users" "id"
    let remove : Write := ⟨"users", .delete ⟨[("id", .eq (.ofNat 1))]⟩⟩
    let move : Write := ⟨"users", .update ∅ [("id", .ofNat 1), ("name", .string "Ann")]⟩
    let writes := [add, add, remove, move, add]
    ((plain 0 "memory").written writes ∅).dataset 0 "users" =
        ⟨[[("id", .ofNat 1), ("name", .string "Ann")], [("id", .ofNat 3)]], 3⟩ ∧
      ∀ before, before <+: writes → ∀ further : List Write,
        (∀ write ∈ further, write.AddsOrRemoves "users" "id") →
          (((plain 0 "memory").written (before ++ further) ∅).dataset 0 "users").lastKey <
              0x8000000000000000 →
            (((plain 0 "memory").written (before ++ further) ∅).dataset 0 "users").KeysDiffer
              "id" := by
  intro add remove move writes
  have added : add.AddsOrRemoves "users" "id" := Write.addsOrRemoves_blank _ _
  have removed : remove.AddsOrRemoves "users" "id" := Write.addsOrRemoves_delete _ _ _ _
  have keys : ∀ write ∈ writes, write.Keys "users" "id" := by
    simp only [writes, List.forall_mem_cons]
    exact ⟨added.keys, added.keys, removed.keys, Write.keys_update _ _ _ _ _, added.keys, by simp⟩
  have spares : (plain 0 "memory").SparesKeys "users" "id" writes ∅ := by
    refine ⟨added.sparesKeys _, added.sparesKeys _, removed.sparesKeys _, ?_, added.sparesKeys _,
      trivial⟩
    intro _ criteria changes updates
    cases updates
    refine Or.inr ⟨rfl, rfl, fun key integer => ?_⟩
    cases integer
    decide
  exact ⟨rfl, (keysDiffer_iff_sparesKeys (inMemory_plain 0 "memory") rfl keys (by decide)).mpr
    spares⟩

end Gateway

namespace Sample

/-- The user's key is changed to the next one, which the next user is given, too. -/
theorem not_keysDiffer_moved :
    let add : Write := .blank "users" "id"
    let move : Write := ⟨"users", .update ⟨[("id", .eq (.ofNat 1))]⟩ [("id", .ofNat 2)]⟩
    let users := ((Gateway.plain 0 "memory").written [add, move, add] ∅).dataset 0 "users"
    (∀ write ∈ [add, move, add], write.Keys "users" "id") ∧
      users.rows = [[("id", .ofNat 2)], [("id", .ofNat 2)]] ∧ ¬users.KeysDiffer "id" := by
  intro add move users
  have added : add.Keys "users" "id" := (Write.addsOrRemoves_blank _ _).keys
  refine ⟨?_, rfl, fun differ => ?_⟩
  · simp only [List.forall_mem_cons]
    exact ⟨added, Write.keys_update _ _ _ _ _, added, by simp⟩
  · have apart := (List.pairwise_cons.mp differ).1 [("id", .ofNat 2)] List.mem_cons_self
    cases apart (.ofNat 2) rfl

end Sample

end RelationGraph
