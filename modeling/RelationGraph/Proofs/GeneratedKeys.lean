import RelationGraph.Proofs.WriteHistories

set_option autoImplicit false

namespace RelationGraph

open StoreM

namespace Dataset

variable {name column : String} {tuple : Tuple} {dataset : Dataset}

theorem insert_of_null (missing : tuple.read column = .null) :
    insert name (some column) tuple dataset = .ok (dataset.insertNext column tuple) := by
  rw [insert, missing]

theorem le_lastKey_of_insert {row : Tuple} {changed : Dataset} {key : Int}
    (given : (tuple.read column).toInt64? = some key)
    (success : insert name (some column) tuple dataset = .ok (row, changed)) :
    key ≤ changed.lastKey := by
  obtain ⟨value, _⟩ := Json.toInt64?_eq_some given
  unfold insert at success
  dsimp only at success
  rw [value] at given success
  dsimp only at success
  split at success
  · cases success
  · rw [given] at success
    cases success
    exact Int.le_max_right _ _

end Dataset

structure Reply where
  write : Write
  answer : Except Fault (List Tuple)

namespace Reply

/-- A tuple was added to a dataset with a key column, and the row is what was stored. -/
def Adds (reply : Reply) (name column : String) (tuple row : Tuple) : Prop :=
  reply.write = ⟨name, .insert (some column) tuple⟩ ∧ reply.answer = .ok [row]

/-- A tuple that brings no key was given one that is a 64-bit integer. -/
def Generates (reply : Reply) (name : String) (key : Int) : Prop :=
  ∃ column tuple row, reply.Adds name column tuple row ∧ tuple.read column = .null ∧
    (row.read column).toInt64? = some key

/-- A tuple was added that brings a key that is a 64-bit integer. -/
def Brings (reply : Reply) (name : String) (key : Int) : Prop :=
  ∃ column tuple row, reply.Adds name column tuple row ∧
    (tuple.read column).toInt64? = some key

end Reply

namespace Gateway

variable {gateway : Gateway}

def reply (gateway : Gateway) (write : Write) (store : Store) : Reply :=
  ⟨write, (outcome (write.run gateway) store).1⟩

def replies (gateway : Gateway) : List Write → Store → List Reply
  | [], _ => []
  | write :: rest, store =>
    gateway.reply write store :: gateway.replies rest (outcome (write.run gateway) store).2

/-- What a write answers, and the dataset after it, depend on that dataset alone. -/
theorem reply_congr (memory : gateway.InMemory) {write : Write} {store other : Store}
    (same : store.dataset gateway.id write.dataset = other.dataset gateway.id write.dataset) :
    gateway.reply write store = gateway.reply write other ∧
      (outcome (write.run gateway) store).2.dataset gateway.id write.dataset =
        (outcome (write.run gateway) other).2.dataset gateway.id write.dataset := by
  rw [dataset_run memory, dataset_run memory, if_pos ⟨rfl, rfl⟩, if_pos ⟨rfl, rfl⟩, same]
  refine ⟨?_, rfl⟩
  rw [reply, reply, outcome_run memory, outcome_run memory, same]
  cases write.change.perform write.dataset (other.dataset gateway.id write.dataset) <;> rfl

/-- The answers for a dataset are the same without the writes to others, and whatever those hold. -/
theorem filter_replies (memory : gateway.InMemory) (name : String) (writes : List Write)
    {store other : Store} (same : store.dataset gateway.id name = other.dataset gateway.id name) :
    (gateway.replies writes store).filter (·.write.dataset = name) =
      gateway.replies (writes.filter (·.dataset = name)) other := by
  induction writes generalizing store other with
  | nil => rfl
  | cons write rest ih =>
    rw [replies]
    by_cases here : write.dataset = name
    · subst here
      obtain ⟨answered, after⟩ := reply_congr memory same
      rw [List.filter_cons_of_pos (by simp [reply]), List.filter_cons_of_pos (by simp), replies,
        ih after, answered]
    · rw [List.filter_cons_of_neg (by simp [reply, here]), List.filter_cons_of_neg (by simp [here])]
      refine ih ?_
      rw [dataset_run memory, if_neg fun there => here there.2.symm, same]

theorem outcome_run_error (memory : gateway.InMemory) {write : Write} {store after : Store}
    {error : Fault} (refused : outcome (write.run gateway) store = (.error error, after)) :
    after = store := by
  rw [outcome_run memory] at refused
  split at refused
  · cases refused
  · exact (congrArg Prod.snd refused).symm

/-- A tuple that brings no key is stored under the next one. -/
theorem outcome_run_missing (memory : gateway.InMemory) {name column : String} {tuple : Tuple}
    (missing : tuple.read column = .null) (store : Store) :
    outcome ((Write.mk name (.insert (some column) tuple)).run gateway) store =
      (.ok [((store.dataset gateway.id name).insertNext column tuple).1],
        store.withDataset gateway.id name
          ((store.dataset gateway.id name).insertNext column tuple).2) := by
  rw [outcome_run memory, Change.perform, Dataset.insert_of_null missing]

theorem adds_reply (memory : gateway.InMemory) {write : Write} {store : Store}
    {name column : String} {tuple row : Tuple}
    (adds : (gateway.reply write store).Adds name column tuple row) :
    ∃ changed, Dataset.insert name (some column) tuple (store.dataset gateway.id name) =
        .ok (row, changed) ∧
      (outcome (write.run gateway) store).2.dataset gateway.id name = changed := by
  obtain ⟨asked, answered⟩ := adds
  obtain rfl : write = ⟨name, .insert (some column) tuple⟩ := asked
  rw [reply, outcome_run memory] at answered
  cases inserted : Dataset.insert name (some column) tuple (store.dataset gateway.id name) with
  | ok result =>
    obtain ⟨stored, changed⟩ := result
    rw [Change.perform, inserted] at answered
    cases answered
    refine ⟨changed, rfl, ?_⟩
    rw [dataset_run memory, if_pos ⟨rfl, rfl⟩, Change.apply, inserted]
  | error _ =>
    rw [Change.perform, inserted] at answered
    cases answered

/-- A key that is given out is the next one, to which the counter is taken. -/
theorem lastKey_of_generates (memory : gateway.InMemory) {write : Write} {store : Store}
    {name : String} {key : Int} (generates : (gateway.reply write store).Generates name key) :
    key = (store.dataset gateway.id name).lastKey + 1 ∧
      ((outcome (write.run gateway) store).2.dataset gateway.id name).lastKey = key := by
  obtain ⟨column, tuple, row, adds, missing, integer⟩ := generates
  obtain ⟨changed, inserted, after⟩ := adds_reply memory adds
  rw [Dataset.insert_of_null missing] at inserted
  cases inserted
  have next : ((store.dataset gateway.id name).insertNext column tuple).1.read column =
      .number (.int ((store.dataset gateway.id name).lastKey + 1)) :=
    Tuple.read_of_get? (Entries.get?_insert_self _ _ _)
  cases next.symm.trans (Json.toInt64?_eq_some integer).1
  exact ⟨rfl, by rw [after]⟩

/-- The counter has passed a key as soon as a row has it, however the row came by it. -/
theorem le_lastKey_of_taken (memory : gateway.InMemory) {write : Write} {store : Store}
    {name : String} {key : Int}
    (taken : (gateway.reply write store).Generates name key ∨
      (gateway.reply write store).Brings name key) :
    key ≤ ((outcome (write.run gateway) store).2.dataset gateway.id name).lastKey := by
  rcases taken with generates | ⟨column, tuple, row, adds, given⟩
  · exact Int.le_of_eq (lastKey_of_generates memory generates).2.symm
  · obtain ⟨changed, inserted, after⟩ := adds_reply memory adds
    rw [after]
    exact Dataset.le_lastKey_of_insert given inserted

/-- A key that is given out at any time is ahead of the counter at the start. -/
theorem lastKey_lt_of_generates (memory : gateway.InMemory) {writes : List Write} {store : Store}
    {reply : Reply} (member : reply ∈ gateway.replies writes store) {name : String} {key : Int}
    (generates : reply.Generates name key) : (store.dataset gateway.id name).lastKey < key := by
  induction writes generalizing store with
  | nil => cases member
  | cons write rest ih =>
    rcases List.mem_cons.mp member with rfl | later
    · have next := (lastKey_of_generates memory generates).1
      omega
    · exact Int.lt_of_le_of_lt (lastKey_le_run memory write store name) (ih later)

/-- Each key that is given out is greater than those given out or brought before it. -/
theorem pairwise_replies (memory : gateway.InMemory) (writes : List Write) (store : Store) :
    (gateway.replies writes store).Pairwise fun earlier later =>
      ∀ name key taken, later.Generates name key →
        earlier.Generates name taken ∨ earlier.Brings name taken → taken < key := by
  induction writes generalizing store with
  | nil => exact .nil
  | cons write rest ih =>
    refine List.pairwise_cons.mpr ⟨?_, ih _⟩
    intro later member name key taken generates before
    exact Int.lt_of_le_of_lt (le_lastKey_of_taken memory before)
      (lastKey_lt_of_generates memory member generates)

/-- In every history of writes a key that is given out for a dataset is greater than each key that
was given out for it before or that a row of it brought, whatever has become of those rows. The
answers for a dataset are those that it gives without the writes to others, whatever these hold. A
write that is refused leaves the store. A tuple without a key is always added, under the key after
the counter, which is taken there, as long as the key is a 64-bit integer. -/
theorem generates_increasing (memory : gateway.InMemory) (writes : List Write) (store : Store) :
    ((gateway.replies writes store).Pairwise fun earlier later =>
      ∀ name key taken, later.Generates name key →
        earlier.Generates name taken ∨ earlier.Brings name taken → taken < key) ∧
    (∀ name (other : Store),
      store.dataset gateway.id name = other.dataset gateway.id name →
        (gateway.replies writes store).filter (·.write.dataset = name) =
          gateway.replies (writes.filter (·.dataset = name)) other) ∧
    (∀ (write : Write) (error : Fault) (after : Store),
      outcome (write.run gateway) (gateway.written writes store) = (.error error, after) →
        after = gateway.written writes store) ∧
    ∀ name column (tuple : Tuple), tuple.read column = .null →
      let key := ((gateway.written writes store).dataset gateway.id name).lastKey + 1
      key < 0x8000000000000000 →
        ∃ after, outcome ((Write.mk name (.insert (some column) tuple)).run gateway)
              (gateway.written writes store) =
            (.ok [tuple.insert column (.number (.int key))], after) ∧
          (after.dataset gateway.id name).lastKey = key := by
  refine ⟨pairwise_replies memory writes store, fun name _ => filter_replies memory name writes,
    fun _ _ _ => outcome_run_error memory, ?_⟩
  intro name column tuple missing key _
  refine ⟨_, outcome_run_missing memory missing _, ?_⟩
  rw [Store.dataset_withDataset, if_pos ⟨rfl, rfl⟩]
  rfl

end Gateway

namespace Sample

/-- A user is added without a key and one with a key, which a third brings again, beside a task; all
users are removed, and another is added without a key. -/
def refilled : List Write :=
  [.blank "users" "id", ⟨"users", .insert (some "id") [("id", .ofNat 10)]⟩,
    ⟨"users", .insert (some "id") [("id", .ofNat 10)]⟩,
    ⟨"tasks", .insert (some "id") [("id", .ofNat 20)]⟩, ⟨"users", .delete ∅⟩,
    .blank "users" "id"]

end Sample

namespace Gateway

/-- The last key follows the greatest, although its row is gone. -/
theorem generates_increasing_refilled :
    ((plain 0 "memory").replies Sample.refilled ∅).map (·.answer) =
        [.ok [[("id", .ofNat 1)]], .ok [[("id", .ofNat 10)]],
          .error (.gateway (.duplicateKey (.ofNat 10) "users")), .ok [[("id", .ofNat 20)]],
          .ok [[("id", .ofNat 1)], [("id", .ofNat 10)]], .ok [[("id", .ofNat 11)]]] ∧
      (((plain 0 "memory").replies Sample.refilled ∅).Pairwise fun earlier later =>
        ∀ name key taken, later.Generates name key →
          earlier.Generates name taken ∨ earlier.Brings name taken → taken < key) ∧
      ((plain 0 "memory").replies Sample.refilled ∅).filter (·.write.dataset = "tasks") =
        (plain 0 "memory").replies
          [⟨"tasks", .insert (some "id") [("id", .ofNat 20)]⟩] ∅ := by
  obtain ⟨greater, apart, _⟩ :=
    generates_increasing (inMemory_plain 0 "memory") Sample.refilled ∅
  exact ⟨rfl, greater, apart "tasks" ∅ rfl⟩

end Gateway

end RelationGraph
