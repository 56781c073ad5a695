import RelationGraph.Proofs.Compilation
import RelationGraph.Proofs.Commands

/-!
What a nested create stores.

The rules below say it without running anything: which row is added for each entry of a payload, in
which order, with which parent, and what the answer is. Every successful create follows them.
-/

set_option autoImplicit false

namespace RelationGraph

open StoreM

/-- The entries of a payload: the items of an array, otherwise the payload itself. -/
def Json.entries : Json → List Json
  | .array items => items
  | payload => [payload]

def Command.answer (command : Command) (payload : Json) (rows : List Tuple) : Json :=
  match payload with
  | .array _ => .array (rows.map .object)
  | _ => command.shape rows

theorem Json.entries_of_not_array {payload : Json} (single : ∀ items, payload ≠ .array items) :
    payload.entries = [payload] := by
  unfold entries
  split
  · exact absurd rfl (single _)
  · rfl

theorem Command.answer_of_not_array {payload : Json} (single : ∀ items, payload ≠ .array items)
    (command : Command) (rows : List Tuple) :
    command.answer payload rows = command.shape rows := by
  unfold answer
  split
  · exact absurd rfl (single _)
  · rfl

namespace CommandTree

mutual

/-- `CreatesEntry node parent entry log result`: for an entry below a stored parent, a node adds the
rows of `log`, the first of them for the entry itself, and yields `result`. -/
inductive CreatesEntry : CommandTree → Option Tuple → Json → List Insertion → Tuple → Prop
  | intro {node : CommandTree} {parent : Option Tuple} {entry : Json} {columns row : Tuple}
      {log : List Insertion} {nested : List (String × Json)}
      (object : entry.toTuple = .ok columns) (supplied : node.command.Supplies parent)
      (below : CreatesBelow columns row node.nodes log nested) :
      CreatesEntry node parent entry
        (⟨node.command.relation,
          node.command.handed (columns.without (node.nodes.map (·.key))) parent, row⟩ :: log)
        (row.merge nested)

/-- `CreatesBelow columns row nodes log nested`: below an entry with `columns`, stored as `row`, the
nodes whose keys are among the columns add the rows of `log` and answer with `nested`. -/
inductive CreatesBelow :
    Tuple → Tuple → List CommandTree → List Insertion → List (String × Json) → Prop
  | nil {columns row : Tuple} : CreatesBelow columns row [] [] []
  | absent {columns row : Tuple} {node : CommandTree} {rest : List CommandTree}
      {log : List Insertion} {nested : List (String × Json)}
      (missing : columns.get? node.key = none)
      (others : CreatesBelow columns row rest log nested) :
      CreatesBelow columns row (node :: rest) log nested
  | present {columns row : Tuple} {node : CommandTree} {rest : List CommandTree} {payload : Json}
      {first log : List Insertion} {results : List Tuple} {nested : List (String × Json)}
      (found : columns.get? node.key = some payload)
      (each : CreatesEach node (some row) payload.entries first results)
      (others : CreatesBelow columns row rest log nested) :
      CreatesBelow columns row (node :: rest) (first ++ log)
        ((node.key, node.command.answer payload results) :: nested)

inductive CreatesEach : CommandTree → Option Tuple → List Json → List Insertion → List Tuple → Prop
  | nil {node : CommandTree} {parent : Option Tuple} : CreatesEach node parent [] [] []
  | cons {node : CommandTree} {parent : Option Tuple} {entry : Json} {rest : List Json}
      {first log : List Insertion} {result : Tuple} {results : List Tuple}
      (entered : CreatesEntry node parent entry first result)
      (others : CreatesEach node parent rest log results) :
      CreatesEach node parent (entry :: rest) (first ++ log) (result :: results)

end

/-- No key of a node is a column that a node after it takes a value of. -/
inductive KeysApart : CommandTree → Prop
  | intro {tree : CommandTree}
      (apart : tree.nodes.Pairwise fun first second =>
        first.key ∉ second.command.parentColumns)
      (nodes : ∀ node ∈ tree.nodes, KeysApart node) : KeysApart tree

/-- The node creates what the rules say when it is called with `seen` as its parent, where `parent`
is what was stored of it. -/
def Creates (node : CommandTree) (seen parent : Option Tuple) : Prop :=
  ∀ {payload output : Json} {store after : Store},
    outcome (execute seen node payload) store = (.ok output, after) →
      ∃ log results, CreatesEach node parent payload.entries log results ∧
        output = node.command.answer payload results ∧ Inserted store log after

/-- The nodes below a row create what the rules say. What they put into the row before a node is
called covers none of the columns that this node takes a value of. -/
theorem outcome_executeChildren {columns row : Tuple} {nodes : List CommandTree}
    (creates : ∀ node ∈ nodes, ∀ seen : Tuple,
      (∀ column ∈ node.command.parentColumns, seen.get? column = row.get? column) →
        node.Creates (some seen) (some row))
    (apart : nodes.Pairwise fun first second => first.key ∉ second.command.parentColumns)
    {seen : Tuple}
    (agree : ∀ node ∈ nodes, ∀ column ∈ node.command.parentColumns,
      seen.get? column = row.get? column)
    {store after : Store} {final : Tuple}
    (success : outcome (executeChildren (nodes.map fun node => columns.get? node.key) seen nodes)
      store = (.ok final, after)) :
    ∃ log nested, CreatesBelow columns row nodes log nested ∧ final = seen.merge nested ∧
      Inserted store log after := by
  induction nodes generalizing seen store with
  | nil =>
    cases success
    exact ⟨[], [], .nil, rfl, .nil⟩
  | cons node rest ih =>
    obtain ⟨clear, apart⟩ := List.pairwise_cons.mp apart
    obtain ⟨nodeCreates, creates⟩ := List.forall_mem_cons.mp creates
    obtain ⟨nodeAgrees, agree⟩ := List.forall_mem_cons.mp agree
    rw [List.map_cons] at success
    cases found : columns.get? node.key with
    | none =>
      rw [found, executeChildren_absent] at success
      obtain ⟨log, nested, below, shape, inserted⟩ := ih creates apart agree success
      exact ⟨log, nested, .absent found below, shape, inserted⟩
    | some payload =>
      rw [found, executeChildren_present] at success
      obtain ⟨output, middle, executed, success⟩ := outcome_bind_eq_ok.mp success
      obtain ⟨first, results, each, answer, added⟩ := nodeCreates seen nodeAgrees executed
      have kept : ∀ other ∈ rest, ∀ column ∈ other.command.parentColumns,
          (seen.insert node.key output).get? column = row.get? column := by
        intro other member column taken
        rw [Tuple.get?_insert_of_ne]
        · exact agree other member column taken
        · rintro rfl
          exact clear other member taken
      obtain ⟨log, nested, below, shape, inserted⟩ := ih creates apart kept success
      refine ⟨first ++ log, _, .present found each below, ?_, added.append inserted⟩
      rw [shape, answer]
      rfl

theorem outcome_runEntry {tree : CommandTree} (bare : tree.command.Bare)
    (typed : tree.command.type = .create) (distinct : (tree.nodes.map (·.key)).Nodup)
    (apart : tree.nodes.Pairwise fun first second => first.key ∉ second.command.parentColumns)
    (creates : ∀ node ∈ tree.nodes, ∀ row seen : Tuple,
      (∀ column ∈ node.command.parentColumns, seen.get? column = row.get? column) →
        node.Creates (some seen) (some row))
    {seen parent : Option Tuple}
    (same : ∀ tuple, tree.command.prepared tuple seen = tree.command.prepared tuple parent)
    {entry : Json} {rows : List Tuple} {store after : Store}
    (success : outcome (runEntry tree.command tree.nodes seen (fun payloads row =>
      executeChildren payloads row tree.nodes) entry) store = (.ok rows, after)) :
    ∃ log result, rows = [result] ∧ CreatesEntry tree parent entry log result ∧
      Inserted store log after := by
  have stored : outcome (runEntry tree.command tree.nodes parent (fun payloads row =>
      executeChildren payloads row tree.nodes) entry) store = (.ok rows, after) := by
    simpa only [runEntry, Command.run_congr typed (same _)] using success
  obtain ⟨columns, row, result, middle, object, supplied, added, executed, rfl⟩ :=
    outcome_runEntry_create bare typed stored
  rw [takePayloads_eq distinct] at added executed
  obtain ⟨log, nested, below, rfl, inserted⟩ := outcome_executeChildren
    (fun node member => creates node member row) apart (fun _ _ _ _ => rfl) executed
  exact ⟨_, _, rfl, .intro object supplied below, .cons added inserted⟩

theorem outcome_collect {tree : CommandTree} {parent : Option Tuple}
    {act : Json → StoreM (List Tuple)}
    (each : ∀ {entry : Json} {rows : List Tuple} {store after : Store},
      outcome (act entry) store = (.ok rows, after) →
        ∃ log result, rows = [result] ∧ CreatesEntry tree parent entry log result ∧
          Inserted store log after)
    {items : List Json} {results : List Tuple} {store after : Store}
    (success : outcome (collect act items) store = (.ok results, after)) :
    ∃ log, CreatesEach tree parent items log results ∧ Inserted store log after := by
  induction items generalizing results store with
  | nil =>
    cases success
    exact ⟨[], .nil, .nil⟩
  | cons item rest ih =>
    obtain ⟨rows, middle, entered, success⟩ := outcome_bind_eq_ok.mp success
    obtain ⟨others, _, collected, success⟩ := outcome_bind_eq_ok.mp success
    cases success
    obtain ⟨first, result, rfl, created, added⟩ := each entered
    obtain ⟨log, below, inserted⟩ := ih collected
    exact ⟨first ++ log, .cons created below, added.append inserted⟩

/-- A regular tree in which keys stand apart from parent columns creates what the rules say. -/
theorem Regular.creates {tree : CommandTree} (regular : tree.Regular .create)
    (apart : tree.KeysApart) {seen parent : Option Tuple}
    (same : ∀ tuple, tree.command.prepared tuple seen = tree.command.prepared tuple parent) :
    tree.Creates seen parent := by
  induction regular generalizing seen parent with
  | @intro tree typed bare distinct inner ih =>
    cases apart with
    | intro apart nodes =>
      -- The rows that the nodes see agree with the stored ones where it matters.
      have below : ∀ node ∈ tree.nodes, ∀ row seen : Tuple,
          (∀ column ∈ node.command.parentColumns, seen.get? column = row.get? column) →
            node.Creates (some seen) (some row) := by
        intro node member row seen agree
        exact ih node member (nodes node member)
          (Command.prepared_congr (inner node member).bare agree)
      intro payload output store after success
      have each : ∀ {entry : Json} {rows : List Tuple} {store after : Store},
          outcome (runEntry tree.command tree.nodes seen (fun payloads row =>
            executeChildren payloads row tree.nodes) entry) store = (.ok rows, after) →
          ∃ log result, rows = [result] ∧ CreatesEntry tree parent entry log result ∧
            Inserted store log after :=
        outcome_runEntry bare typed distinct apart below same
      rw [execute_eq] at success
      by_cases array : ∃ items, payload = .array items
      · obtain ⟨items, rfl⟩ := array
        rw [runPayload_array typed] at success
        obtain ⟨results, _, collected, success⟩ := outcome_bind_eq_ok.mp success
        cases success
        obtain ⟨log, created, inserted⟩ := outcome_collect each collected
        exact ⟨log, results, created, rfl, inserted⟩
      · have single : ∀ items, payload ≠ .array items := fun items same => array ⟨items, same⟩
        rw [runPayload_entry fun _ => single] at success
        obtain ⟨rows, _, entered, success⟩ := outcome_bind_eq_ok.mp success
        cases success
        obtain ⟨log, result, rfl, created, inserted⟩ := each entered
        rw [Json.entries_of_not_array single]
        refine ⟨log, [result], ?_, (Command.answer_of_not_array single _ _).symm, inserted⟩
        simpa only [List.append_nil] using CreatesEach.cons created .nil

end CommandTree

namespace CompileRequest

end CompileRequest

end RelationGraph
