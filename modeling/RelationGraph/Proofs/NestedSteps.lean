import RelationGraph.Proofs.Commands

/-!
The steps of a nested write.

A call runs commands one after another. Each is recorded with what it is given and the store that it
finds, also those before a failure. The steps lead from the store before the call to the store after
it, and each but those of the root runs for a row that an earlier step has returned.
-/

set_option autoImplicit false

namespace RelationGraph

open StoreM

/-- A row above a node. -/
structure Parent where
  /-- The row as the command above has returned it. -/
  returned : Tuple
  /-- The row with the answers of the nodes before. -/
  seen : Tuple

structure Step where
  node : CommandTree
  parent : Option Parent
  tuple : Tuple
  store : Store

namespace Step

def outcome (step : Step) : Except Fault (List Tuple) × Store :=
  StoreM.outcome (step.node.command.run step.tuple (step.parent.map (·.seen))) step.store

/-- Steps with those that follow, where the first part does not fail. -/
def followedBy {α : Type} (first : List Step) (result : Except Fault α × Store)
    (next : α → Store → List Step) : List Step :=
  match result with
  | (.ok value, after) => first ++ next value after
  | (.error _, _) => first

def ofCollect {α β : Type} (act : α → StoreM (List β)) (steps : α → Store → List Step) :
    List α → Store → List Step
  | [], _ => []
  | item :: rest, store =>
    followedBy (steps item store) (StoreM.outcome (act item) store) fun _ after =>
      ofCollect act steps rest after

/-- The steps for an entry: the command of the node, and then those of `below` for each row. -/
def ofEntry (node : CommandTree) (parent : Option Parent)
    (below : List (Option Json) → Tuple → Store → List Step) (entry : Json) (store : Store) :
    List Step :=
  match entry.toTuple with
  | .error _ => []
  | .ok tuple =>
    let (payloads, own) := CommandTree.takePayloads node.nodes tuple
    let step : Step := ⟨node, parent, own, store⟩
    followedBy [step] step.outcome
      (ofCollect (fun row => return [← CommandTree.executeChildren payloads row node.nodes])
        (below payloads))

def ofPayload (command : Command) (act : Json → StoreM (List Tuple))
    (steps : Json → Store → List Step) (payload : Json) (store : Store) : List Step :=
  match command.type, payload with
  | .create, .array items => ofCollect act steps items store
  | _, entry => steps entry store

theorem ofPayload_array {command : Command} (typed : command.type = .create)
    (act : Json → StoreM (List Tuple)) (steps : Json → Store → List Step) (items : List Json)
    (store : Store) :
    ofPayload command act steps (.array items) store = ofCollect act steps items store := by
  simp only [ofPayload, typed]

theorem ofPayload_entry {command : Command} {payload : Json}
    (single : command.type = .create → ∀ items, payload ≠ .array items)
    (act : Json → StoreM (List Tuple)) (steps : Json → Store → List Step) (store : Store) :
    ofPayload command act steps payload store = steps payload store := by
  unfold ofPayload
  split
  · rename_i typed
    exact absurd rfl (single typed _)
  · rfl

end Step

namespace CommandTree

mutual

def steps (parent : Option Parent) : CommandTree → Json → Store → List Step
  | ⟨key, command, nodes⟩, payload, store =>
    Step.ofPayload command
      (runEntry command nodes (parent.map (·.seen)) fun payloads row =>
        executeChildren payloads row nodes)
      (Step.ofEntry ⟨key, command, nodes⟩ parent fun payloads row =>
        childSteps payloads row row nodes)
      payload store

def childSteps (payloads : List (Option Json)) (returned seen : Tuple) :
    List CommandTree → Store → List Step
  | [], _ => []
  | ⟨key, command, nodes⟩ :: rest, store =>
    match payloads with
    | some payload :: payloads =>
      Step.followedBy (steps (some ⟨returned, seen⟩) ⟨key, command, nodes⟩ payload store)
        (outcome (execute (some seen) ⟨key, command, nodes⟩ payload) store) fun nested after =>
          childSteps payloads returned (seen.insert key nested) rest after
    | none :: payloads => childSteps payloads returned seen rest store
    | [] => []

end

def callSteps (tree : CommandTree) (input : Json) (store : Store) : List Step :=
  match input.toTuple with
  | .error _ => []
  | .ok members =>
    match members.get? tree.key with
    | none => []
    | some payload =>
      match tree.validate payload with
      | .error _ => []
      | .ok _ => tree.steps none payload store

theorem steps_eq (parent : Option Parent) (tree : CommandTree) (payload : Json) (store : Store) :
    steps parent tree payload store =
      Step.ofPayload tree.command
        (runEntry tree.command tree.nodes (parent.map (·.seen)) fun payloads row =>
          executeChildren payloads row tree.nodes)
        (Step.ofEntry tree parent fun payloads row => childSteps payloads row row tree.nodes)
        payload store := by
  cases tree
  rfl

theorem childSteps_absent (payloads : List (Option Json)) (returned seen : Tuple)
    (node : CommandTree) (rest : List CommandTree) (store : Store) :
    childSteps (none :: payloads) returned seen (node :: rest) store =
      childSteps payloads returned seen rest store := by
  cases node
  rfl

theorem childSteps_present (payload : Json) (payloads : List (Option Json))
    (returned seen : Tuple) (node : CommandTree) (rest : List CommandTree) (store : Store) :
    childSteps (some payload :: payloads) returned seen (node :: rest) store =
      Step.followedBy (steps (some ⟨returned, seen⟩) node payload store)
        (outcome (execute (some seen) node payload) store) fun nested after =>
          childSteps payloads returned (seen.insert node.key nested) rest after := by
  cases node
  rfl

theorem childSteps_nil (returned seen : Tuple) (nodes : List CommandTree) (store : Store) :
    childSteps [] returned seen nodes store = [] := by
  rcases nodes with _ | ⟨⟨key, command, nodes⟩, rest⟩ <;> rfl

end CommandTree

/-- The steps lead from one store to the other, each finding what the one before has left. -/
inductive Leads : Store → List Step → Store → Prop
  | nil {store : Store} : Leads store [] store
  | cons {step : Step} {rest : List Step} {after : Store}
      (later : Leads step.outcome.2 rest after) : Leads step.store (step :: rest) after

namespace Leads

theorem append {store between after : Store} {first second : List Step}
    (earlier : Leads store first between) (later : Leads between second after) :
    Leads store (first ++ second) after := by
  induction earlier with
  | nil => exact later
  | cons _ ih => exact .cons (ih later)

theorem followedBy {α β : Type} {first : List Step} {act : StoreM α} {next : α → StoreM β}
    {following : α → Store → List Step} {store : Store}
    (earlier : Leads store first (outcome act store).2)
    (later : ∀ value after, Leads after (following value after) (outcome (next value) after).2) :
    Leads store (Step.followedBy first (outcome act store) following)
      (outcome (act >>= next) store).2 := by
  rw [outcome_bind]
  rcases result : outcome act store with ⟨error | value, after⟩
  · rw [result] at earlier
    exact earlier
  · rw [result] at earlier
    exact earlier.append (later value after)

theorem map {α β : Type} {steps : List Step} {act : StoreM α} {make : α → β} {store : Store}
    (leads : Leads store steps (outcome act store).2) :
    Leads store steps (outcome (do return make (← act)) store).2 := by
  rw [outcome_bind]
  rcases result : outcome act store with ⟨error | value, after⟩ <;> rw [result] at leads <;>
    exact leads

theorem ofCollect {α β : Type} {act : α → StoreM (List β)} {steps : α → Store → List Step}
    (each : ∀ item store, Leads store (steps item store) (outcome (act item) store).2)
    (items : List α) (store : Store) :
    Leads store (Step.ofCollect act steps items store)
      (outcome (CommandTree.collect act items) store).2 := by
  induction items generalizing store with
  | nil => exact .nil
  | cons item rest ih => exact (each item store).followedBy fun _ after => (ih after).map

theorem ofEntry {node : CommandTree} {parent : Option Parent}
    {below : List (Option Json) → Tuple → Store → List Step}
    (each : ∀ payloads row store, Leads store (below payloads row store)
      (outcome (CommandTree.executeChildren payloads row node.nodes) store).2)
    (entry : Json) (store : Store) :
    Leads store (Step.ofEntry node parent below entry store)
      (outcome (CommandTree.runEntry node.command node.nodes (parent.map (·.seen))
        (fun payloads row => CommandTree.executeChildren payloads row node.nodes) entry)
          store).2 := by
  simp only [Step.ofEntry, CommandTree.runEntry, outcome_ofExcept_bind]
  cases entry.toTuple with
  | error error => exact .nil
  | ok tuple =>
    dsimp only
    generalize CommandTree.takePayloads node.nodes tuple = taken
    have first := @Leads.cons ⟨node, parent, taken.2, store⟩ [] _ .nil
    refine first.followedBy fun rows after => ?_
    exact ofCollect (fun row store => (each taken.1 row store).map) rows after

theorem ofPayload {command : Command} {act : Json → StoreM (List Tuple)}
    {steps : Json → Store → List Step}
    (each : ∀ entry store, Leads store (steps entry store) (outcome (act entry) store).2)
    (payload : Json) (store : Store) :
    Leads store (Step.ofPayload command act steps payload store)
      (outcome (CommandTree.runPayload command act payload) store).2 := by
  by_cases array : command.type = .create ∧ ∃ items, payload = .array items
  · obtain ⟨typed, items, rfl⟩ := array
    rw [Step.ofPayload_array typed, CommandTree.runPayload_array typed]
    exact (ofCollect each items store).map
  · have single : command.type = .create → ∀ items, payload ≠ .array items :=
      fun typed items same => array ⟨typed, items, same⟩
    rw [Step.ofPayload_entry single, CommandTree.runPayload_entry single]
    exact (each payload store).map

theorem mem_rows {store after : Store} {steps : List Step} (leads : Leads store steps after)
    {relation : Relation} {row : Tuple}
    (keeps : ∀ step ∈ steps, row ∈ relation.rows step.store → row ∈ relation.rows step.outcome.2)
    (inside : row ∈ relation.rows store) : row ∈ relation.rows after := by
  induction leads with
  | nil => exact inside
  | cons _ ih =>
    obtain ⟨here, keeps⟩ := List.forall_mem_cons.mp keeps
    exact ih keeps (here inside)

theorem mem_rows_of_mem {store after : Store} {steps : List Step}
    (leads : Leads store steps after) {relation : Relation} {row : Tuple}
    (keeps : ∀ step ∈ steps, row ∈ relation.rows step.store → row ∈ relation.rows step.outcome.2)
    {step : Step} (member : step ∈ steps) (inside : row ∈ relation.rows step.outcome.2) :
    row ∈ relation.rows after := by
  induction leads with
  | nil => cases member
  | cons later ih =>
    have others := (List.forall_mem_cons.mp keeps).2
    rcases List.mem_cons.mp member with rfl | among
    · exact later.mem_rows others inside
    · exact ih others among

end Leads

namespace CommandTree

theorem leads_childSteps {nodes : List CommandTree}
    (each : ∀ node ∈ nodes, ∀ parent payload store, Leads store (steps parent node payload store)
      (outcome (execute (parent.map (·.seen)) node payload) store).2)
    (payloads : List (Option Json)) (returned seen : Tuple) (store : Store) :
    Leads store (childSteps payloads returned seen nodes store)
      (outcome (executeChildren payloads seen nodes) store).2 := by
  induction nodes generalizing payloads seen store with
  | nil => exact .nil
  | cons node rest ih =>
    obtain ⟨here, each⟩ := List.forall_mem_cons.mp each
    rcases payloads with _ | ⟨_ | payload, payloads⟩
    · rw [childSteps_nil]
      cases node
      exact .nil
    · rw [childSteps_absent, executeChildren_absent]
      exact ih each payloads seen store
    · rw [childSteps_present, executeChildren_present]
      exact (here (some ⟨returned, seen⟩) payload store).followedBy fun nested after =>
        ih each payloads (seen.insert node.key nested) after

theorem leads_steps (tree : CommandTree) (parent : Option Parent) (payload : Json)
    (store : Store) :
    Leads store (steps parent tree payload store)
      (outcome (execute (parent.map (·.seen)) tree payload) store).2 := by
  rw [steps_eq, execute_eq]
  refine Leads.ofPayload
    (fun entry store => Leads.ofEntry (fun payloads row store => ?_) entry store) payload store
  exact leads_childSteps (fun node _ => leads_steps node) payloads row row store
termination_by sizeOf tree
decreasing_by exact sizeOf_lt_of_mem_nodes (by assumption)

/-- The steps of a call lead from the store before it to the store after it, however it ends. -/
theorem leads_callSteps (tree : CommandTree) (input : Json) (store : Store) :
    Leads store (tree.callSteps input store) (outcome (tree.call input) store).2 := by
  simp only [callSteps, call, outcome_ofExcept_bind]
  cases input.toTuple with
  | error error => exact .nil
  | ok members =>
    dsimp only
    cases members.get? tree.key with
    | none => exact .nil
    | some payload =>
      simp only [outcome_ofExcept_bind]
      cases tree.validate payload with
      | error error => exact .nil
      | ok _ => exact tree.leads_steps none payload store

/-- The value is an answer that the node can give. -/
def Answers (node : CommandTree) (value : Json) : Prop :=
  ∃ parent payload store after,
    outcome (execute parent node payload) store = (.ok value, after)

end CommandTree

/-- What is seen of the row is what was returned, but for answers of nodes under their keys. -/
def Parent.Overlaid (parent : Parent) (nodes : List CommandTree) : Prop :=
  ∀ column, parent.seen.get? column = parent.returned.get? column ∨
    ∃ node ∈ nodes, node.key = column ∧
      ∃ value, node.Answers value ∧ parent.seen.get? column = some value

theorem Parent.Overlaid.insert {returned seen : Tuple} {nodes : List CommandTree}
    (overlaid : Parent.Overlaid ⟨returned, seen⟩ nodes) {node : CommandTree}
    (member : node ∈ nodes) {value : Json} (answers : node.Answers value) :
    Parent.Overlaid ⟨returned, seen.insert node.key value⟩ nodes := by
  intro column
  by_cases here : column = node.key
  · exact Or.inr ⟨node, member, here.symm, value, answers, by rw [Tuple.get?_insert, if_pos here]⟩
  · dsimp only
    rw [Tuple.get?_insert_of_ne here]
    exact overlaid column

namespace Step

/-- A step of a node below runs for a row that the step above has returned. -/
structure Below (above step : Step) (row : Parent) : Prop where
  node : step.node ∈ above.node.nodes
  parent : step.parent = some row
  returned : ∃ rows after, above.outcome = (.ok rows, after) ∧ row.returned ∈ rows
  overlaid : row.Overlaid above.node.nodes

/-- A step of the tree itself, or one below another of the steps. -/
inductive Reached (all : List Step) (tree : CommandTree) (parent : Option Parent) : Step → Prop
  | root {step : Step} (node : step.node = tree) (given : step.parent = parent) :
      Reached all tree parent step
  | deeper {above step : Step} {row : Parent} (member : above ∈ all)
      (reached : Reached all tree parent above) (below : above.Below step row) :
      Reached all tree parent step

theorem Reached.graft {all inner : List Step} {tree node : CommandTree} {parent : Option Parent}
    {row : Parent} {above : Step} (subset : ∀ step ∈ inner, step ∈ all) (member : above ∈ all)
    (reached : Reached all tree parent above)
    (below : ∀ step : Step, step.node = node → step.parent = some row → above.Below step row)
    {step : Step} (inside : Reached inner node (some row) step) :
    Reached all tree parent step := by
  induction inside with
  | root node given => exact .deeper member reached (below _ node given)
  | deeper among _ hangs ih => exact .deeper (subset _ among) ih hangs

theorem Reached.regular {all : List Step} {tree : CommandTree} {parent : Option Parent}
    {type : CommandType} (regular : tree.Regular type) {step : Step}
    (reached : Reached all tree parent step) : step.node.Regular type := by
  induction reached with
  | root node _ => exact node ▸ regular
  | deeper _ _ below ih => exact ih.node below.node

theorem mem_followedBy {α : Type} {first : List Step} {result : Except Fault α × Store}
    {next : α → Store → List Step} {step : Step} :
    step ∈ followedBy first result next ↔
      step ∈ first ∨ ∃ value after, result = (.ok value, after) ∧ step ∈ next value after := by
  rcases result with ⟨error | value, after⟩
  · simp [followedBy]
  · rw [followedBy, List.mem_append]
    refine or_congr Iff.rfl ⟨fun member => ⟨value, after, rfl, member⟩, ?_⟩
    rintro ⟨_, _, same, member⟩
    cases same
    exact member

theorem exists_of_mem_ofCollect {α β : Type} {act : α → StoreM (List β)}
    {steps : α → Store → List Step} {items : List α} {store : Store} {step : Step}
    (member : step ∈ ofCollect act steps items store) :
    ∃ item ∈ items, ∃ middle, step ∈ steps item middle ∧
      ∀ other ∈ steps item middle, other ∈ ofCollect act steps items store := by
  induction items generalizing store with
  | nil => cases member
  | cons item rest ih =>
    rw [ofCollect, mem_followedBy] at member
    rcases member with here | ⟨value, after, succeeded, later⟩
    · refine ⟨item, List.mem_cons_self, store, here, fun other inside => ?_⟩
      exact mem_followedBy.mpr (Or.inl inside)
    · obtain ⟨found, among, middle, inside, subset⟩ := ih later
      refine ⟨found, List.mem_cons_of_mem _ among, middle, inside, fun other given => ?_⟩
      exact mem_followedBy.mpr (Or.inr ⟨value, after, succeeded, subset other given⟩)

theorem exists_of_mem_ofPayload {command : Command} {act : Json → StoreM (List Tuple)}
    {steps : Json → Store → List Step} {payload : Json} {store : Store} {step : Step}
    (member : step ∈ ofPayload command act steps payload store) :
    ∃ entry middle, step ∈ steps entry middle ∧
      ∀ other ∈ steps entry middle, other ∈ ofPayload command act steps payload store := by
  by_cases array : command.type = .create ∧ ∃ items, payload = .array items
  · obtain ⟨typed, items, rfl⟩ := array
    rw [ofPayload_array typed] at member ⊢
    obtain ⟨entry, _, middle, inside, subset⟩ := exists_of_mem_ofCollect member
    exact ⟨entry, middle, inside, subset⟩
  · have single : command.type = .create → ∀ items, payload ≠ .array items :=
      fun typed items same => array ⟨typed, items, same⟩
    rw [ofPayload_entry single] at member ⊢
    exact ⟨payload, store, member, fun _ inside => inside⟩

end Step

namespace CommandTree

theorem exists_of_mem_childSteps {all nodes : List CommandTree}
    (inside : ∀ node ∈ nodes, node ∈ all) {payloads : List (Option Json)}
    {returned seen : Tuple} (overlaid : Parent.Overlaid ⟨returned, seen⟩ all) {store : Store}
    {step : Step} (member : step ∈ childSteps payloads returned seen nodes store) :
    ∃ node ∈ nodes, ∃ row payload middle, Parent.Overlaid ⟨returned, row⟩ all ∧
      step ∈ steps (some ⟨returned, row⟩) node payload middle ∧
      ∀ other ∈ steps (some ⟨returned, row⟩) node payload middle,
        other ∈ childSteps payloads returned seen nodes store := by
  induction nodes generalizing payloads seen store with
  | nil => cases member
  | cons node rest ih =>
    obtain ⟨known, inside⟩ := List.forall_mem_cons.mp inside
    rcases payloads with _ | ⟨_ | payload, payloads⟩
    · rw [childSteps_nil] at member
      cases member
    · rw [childSteps_absent] at member ⊢
      obtain ⟨found, among, rest⟩ := ih inside overlaid member
      exact ⟨found, List.mem_cons_of_mem _ among, rest⟩
    · rw [childSteps_present, Step.mem_followedBy] at member
      rw [childSteps_present]
      rcases member with here | ⟨nested, after, succeeded, later⟩
      · refine ⟨node, List.mem_cons_self, seen, payload, store, overlaid, here, ?_⟩
        exact fun other given => Step.mem_followedBy.mpr (Or.inl given)
      · have answers : node.Answers nested := ⟨some seen, payload, store, after, succeeded⟩
        obtain ⟨found, among, row, given, middle, kept, deeper, subset⟩ :=
          ih inside (overlaid.insert known answers) later
        refine ⟨found, List.mem_cons_of_mem _ among, row, given, middle, kept, deeper, ?_⟩
        exact fun other member =>
          Step.mem_followedBy.mpr (Or.inr ⟨nested, after, succeeded, subset other member⟩)

/-- Every step of a tree is one of its root or lies below another. -/
theorem reached_steps (tree : CommandTree) (parent : Option Parent) (payload : Json)
    (store : Store) {step : Step} (member : step ∈ steps parent tree payload store) :
    Step.Reached (steps parent tree payload store) tree parent step := by
  rw [steps_eq] at member ⊢
  obtain ⟨entry, found, inside, subset⟩ := Step.exists_of_mem_ofPayload member
  generalize Step.ofPayload _ _ _ payload store = all at subset
  simp only [Step.ofEntry] at inside subset
  cases object : entry.toTuple with
  | error error =>
    rw [object] at inside
    cases inside
  | ok tuple =>
    rw [object] at inside subset
    dsimp only at inside subset
    generalize takePayloads tree.nodes tuple = taken at inside subset
    generalize own : (⟨tree, parent, taken.2, found⟩ : Step) = above at inside subset
    have top : Step.Reached all tree parent above := by
      subst own
      exact .root rfl rfl
    have aboveMember : above ∈ all :=
      subset above (Step.mem_followedBy.mpr (Or.inl List.mem_cons_self))
    rcases Step.mem_followedBy.mp inside with here | ⟨rows, after, returned, later⟩
    · rwa [List.mem_singleton.mp here]
    · obtain ⟨row, among, middle, deeper, within⟩ := Step.exists_of_mem_ofCollect later
      obtain ⟨node, child, seen, nested, start, overlaid, deepest, lowest⟩ :=
        exists_of_mem_childSteps (fun _ given => given) (fun _ => Or.inl rfl) deeper
      have reached := reached_steps node (some ⟨row, seen⟩) nested start deepest
      refine Step.Reached.graft (fun other given => subset other ?_) aboveMember top ?_ reached
      · exact Step.mem_followedBy.mpr
          (Or.inr ⟨rows, after, returned, within other (lowest other given)⟩)
      · intro other same given
        subst own
        exact ⟨same ▸ child, given, ⟨rows, after, returned, among⟩, overlaid⟩
termination_by sizeOf tree
decreasing_by exact sizeOf_lt_of_mem_nodes child

theorem reached_callSteps {tree : CommandTree} {input : Json} {store : Store} {step : Step}
    (member : step ∈ tree.callSteps input store) :
    Step.Reached (tree.callSteps input store) tree none step := by
  unfold callSteps at member ⊢
  split at member
  · cases member
  · split at member
    · cases member
    · split at member
      · cases member
      · exact tree.reached_steps none _ store member

end CommandTree

end RelationGraph
