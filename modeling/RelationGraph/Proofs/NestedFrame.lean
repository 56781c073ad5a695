import RelationGraph.Proofs.CommandShapes
import RelationGraph.Proofs.PayloadShapes
import RelationGraph.Proofs.RestrictedWrites

set_option autoImplicit false

namespace RelationGraph

open StoreM

theorem List.forall_mem_of_forall₂ {α β : Type} {related : α → β → Prop} {holds : β → Prop}
    {items : List α} {others : List β} (pairs : List.Forall₂ related items others)
    (each : ∀ item ∈ items, ∀ other, related item other → holds other) :
    ∀ other ∈ others, holds other := by
  induction pairs with
  | nil => exact fun _ member => (by cases member)
  | cons here _ ih =>
    obtain ⟨first, rest⟩ := List.forall_mem_cons.mp each
    exact List.forall_mem_cons.mpr ⟨first _ here, ih rest⟩

/-! ### The fate of a row in a run of steps -/

namespace Command

def WritesTo (command : Command) (gateway : Nat) (name : String) : Prop :=
  gateway = command.relation.gateway.id ∧ name = command.relation.name.dataset

instance (command : Command) (gateway : Nat) (name : String) :
    Decidable (command.WritesTo gateway name) :=
  inferInstanceAs (Decidable (_ ∧ _))

variable {command : Command}

theorem fate_update (updates : command.type = .update) (plain : command.template.inputs = [])
    (tuple : Tuple) (parent : Option Tuple) (row : Tuple) :
    command.fate tuple parent row = some row ∨
      command.fate tuple parent row = some (row.merge tuple) := by
  have mapped : command.mapped tuple parent = .ok tuple := by
    rw [Command.mapped, plain]
    rfl
  unfold fate rewrite
  rw [updates, mapped]
  cases command.criteria parent with
  | error error => exact Or.inl rfl
  | ok criteria =>
    cases command.relation.gateway.permit .update with
    | error error => exact Or.inl rfl
    | ok _ =>
      by_cases met : criteria.matchesTuple row = true
      · exact Or.inr (congrArg some (if_pos met))
      · exact Or.inl (congrArg some (if_neg met))

theorem fate_delete (deletes : command.type = .delete) (tuple : Tuple) (parent : Option Tuple)
    (row : Tuple) :
    command.fate tuple parent row = some row ∨ command.fate tuple parent row = none := by
  unfold fate rewrite
  rw [deletes]
  cases command.criteria parent with
  | error error => exact Or.inl rfl
  | ok criteria =>
    cases command.relation.gateway.permit .delete with
    | error error => exact Or.inl rfl
    | ok _ =>
      by_cases met : criteria.matchesTuple row = true
      · exact Or.inr (if_pos met)
      · exact Or.inl (if_neg met)

end Command

namespace Step

/-- What becomes in the step of a row of a dataset. -/
def fateIn (gateway : Nat) (name : String) (step : Step) (row : Tuple) : Option Tuple :=
  if step.node.command.WritesTo gateway name then step.fate row else some row

def fateAfter (gateway : Nat) (name : String) : List Step → Tuple → Option Tuple
  | [], row => some row
  | step :: rest, row => (step.fateIn gateway name row).bind (fateAfter gateway name rest)

variable (gateway : Nat) (name : String)

theorem rows_eq (step : Step) :
    ∃ added, (step.node.command.type ≠ .create → added = []) ∧
      (step.outcome.2.dataset gateway name).rows =
        (step.store.dataset gateway name).rows.filterMap (step.fateIn gateway name) ++ added := by
  by_cases here : step.node.command.WritesTo gateway name
  · have same : step.fateIn gateway name = step.fate := funext fun row => if_pos here
    obtain ⟨rfl, rfl⟩ := here
    rw [same]
    exact step.turns.rows
  · have same : step.fateIn gateway name = some := funext fun row => if_neg here
    refine ⟨[], fun _ => rfl, ?_⟩
    rw [same, List.filterMap_some, List.append_nil, step.turns.others gateway name here]

theorem fateAfter_create {steps : List Step}
    (creates : ∀ step ∈ steps, step.node.command.type = .create) :
    fateAfter gateway name steps = some := by
  induction steps with
  | nil => rfl
  | cons step rest ih =>
    obtain ⟨here, others⟩ := List.forall_mem_cons.mp creates
    have kept : step.fateIn gateway name = some := by
      funext row
      unfold fateIn fate
      rw [Command.fate_create here, ite_self]
    funext row
    rw [fateAfter, kept, Option.bind_some, ih others]

/-- A row that updates are made to is there in the end, with what they were given merged into it. -/
theorem fateAfter_update {steps : List Step}
    (updates : ∀ step ∈ steps, step.node.command.type = .update)
    (plain : ∀ step ∈ steps, step.node.command.template.inputs = []) (row : Tuple) :
    ∃ given : List Tuple, fateAfter gateway name steps row = some (given.foldl Tuple.merge row) ∧
      ∀ tuple ∈ given, ∃ step ∈ steps,
        step.node.command.WritesTo gateway name ∧ step.tuple = tuple := by
  induction steps generalizing row with
  | nil => exact ⟨[], rfl, fun _ member => (by cases member)⟩
  | cons step rest ih =>
    obtain ⟨here, others⟩ := List.forall_mem_cons.mp updates
    obtain ⟨plainHere, plainRest⟩ := List.forall_mem_cons.mp plain
    have later {given : List Tuple}
        (origin : ∀ tuple ∈ given, ∃ other ∈ rest,
          other.node.command.WritesTo gateway name ∧ other.tuple = tuple) :
        ∀ tuple ∈ given, ∃ other ∈ step :: rest,
          other.node.command.WritesTo gateway name ∧ other.tuple = tuple := fun tuple member =>
      let ⟨other, among, rest⟩ := origin tuple member
      ⟨other, List.mem_cons_of_mem _ among, rest⟩
    rw [fateAfter]
    by_cases writes : step.node.command.WritesTo gateway name
    · rw [fateIn, if_pos writes, fate]
      rcases Command.fate_update here plainHere step.tuple (step.parent.map (·.seen)) row with
        kept | merged
      · obtain ⟨given, fated, origin⟩ := ih others plainRest row
        exact ⟨given, by rw [kept, Option.bind_some, fated], later origin⟩
      · obtain ⟨given, fated, origin⟩ := ih others plainRest (row.merge step.tuple)
        refine ⟨step.tuple :: given, by rw [merged, Option.bind_some, fated]; rfl, ?_⟩
        exact List.forall_mem_cons.mpr ⟨⟨step, List.mem_cons_self, writes, rfl⟩, later origin⟩
    · obtain ⟨given, fated, origin⟩ := ih others plainRest row
      exact ⟨given, by rw [fateIn, if_neg writes, Option.bind_some, fated], later origin⟩

/-- A row that is left by deletes is as it was. -/
theorem fateAfter_delete {steps : List Step}
    (deletes : ∀ step ∈ steps, step.node.command.type = .delete) (row : Tuple) :
    fateAfter gateway name steps row = some row ∨ fateAfter gateway name steps row = none := by
  induction steps with
  | nil => exact Or.inl rfl
  | cons step rest ih =>
    obtain ⟨here, others⟩ := List.forall_mem_cons.mp deletes
    rw [fateAfter]
    have fated : step.fateIn gateway name row = some row ∨ step.fateIn gateway name row = none := by
      unfold fateIn
      split
      · exact Command.fate_delete here _ _ row
      · exact Or.inl rfl
    rcases fated with kept | removed
    · rw [kept, Option.bind_some]
      exact ih others
    · rw [removed]
      exact Or.inr rfl

end Step

namespace Leads

variable {store after : Store} {steps : List Step}

/-- In the end every row of a dataset has met its fate, and only creates have added any. -/
theorem rows_eq (leads : Leads store steps after) (gateway : Nat) (name : String) :
    ∃ added, ((∀ step ∈ steps, step.node.command.type ≠ .create) → added = []) ∧
      (after.dataset gateway name).rows =
        (store.dataset gateway name).rows.filterMap (Step.fateAfter gateway name steps) ++
          added := by
  induction leads with
  | nil =>
    refine ⟨[], fun _ => rfl, ?_⟩
    rw [List.append_nil]
    exact List.filterMap_some.symm
  | @cons step rest after _ ih =>
    obtain ⟨first, none, rows⟩ := Step.rows_eq gateway name step
    obtain ⟨later, noneLater, rowsLater⟩ := ih
    refine ⟨first.filterMap (Step.fateAfter gateway name rest) ++ later, fun changes => ?_, ?_⟩
    · obtain ⟨here, others⟩ := List.forall_mem_cons.mp changes
      rw [none here, noneLater others]
      rfl
    · rw [rowsLater, rows, List.filterMap_append, List.filterMap_filterMap, List.append_assoc]
      rfl

theorem dataset_eq (leads : Leads store steps after) {gateway : Nat} {name : String}
    (elsewhere : ∀ step ∈ steps, ¬ step.node.command.WritesTo gateway name) :
    after.dataset gateway name = store.dataset gateway name := by
  induction leads with
  | nil => rfl
  | @cons step rest after _ ih =>
    obtain ⟨here, others⟩ := List.forall_mem_cons.mp elsewhere
    rw [ih others, step.turns.others gateway name here]

end Leads

/-! ### Nodes that a payload is for -/

namespace CommandTree

/-- The payload for a tree has the keys of the path to the node, each in an entry under the key
before; for the root it needs none. -/
inductive Present : CommandTree → Json → CommandTree → Prop
  | root {tree : CommandTree} {payload : Json} : Present tree payload tree
  | deeper {tree node found : CommandTree} {payload nested : Json} {members : Tuple}
      (entry : .object members ∈ tree.command.entries payload) (child : node ∈ tree.nodes)
      (given : members.get? node.key = some nested) (inner : Present node nested found) :
      Present tree payload found

/-- Commands of one type that take tuples as they are. -/
inductive Uniform (type : CommandType) : CommandTree → Prop
  | intro {tree : CommandTree} (typed : tree.command.type = type)
      (plain : tree.command.template.inputs = []) (nodes : ∀ node ∈ tree.nodes, Uniform type node) :
      Uniform type tree

theorem Uniform.typed {type : CommandType} {tree : CommandTree} (uniform : tree.Uniform type) :
    tree.command.type = type := by
  cases uniform
  assumption

theorem Uniform.plain {type : CommandType} {tree : CommandTree} (uniform : tree.Uniform type) :
    tree.command.template.inputs = [] := by
  cases uniform
  assumption

theorem Uniform.of_present {type : CommandType} {tree node : CommandTree} {payload : Json}
    (uniform : tree.Uniform type) (present : tree.Present payload node) : node.Uniform type := by
  induction present with
  | root => exact uniform
  | deeper _ child _ _ ih =>
    cases uniform with
    | intro _ _ nodes => exact ih (nodes _ child)

end CommandTree

namespace Step

theorem exists_entry_of_mem_ofPayload {command : Command} {act : Json → StoreM (List Tuple)}
    {steps : Json → Store → List Step} {payload : Json} {store : Store} {step : Step}
    (member : step ∈ ofPayload command act steps payload store) :
    ∃ entry ∈ command.entries payload, ∃ middle, step ∈ steps entry middle := by
  rcases command.entries_cases payload with ⟨items, creates, rfl, all⟩ | ⟨single, all⟩ <;> rw [all]
  · rw [ofPayload_array creates] at member
    obtain ⟨entry, among, middle, inside, _⟩ := exists_of_mem_ofCollect member
    exact ⟨entry, among, middle, inside⟩
  · rw [ofPayload_entry single] at member
    exact ⟨payload, List.mem_singleton_self _, store, member⟩

end Step

namespace CommandTree

/-- The steps below a row are those of nodes for which there is a payload. -/
theorem exists_payload_of_mem_childSteps {nodes : List CommandTree} {payloads : List (Option Json)}
    {holds : CommandTree → Json → Prop}
    (taken : List.Forall₂ (fun node payload => ∀ given ∈ payload, holds node given) nodes payloads)
    {returned seen : Tuple} {store : Store} {step : Step}
    (member : step ∈ childSteps payloads returned seen nodes store) :
    ∃ node ∈ nodes, ∃ payload, holds node payload ∧
      ∃ parent middle, step ∈ steps parent node payload middle := by
  induction taken generalizing seen store with
  | nil => cases member
  | @cons node payload nodes payloads here _ ih =>
    cases payload with
    | none =>
      rw [childSteps_absent] at member
      obtain ⟨found, among, rest⟩ := ih member
      exact ⟨found, List.mem_cons_of_mem _ among, rest⟩
    | some given =>
      rw [childSteps_present, Step.mem_followedBy] at member
      rcases member with first | ⟨nested, after, _, later⟩
      · exact ⟨node, List.mem_cons_self, given, here given rfl, _, store, first⟩
      · obtain ⟨found, among, rest⟩ := ih later
        exact ⟨found, List.mem_cons_of_mem _ among, rest⟩

/-- Every step runs the command of a node whose keys the payload has. -/
theorem present_steps (tree : CommandTree) (parent : Option Parent) (payload : Json)
    (store : Store) {step : Step} (member : step ∈ steps parent tree payload store) :
    tree.Present payload step.node := by
  rw [steps_eq] at member
  obtain ⟨entry, among, middle, inside⟩ := Step.exists_entry_of_mem_ofPayload member
  simp only [Step.ofEntry] at inside
  cases object : entry.toTuple with
  | error error =>
    rw [object] at inside
    cases inside
  | ok columns =>
    rw [object] at inside
    rcases Step.mem_followedBy.mp inside with here | ⟨rows, after, _, later⟩
    · rw [List.mem_singleton.mp here]
      exact .root
    · obtain ⟨row, _, start, deeper, _⟩ := Step.exists_of_mem_ofCollect later
      obtain ⟨node, child, nested, given, above, start, deepest⟩ :=
        exists_payload_of_mem_childSteps (forall₂_takePayloads tree.nodes columns) deeper
      have inner := present_steps node above nested start deepest
      cases entry with
      | object members =>
        cases object
        exact .deeper among child given inner
      | null =>
        cases object
        cases given
      | _ => cases object
termination_by sizeOf tree
decreasing_by exact sizeOf_lt_of_mem_nodes child

end CommandTree

namespace Compiled

theorem present_steps {compiled : Compiled} {input : Json} {store : Store} {step : Step}
    (member : step ∈ compiled.steps input store) : compiled.tree.Present input step.node := by
  cases compiled with
  | flat command =>
    rw [(Command.node_of_mem_steps member).1]
    exact .root
  | nested command =>
    have given : Tuple.get? [(command.tree.key, input)] command.tree.key = some input := by
      simp [Tuple.get?, Entries.get?]
    rw [steps, CommandTree.callSteps_of_given given] at member
    split at member
    · exact command.tree.present_steps none input store member
    · cases member

/-- What a call leaves as it was, by the type of the commands. -/
structure Frame (compiled : Compiled) (type : CommandType) (input : Json) (store after : Store) :
    Prop where
  /-- A dataset that changes is that of a node whose keys the payload has. -/
  dataset : ∀ gateway name, after.dataset gateway name ≠ store.dataset gateway name →
    ∃ node, compiled.tree.Present input node ∧ node.command.WritesTo gateway name
  create : type = .create → ∀ gateway name, ∃ added,
    (after.dataset gateway name).rows = (store.dataset gateway name).rows ++ added
  /-- Every row stays in its place, with what updates of its dataset were given merged into it. -/
  update : type = .update → ∀ gateway name, ∃ change : Tuple → Tuple,
    (after.dataset gateway name).rows = (store.dataset gateway name).rows.map change ∧
      ∀ row, ∃ given : List Tuple, change row = given.foldl Tuple.merge row ∧
        ∀ tuple ∈ given, ∃ step ∈ compiled.steps input store,
          step.node.command.WritesTo gateway name ∧ step.tuple = tuple
  delete : type = .delete → ∀ gateway name, ∃ keep : Tuple → Bool,
    (after.dataset gateway name).rows = (store.dataset gateway name).rows.filter keep

theorem frame_of_uniform {compiled : Compiled} {type : CommandType}
    (uniform : compiled.tree.Uniform type) (input : Json) (store : Store) :
    compiled.Frame type input store (outcome (compiled.call input) store).2 := by
  have leads := compiled.leads_steps input store
  have uniformAt : ∀ step ∈ compiled.steps input store, step.node.Uniform type :=
    fun step member => uniform.of_present (present_steps member)
  have typed : ∀ step ∈ compiled.steps input store, step.node.command.type = type :=
    fun step member => (uniformAt step member).typed
  have stays (changes : type ≠ .create) (gateway : Nat) (name : String) :
      ((outcome (compiled.call input) store).2.dataset gateway name).rows =
        (store.dataset gateway name).rows.filterMap
          (Step.fateAfter gateway name (compiled.steps input store)) := by
    obtain ⟨added, none, rows⟩ := leads.rows_eq gateway name
    rw [rows, none fun step member => typed step member ▸ changes, List.append_nil]
  refine ⟨fun gateway name changed => ?_, ?_, ?_, ?_⟩
  · by_contra absent
    refine changed (leads.dataset_eq fun step member writes => absent ?_)
    exact ⟨step.node, present_steps member, writes⟩
  · rintro rfl gateway name
    obtain ⟨added, _, rows⟩ := leads.rows_eq gateway name
    rw [Step.fateAfter_create gateway name typed, List.filterMap_some] at rows
    exact ⟨added, rows⟩
  · rintro rfl gateway name
    choose given fated origin using fun row => Step.fateAfter_update gateway
      name typed (fun step member => (uniformAt step member).plain) row
    refine ⟨fun row => (given row).foldl Tuple.merge row, ?_, fun row => ⟨_, rfl, origin row⟩⟩
    rw [stays (by decide), ← List.filterMap_eq_map']
    exact congrArg (List.filterMap · _) (funext fated)
  · rintro rfl gateway name
    let keep (row : Tuple) : Bool :=
      (Step.fateAfter gateway name (compiled.steps input store) row).isSome
    refine ⟨keep, ?_⟩
    rw [stays (by decide), ← List.filterMap_eq_filter]
    congr 1
    funext row
    rcases Step.fateAfter_delete gateway name typed row with kept | removed
    · simp [Option.guard, keep, kept]
    · simp [Option.guard, keep, removed]

end Compiled

namespace CompileRequest

variable {request : CompileRequest}

theorem Mirrors.uniform {node : PlanTree} {tree : CommandTree}
    (mirrors : request.Mirrors node tree) : tree.Uniform request.type := by
  induction node using PlanTree.induction generalizing tree with
  | step node ih =>
    cases mirrors with
    | intro _ command _ nodes =>
      exact .intro command.type command.inputs
        (List.forall_mem_of_forall₂ nodes fun child member _ inner => ih child member inner)

/-- Without hooks and customization all commands for a plan have the type that was asked for. -/
theorem Compiles.uniform (setup : request.catalog.SetUp) (unhooked : request.catalog.Unhooked)
    (uncustomized : request.customization = none) {plan : Plan} {compiled : Compiled}
    (compiles : request.Compiles plan compiled) : compiled.tree.Uniform request.type := by
  obtain ⟨name, base, link, content, tree, rfl, made, rfl⟩ := compiles
  have command := reflects_of_binds setup unhooked uncustomized made.binds
  obtain ⟨sameCommand, sameNodes⟩ := Compiled.tree_ofTree tree
  refine .intro ?_ ?_ ?_
  · rw [sameCommand, command.type]
  · rw [sameCommand, command.inputs]
  · rw [sameNodes]
    exact List.forall_mem_of_forall₂ made.nodes fun _ _ _ inner =>
      (inner.mirrors setup unhooked uncustomized).uniform

/-- Whatever the payload, and however a call ends, a dataset changes only if it belongs to the root
or to a node whose keys the payload has on the whole path from the root. A create appends rows, an
update changes the rows that are there in their places, and a delete leaves the others as they are,
in their order. -/
theorem call_frame (setup : request.catalog.SetUp) (unhooked : request.catalog.Unhooked)
    (uncustomized : request.customization = none) {plan : Plan} {before ready : Store}
    {compiled : Compiled} (success : outcome (request.run plan) before = (.ok compiled, ready))
    (input : Json) (store : Store) :
    compiled.Frame request.type input store (outcome (compiled.call input) store).2 := by
  obtain ⟨gateways, ran, holds⟩ := request.outcome_run plan
  have given : request.result plan = .ok compiled :=
    congrArg Prod.fst ((ran before).symm.trans success)
  exact Compiled.frame_of_uniform ((holds compiled given).1.uniform setup unhooked uncustomized)
    input store

/-- An update of users with a payload for their tasks and none for the tags. -/
theorem call_frame_grouped :
    let store := Sample.store [("tags", [[("id", .ofNat 1), ("user_id", .ofNat 1)]]),
      ("tasks", [[("id", .ofNat 1), ("user_id", .ofNat 1)], [("id", .ofNat 2)]]),
      ("users", [[("id", .ofNat 1)]])]
    let input : Json := .object [("name", .string "Ann"),
      ("tasks", .object [("title", .string "Sweep")])]
    Sample.catalog.SetUp ∧ Sample.catalog.Unhooked ∧
      (Sample.request .update).customization = none ∧
      ∃ compiled ready,
        outcome ((Sample.request .update).run Sample.grouped) ∅ = (.ok compiled, ready) ∧
        compiled.Frame .update input store (outcome (compiled.call input) store).2 ∧
        (Sample.relation "tasks").rows (outcome (compiled.call input) store).2 =
          [[("id", .ofNat 1), ("title", .string "Sweep"), ("user_id", .ofNat 1)],
            [("id", .ofNat 2)]] := by
  intro store input
  refine ⟨Sample.overMemory.setUp, Sample.overMemory.unhooked, rfl, _, _, rfl, ?_, rfl⟩
  exact call_frame Sample.overMemory.setUp Sample.overMemory.unhooked rfl
    (rfl : outcome ((Sample.request .update).run Sample.grouped) ∅ = _) input store

end CompileRequest

end RelationGraph
