import Mathlib.Data.List.Forall2
import RelationGraph.Proofs.NestedSteps

set_option autoImplicit false

namespace RelationGraph

open StoreM

namespace Command

/-- The call of its gateway that a command comes down to, or what stops it before: a column that the
parent lacks, or an input map. -/
def operation (command : Command) (tuple : Tuple) (parent : Option Tuple) :
    Except Fault (StoreM (List Tuple)) := do
  let gateway := command.relation.gateway
  let dataset := command.name.dataset
  match command.type with
  | .create =>
    let tuple ← command.prepared tuple parent
    return do return [← gateway.insert dataset command.relation.primaryKey tuple]
  | .update =>
    let criteria ← command.criteria parent
    let changes ← command.mapped tuple parent
    return gateway.update dataset criteria changes
  | .delete =>
    let criteria ← command.criteria parent
    return gateway.delete dataset criteria

theorem outcome_run_eq (command : Command) (tuple : Tuple) (parent : Option Tuple)
    (store : Store) :
    outcome (command.run tuple parent) store =
      match command.operation tuple parent with
      | .ok act => outcome act store
      | .error fault => (.error fault, store) := by
  unfold run operation
  cases command.type with
  | create =>
    dsimp only
    rw [outcome_ofExcept_bind]
    cases command.prepared tuple parent <;> rfl
  | update =>
    dsimp only
    rw [outcome_ofExcept_bind]
    cases command.criteria parent with
    | error fault => rfl
    | ok criteria =>
      dsimp only
      rw [outcome_ofExcept_bind]
      cases command.mapped tuple parent <;> rfl
  | delete =>
    dsimp only
    rw [outcome_ofExcept_bind]
    cases command.criteria parent <;> rfl

theorem operation_eq_error {command : Command} {tuple : Tuple} {fault : Fault} :
    command.operation tuple none = .error fault ↔
      command.type ≠ .delete ∧ command.mapped tuple none = .error fault := by
  have criteria : command.criteria none = .ok command.relation.criteria := by
    unfold Command.criteria
    cases command.template.parentKeys <;> rfl
  have prepared : command.prepared tuple none = command.mapped tuple none := by
    unfold Command.prepared
    cases command.template.parentKeys <;> rfl
  unfold operation
  rw [criteria, prepared]
  cases command.type <;> cases command.mapped tuple none <;>
    simp [Bind.bind, Except.bind, pure, Except.pure]

def entries (command : Command) : Json → List Json
  | .array items => if command.type = .create then items else [.array items]
  | entry => [entry]

theorem entries_cases (command : Command) (payload : Json) :
    (∃ items, command.type = .create ∧ payload = .array items ∧ command.entries payload = items) ∨
      (command.type = .create → ∀ items, payload ≠ .array items) ∧
        command.entries payload = [payload] := by
  cases payload with
  | array items =>
    by_cases creates : command.type = .create
    · exact Or.inl ⟨items, creates, rfl, if_pos creates⟩
    · exact Or.inr ⟨fun typed => absurd typed creates, if_neg creates⟩
  | _ => exact Or.inr ⟨fun _ _ same => (by cases same), rfl⟩

end Command

namespace Step

def CallsGateway (step : Step) : Prop :=
  ∃ act, step.node.command.operation step.tuple (step.parent.map (·.seen)) = .ok act

def Succeeds (step : Step) : Prop := ∃ rows after, step.outcome = (.ok rows, after)

theorem outcome_of_stopped {step : Step} {fault : Fault}
    (stopped : step.node.command.operation step.tuple (step.parent.map (·.seen)) =
      .error fault) : step.outcome = (.error fault, step.store) := by
  rw [outcome, Command.outcome_run_eq, stopped]

theorem Succeeds.callsGateway {step : Step} (succeeds : step.Succeeds) : step.CallsGateway := by
  obtain ⟨rows, after, ran⟩ := succeeds
  cases stopped : step.node.command.operation step.tuple (step.parent.map (·.seen)) with
  | ok act => exact ⟨act, stopped⟩
  | error fault =>
    rw [outcome_of_stopped stopped] at ran
    cases ran

end Step

/-- The steps account for how a run ends: if it succeeds, all of them have, and if it fails, the
last one has failed in the same way and all before have succeeded. -/
def Accounts {α : Type} (steps : List Step) : Except Fault α × Store → Prop
  | (.ok _, _) => ∀ step ∈ steps, step.Succeeds
  | (.error fault, after) => ∃ done last, steps = done ++ [last] ∧
      (∀ step ∈ done, step.Succeeds) ∧ last.outcome = (.error fault, after)

namespace Accounts

variable {α β : Type} {store : Store}

theorem append {first rest : List Step} {result : Except Fault α × Store}
    (succeeded : ∀ step ∈ first, step.Succeeds) (later : Accounts rest result) :
    Accounts (first ++ rest) result := by
  rcases result with ⟨fault | value, after⟩
  · obtain ⟨done, last, rfl, earlier, failed⟩ := later
    exact ⟨first ++ done, last, (List.append_assoc _ _ _).symm,
      List.forall_mem_append.mpr ⟨succeeded, earlier⟩, failed⟩
  · exact List.forall_mem_append.mpr ⟨succeeded, later⟩

theorem followedBy {first : List Step} {act : StoreM α} {next : α → StoreM β}
    {following : α → Store → List Step} (here : Accounts first (outcome act store))
    (later : ∀ value after, Accounts (following value after) (outcome (next value) after)) :
    Accounts (Step.followedBy first (outcome act store) following)
      (outcome (act >>= next) store) := by
  rw [outcome_bind]
  rcases result : outcome act store with ⟨fault | value, after⟩ <;> rw [result] at here
  · exact here
  · exact append here (later value after)

theorem map {steps : List Step} {act : StoreM α} {make : α → β}
    (accounts : Accounts steps (outcome act store)) :
    Accounts steps (outcome (do return make (← act)) store) := by
  rw [outcome_bind]
  rcases result : outcome act store with ⟨fault | value, after⟩ <;> rw [result] at accounts <;>
    exact accounts

theorem single (step : Step) : Accounts [step] step.outcome := by
  rcases ran : step.outcome with ⟨fault | rows, after⟩
  · exact ⟨[], step, rfl, fun _ member => (by cases member), ran⟩
  · intro other member
    rw [List.mem_singleton.mp member]
    exact ⟨rows, after, ran⟩

theorem ofCollect {act : α → StoreM (List β)} {steps : α → Store → List Step} {items : List α}
    (each : ∀ item ∈ items, ∀ store, Accounts (steps item store) (outcome (act item) store))
    (store : Store) :
    Accounts (Step.ofCollect act steps items store)
      (outcome (CommandTree.collect act items) store) := by
  induction items generalizing store with
  | nil => exact fun _ member => (by cases member)
  | cons item rest ih =>
    obtain ⟨here, others⟩ := List.forall_mem_cons.mp each
    exact (here store).followedBy fun _ after => (ih others after).map

theorem ofEntry {node : CommandTree} {parent : Option Parent}
    {below : List (Option Json) → Tuple → Store → List Step} {entry : Json} {tuple : Tuple}
    (object : entry.toTuple = .ok tuple)
    (each : ∀ row store,
      let payloads := (CommandTree.takePayloads node.nodes tuple).1
      Accounts (below payloads row store)
        (outcome (CommandTree.executeChildren payloads row node.nodes) store))
    (store : Store) :
    Accounts (Step.ofEntry node parent below entry store)
      (outcome (CommandTree.runEntry node.command node.nodes (parent.map (·.seen))
        (fun payloads row => CommandTree.executeChildren payloads row node.nodes) entry)
          store) := by
  simp only [Step.ofEntry, CommandTree.runEntry, outcome_ofExcept_bind, object]
  generalize CommandTree.takePayloads node.nodes tuple = taken at each
  refine (single ⟨node, parent, taken.2, store⟩).followedBy fun rows after => ?_
  exact ofCollect (fun row _ store => (each row store).map) after

theorem ofPayload {command : Command} {act : Json → StoreM (List Tuple)}
    {steps : Json → Store → List Step} {payload : Json}
    (each : ∀ entry ∈ command.entries payload, ∀ store,
      Accounts (steps entry store) (outcome (act entry) store))
    (store : Store) :
    Accounts (Step.ofPayload command act steps payload store)
      (outcome (CommandTree.runPayload command act payload) store) := by
  rcases command.entries_cases payload with ⟨items, typed, rfl, all⟩ | ⟨single, all⟩ <;>
    rw [all] at each
  · rw [Step.ofPayload_array typed, CommandTree.runPayload_array typed]
    exact (ofCollect each store).map
  · rw [Step.ofPayload_entry single, CommandTree.runPayload_entry single]
    exact (each payload List.mem_cons_self store).map

/-- The steps of nodes account for how running them ends if those of each do for its payload. -/
theorem childSteps {nodes : List CommandTree} {payloads : List (Option Json)}
    (each : List.Forall₂ (fun node payload => ∀ given ∈ payload, ∀ parent store,
      Accounts (CommandTree.steps parent node given store)
        (outcome (CommandTree.execute (parent.map (·.seen)) node given) store)) nodes payloads)
    (returned seen : Tuple) (store : Store) :
    Accounts (CommandTree.childSteps payloads returned seen nodes store)
      (outcome (CommandTree.executeChildren payloads seen nodes) store) := by
  induction each generalizing seen store with
  | nil => exact fun _ member => (by cases member)
  | @cons node payload _ _ here _ ih =>
    cases payload with
    | none =>
      rw [CommandTree.childSteps_absent, CommandTree.executeChildren_absent]
      exact ih seen store
    | some payload =>
      rw [CommandTree.childSteps_present, CommandTree.executeChildren_present]
      exact (here payload rfl (some ⟨returned, seen⟩) store).followedBy fun nested after =>
        ih (seen.insert node.key nested) after

/-- Where the first step does not get to its gateway, it is the only one, and the run fails as it
does. -/
theorem of_idle {first : Step} {rest : List Step} {result : Except Fault α × Store}
    (accounts : Accounts (first :: rest) result) (idle : ¬ first.CallsGateway) :
    rest = [] ∧ ∃ fault after, result = (.error fault, after) ∧
      first.outcome = (.error fault, after) := by
  rcases result with ⟨fault | value, after⟩
  · obtain ⟨done, last, split, succeeded, failed⟩ := accounts
    cases done with
    | nil =>
      cases split
      exact ⟨rfl, fault, after, rfl, failed⟩
    | cons step done =>
      cases split
      exact absurd (succeeded _ List.mem_cons_self).callsGateway idle
  · exact absurd (accounts _ List.mem_cons_self).callsGateway idle

end Accounts

namespace CommandTree

/-- What a node is given, the entry holds under its key. -/
theorem forall₂_takePayloads (nodes : List CommandTree) (entry : Tuple) :
    List.Forall₂ (fun node payload => ∀ given ∈ payload, entry.get? node.key = some given) nodes
      (takePayloads nodes entry).1 := by
  induction nodes generalizing entry with
  | nil => exact .nil
  | cons node rest ih =>
    refine .cons (fun _ given => given) ((ih (entry.erase node.key)).imp ?_)
    intro other payload taken given member
    have found := taken given member
    rw [Tuple.get?_erase] at found
    split at found
    · cases found
    · exact found

/-- The tuple that the root is given for the first entry of a payload. -/
def firstTuple? (tree : CommandTree) (payload : Json) : Option Tuple := do
  let columns ← (← (tree.command.entries payload).head?).toTuple.toOption
  return (takePayloads tree.nodes columns).2

end CommandTree

namespace Step

theorem head?_followedBy {α : Type} {first : List Step} {step : Step}
    (head : first.head? = some step) (result : Except Fault α × Store)
    (next : α → Store → List Step) : (followedBy first result next).head? = some step := by
  rcases result with ⟨fault | value, after⟩
  · exact head
  · rw [followedBy, List.head?_append, head]
    rfl

theorem head?_ofEntry {node : CommandTree} {entry : Json} {columns : Tuple}
    (object : entry.toTuple = .ok columns) (parent : Option Parent)
    (below : List (Option Json) → Tuple → Store → List Step) (store : Store) :
    (ofEntry node parent below entry store).head? =
      some ⟨node, parent, (CommandTree.takePayloads node.nodes columns).2, store⟩ := by
  simp only [ofEntry, object]
  exact head?_followedBy rfl _ _

end Step

/-- The first step is one of the root, for the first entry. -/
theorem CommandTree.head?_steps {tree : CommandTree} {payload : Json} {own : Tuple}
    (first : tree.firstTuple? payload = some own) (parent : Option Parent) (store : Store) :
    (tree.steps parent payload store).head? = some ⟨tree, parent, own, store⟩ := by
  obtain ⟨entry, head, found⟩ := Option.bind_eq_some_iff.mp first
  obtain ⟨columns, object, found⟩ := Option.bind_eq_some_iff.mp found
  cases found
  have object : entry.toTuple = .ok columns := by
    cases read : entry.toTuple <;> rw [read] at object <;> cases object
    rfl
  rw [steps_eq]
  rcases tree.command.entries_cases payload with ⟨items, typed, rfl, all⟩ | ⟨single, all⟩ <;>
    rw [all] at head
  · obtain ⟨rest, rfl⟩ := List.head?_eq_some_iff.mp head
    rw [Step.ofPayload_array typed]
    exact Step.head?_followedBy (Step.head?_ofEntry object _ _ _) _ _
  · cases head
    rw [Step.ofPayload_entry single]
    exact Step.head?_ofEntry object _ _ _

theorem CommandTree.steps_eq_nil {tree : CommandTree} {payload : Json}
    (nothing : tree.command.entries payload = []) (parent : Option Parent) (store : Store) :
    tree.steps parent payload store = [] := by
  rcases tree.command.entries_cases payload with ⟨items, typed, rfl, all⟩ | ⟨_, all⟩ <;>
    rw [all] at nothing
  · rw [steps_eq, Step.ofPayload_array typed, nothing]
    rfl
  · cases nothing

end RelationGraph
