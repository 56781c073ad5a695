import RelationGraph.Proofs.Compilation
import RelationGraph.Proofs.NestedFailures

set_option autoImplicit false

namespace RelationGraph

open StoreM

namespace CommandTree

mutual

/-- A payload for a tree: an entry, for a create also an array of entries. -/
inductive WellShaped : CommandTree → Json → Prop
  | entry {tree : CommandTree} {payload : Json} (shaped : EntryShaped tree payload) :
      WellShaped tree payload
  | entries {tree : CommandTree} {items : List Json} (creates : tree.command.type = .create)
      (shaped : ∀ item ∈ items, EntryShaped tree item) : WellShaped tree (.array items)

/-- An entry for a tree: null, or an object with payloads for the nodes whose keys it has. -/
inductive EntryShaped : CommandTree → Json → Prop
  | null {tree : CommandTree} : EntryShaped tree .null
  | object {tree : CommandTree} {members : Tuple}
      (shaped : ∀ node ∈ tree.nodes, ∀ payload, members.get? node.key = some payload →
        WellShaped node payload) : EntryShaped tree (.object members)

end

theorem EntryShaped.exists_columns {tree : CommandTree} {entry : Json}
    (shaped : EntryShaped tree entry) :
    ∃ columns, entry.toTuple = .ok columns ∧
      ∀ node ∈ tree.nodes, ∀ payload, columns.get? node.key = some payload →
        WellShaped node payload := by
  cases shaped with
  | null => exact ⟨[], rfl, fun _ _ _ given => (by cases given)⟩
  | object shaped => exact ⟨_, rfl, shaped⟩

theorem wellShaped_iff {tree : CommandTree} {payload : Json} :
    WellShaped tree payload ↔ ∀ entry ∈ tree.command.entries payload, EntryShaped tree entry := by
  rcases tree.command.entries_cases payload with ⟨items, creates, rfl, all⟩ | ⟨single, all⟩ <;>
    rw [all]
  · constructor
    · intro shaped
      cases shaped with
      | entry shaped => cases shaped
      | entries _ shaped => exact shaped
    · exact .entries creates
  · rw [List.forall_mem_singleton]
    constructor
    · intro shaped
      cases shaped with
      | entry shaped => exact shaped
      | entries creates _ => exact absurd rfl (single creates _)
    · exact .entry

/-! ### Validation -/

theorem validate_eq (tree : CommandTree) (payload : Json) :
    tree.validate payload = (tree.command.entries payload).forM
      (validateEntry tree.key (validateChildren · tree.nodes)) := by
  obtain ⟨key, command, nodes⟩ := tree
  dsimp only
  rcases command.entries_cases payload with ⟨items, creates, rfl, all⟩ | ⟨single, all⟩ <;> rw [all]
  · simp only [validate, creates]
  · have alone : validate ⟨key, command, nodes⟩ payload =
        validateEntry key (validateChildren · nodes) payload := by
      unfold validate
      split
      · rename_i typed
        exact absurd rfl (single typed _)
      · rfl
    rw [alone]
    change _ = validateEntry key (validateChildren · nodes) payload >>= fun _ => pure ()
    cases validateEntry key (validateChildren · nodes) payload <;> rfl

def validateNode (entry : Tuple) (node : CommandTree) : Except Fault Unit :=
  match entry.get? node.key with
  | some payload => node.validate payload
  | none => .ok ()

theorem validateChildren_eq (entry : Tuple) (nodes : List CommandTree) :
    validateChildren entry nodes = nodes.forM (validateNode entry) := by
  induction nodes with
  | nil => rfl
  | cons node rest ih =>
    obtain ⟨key, command, nodes⟩ := node
    rw [validateChildren, ih]
    change _ = validateNode entry ⟨key, command, nodes⟩ >>= fun _ => rest.forM (validateNode entry)
    unfold validateNode
    cases entry.get? key <;> rfl

theorem validateNode_eq_ok {entry : Tuple} {node : CommandTree} :
    validateNode entry node = .ok () ↔
      ∀ payload, entry.get? node.key = some payload → node.validate payload = .ok () := by
  unfold validateNode
  cases entry.get? node.key with
  | none => simp
  | some payload => simp

theorem validateEntry_eq_ok {tree : CommandTree}
    (nodes : ∀ node ∈ tree.nodes, ∀ payload,
      node.validate payload = .ok () ↔ WellShaped node payload) {entry : Json} :
    validateEntry tree.key (validateChildren · tree.nodes) entry = .ok () ↔
      EntryShaped tree entry := by
  cases entry with
  | null => exact ⟨fun _ => .null, fun _ => rfl⟩
  | object members =>
    rw [validateEntry, validateChildren_eq, Except.forM_eq_ok]
    constructor
    · intro valid
      refine .object fun node child payload given => ?_
      exact (nodes node child payload).mp (validateNode_eq_ok.mp (valid node child) payload given)
    · rintro (_ | shaped) node child
      refine validateNode_eq_ok.mpr fun payload given => ?_
      exact (nodes node child payload).mpr (shaped node child payload given)
  | _ => exact ⟨fun valid => (by cases valid), fun shaped => (by cases shaped)⟩

theorem validate_eq_ok (tree : CommandTree) (payload : Json) :
    tree.validate payload = .ok () ↔ WellShaped tree payload := by
  rw [validate_eq, Except.forM_eq_ok, wellShaped_iff]
  have nodes : ∀ node ∈ tree.nodes, ∀ payload,
      node.validate payload = .ok () ↔ WellShaped node payload :=
    fun node _ => validate_eq_ok node
  exact forall₂_congr fun entry _ => validateEntry_eq_ok nodes
termination_by sizeOf tree
decreasing_by exact sizeOf_lt_of_mem_nodes (by assumption)

/-- An invalid payload is refused for an entry that is neither an object nor null. -/
theorem exists_of_validate_eq_error {tree : CommandTree} {payload : Json} {fault : Fault}
    (refused : tree.validate payload = .error fault) :
    ∃ key value, fault = .invalidInput (.notAnEntry key value) := by
  rw [validate_eq] at refused
  obtain ⟨_, entry, _, _, _, failed⟩ := Except.forM_eq_error.mp refused
  cases entry with
  | null => cases failed
  | object members =>
    rw [validateEntry, validateChildren_eq] at failed
    obtain ⟨before, node, after, split, _, failed⟩ := Except.forM_eq_error.mp failed
    have child : node ∈ tree.nodes := split ▸ List.mem_append_right _ List.mem_cons_self
    unfold validateNode at failed
    split at failed
    · exact exists_of_validate_eq_error failed
    · cases failed
  | _ =>
    cases failed
    exact ⟨_, _, rfl⟩
termination_by sizeOf tree
decreasing_by exact sizeOf_lt_of_mem_nodes child

/-! ### Running -/

theorem WellShaped.accounts {tree : CommandTree} {payload : Json}
    (shaped : WellShaped tree payload) (parent : Option Parent) (store : Store) :
    Accounts (steps parent tree payload store)
      (outcome (execute (parent.map (·.seen)) tree payload) store) := by
  rw [steps_eq, execute_eq]
  refine Accounts.ofPayload (fun entry member store => ?_) store
  obtain ⟨columns, object, nested⟩ := (wellShaped_iff.mp shaped entry member).exists_columns
  refine Accounts.ofEntry object (fun row store => ?_) store
  have taken := (List.forall₂_and_left _ _).mpr
    ⟨fun _ member => member, forall₂_takePayloads tree.nodes columns⟩
  refine Accounts.childSteps (taken.imp ?_) row row store
  rintro node _ ⟨child, found⟩ given there parent store
  exact (nested node child given (found given there)).accounts parent store
termination_by sizeOf tree
decreasing_by exact sizeOf_lt_of_mem_nodes child

/-! ### Calls -/

section Call

variable {tree : CommandTree} {members : Tuple} {payload : Json}

theorem outcome_call_of_given (given : members.get? tree.key = some payload) (store : Store) :
    outcome (tree.call (.object members)) store =
      match tree.validate payload with
      | .ok _ => outcome (execute none tree payload) store
      | .error fault => (.error fault, store) := by
  simp only [call, Json.toTuple, outcome_ofExcept_bind, given]
  cases tree.validate payload <;> rfl

theorem callSteps_of_given (given : members.get? tree.key = some payload) (store : Store) :
    tree.callSteps (.object members) store =
      match tree.validate payload with
      | .ok _ => tree.steps none payload store
      | .error _ => [] := by
  simp only [callSteps, Json.toTuple, given]
  cases tree.validate payload <;> rfl

theorem WellShaped.accounts_call (shaped : WellShaped tree payload)
    (given : members.get? tree.key = some payload) (store : Store) :
    Accounts (tree.callSteps (.object members) store)
      (outcome (tree.call (.object members)) store) := by
  rw [outcome_call_of_given given, callSteps_of_given given,
    (validate_eq_ok tree payload).mpr shaped]
  exact shaped.accounts none store

/-- The call fails for an invalid input and leaves the store, and none of its steps gets to a
gateway. -/
structure RefusedAtOnce (tree : CommandTree) (input : Json) (store : Store) : Prop where
  fails : ∃ fault, outcome (tree.call input) store = (.error (.invalidInput fault), store)
  idle : ∀ step ∈ tree.callSteps input store, ¬ step.CallsGateway

theorem refusedAtOnce_of_misshapen (misshapen : ¬ WellShaped tree payload)
    (given : members.get? tree.key = some payload) (store : Store) :
    tree.RefusedAtOnce (.object members) store := by
  have called := outcome_call_of_given given store
  have steps := callSteps_of_given given store
  cases valid : tree.validate payload with
  | ok _ => exact absurd ((validate_eq_ok tree payload).mp valid) misshapen
  | error fault =>
    obtain ⟨key, value, rfl⟩ := exists_of_validate_eq_error valid
    rw [valid] at called steps
    refine ⟨⟨_, called⟩, fun step member => ?_⟩
    rw [steps] at member
    cases member

/-- Where the input maps of the root refuse the first entry, no other command is run. -/
theorem refusedAtOnce_of_stopped (shaped : WellShaped tree payload)
    (given : members.get? tree.key = some payload) {own : Tuple}
    (first : tree.firstTuple? payload = some own) {fault : InputFault}
    (stopped : tree.command.operation own none = .error (.invalidInput fault)) (store : Store) :
    tree.RefusedAtOnce (.object members) store := by
  have ran : tree.callSteps (.object members) store = tree.steps none payload store := by
    rw [callSteps_of_given given, (validate_eq_ok tree payload).mpr shaped]
  have accounts := shaped.accounts_call given store
  have failed : (⟨tree, none, own, store⟩ : Step).outcome = (.error (.invalidInput fault), store) :=
    Step.outcome_of_stopped stopped
  have idle : ¬ (⟨tree, none, own, store⟩ : Step).CallsGateway := by
    rintro ⟨act, called⟩
    cases stopped.symm.trans called
  obtain ⟨rest, started⟩ := List.head?_eq_some_iff.mp (head?_steps first none store)
  rw [ran, started] at accounts
  obtain ⟨rfl, error, after, ended, same⟩ := accounts.of_idle idle
  cases failed.symm.trans same
  refine ⟨⟨fault, ended⟩, fun step member => ?_⟩
  rw [ran, started, List.mem_singleton] at member
  exact member ▸ idle

/-- Of a payload of the right shape without a first tuple nothing is run. -/
theorem WellShaped.steps_eq_nil (shaped : WellShaped tree payload)
    (nothing : tree.firstTuple? payload = none) (parent : Option Parent) (store : Store) :
    tree.steps parent payload store = [] := by
  refine CommandTree.steps_eq_nil ?_ parent store
  cases all : tree.command.entries payload with
  | nil => rfl
  | cons entry rest =>
    have member : entry ∈ tree.command.entries payload := all ▸ List.mem_cons_self
    obtain ⟨columns, object, _⟩ := (wellShaped_iff.mp shaped entry member).exists_columns
    rw [firstTuple?, all] at nothing
    simp [object, Except.toOption] at nothing

/-- A payload of the right shape is refused at once by nothing but the input maps of the root. -/
theorem WellShaped.exists_stopped (shaped : WellShaped tree payload)
    (given : members.get? tree.key = some payload) {store : Store}
    (refused : tree.RefusedAtOnce (.object members) store) :
    ∃ own ∈ tree.firstTuple? payload, ∃ fault,
      tree.command.operation own none = .error (.invalidInput fault) := by
  obtain ⟨⟨fault, failed⟩, idle⟩ := refused
  have accounts := shaped.accounts_call given store
  have ran : tree.callSteps (.object members) store = tree.steps none payload store := by
    rw [callSteps_of_given given, (validate_eq_ok tree payload).mpr shaped]
  rw [ran] at accounts idle
  cases first : tree.firstTuple? payload with
  | none =>
    rcases ended : outcome (tree.call (.object members)) store with ⟨error | output, after⟩
    · rw [shaped.steps_eq_nil first, ended] at accounts
      obtain ⟨done, last, split, _⟩ := accounts
      exact absurd split.symm (List.append_ne_nil_of_right_ne_nil _ (List.cons_ne_nil _ _))
    · rw [ended] at failed
      cases failed
  | some own =>
    obtain ⟨rest, started⟩ := List.head?_eq_some_iff.mp (head?_steps first none store)
    rw [started] at accounts idle
    have here := idle _ List.mem_cons_self
    obtain ⟨_, error, after, ended, same⟩ := accounts.of_idle here
    rw [ended] at failed
    cases failed
    refine ⟨own, rfl, fault, ?_⟩
    cases stopped : tree.command.operation own none with
    | ok act => exact absurd ⟨act, stopped⟩ here
    | error error =>
      have unrun : (⟨tree, none, own, store⟩ : Step).outcome = (.error error, store) :=
        Step.outcome_of_stopped stopped
      cases unrun.symm.trans same
      rfl

end Call

/-- A call with a payload fails for an invalid input, before any gateway is called and with nothing
written, if and only if the payload has the wrong shape for the tree, or the input maps of the root
refuse what they are given for the first entry. If the shape is right, every failure is that of the
last command that was run, on a tuple: no entry at any depth turns out to be something else than an
object or null. The steps lead from the store before the call to the store after it. -/
theorem refusedAtOnce_iff {tree : CommandTree} {members : Tuple} {payload : Json}
    (given : members.get? tree.key = some payload) (store : Store) :
    Leads store (tree.callSteps (.object members) store)
        (outcome (tree.call (.object members)) store).2 ∧
      (tree.RefusedAtOnce (.object members) store ↔
        ¬ tree.WellShaped payload ∨
          ∃ own ∈ tree.firstTuple? payload, tree.command.type ≠ .delete ∧
            ∃ fault, tree.command.mapped own none = .error (.invalidInput fault)) ∧
      (tree.WellShaped payload → ∀ fault after,
        outcome (tree.call (.object members)) store = (.error fault, after) →
          ∃ done last, tree.callSteps (.object members) store = done ++ [last] ∧
            (∀ step ∈ done, step.Succeeds) ∧ last.outcome = (.error fault, after)) := by
  refine ⟨tree.leads_callSteps _ store, ⟨fun refused => ?_, ?_⟩,
    fun shaped fault after failed => ?_⟩
  · by_cases shaped : tree.WellShaped payload
    · obtain ⟨own, first, fault, stopped⟩ := shaped.exists_stopped given refused
      obtain ⟨changes, maps⟩ := Command.operation_eq_error.mp stopped
      exact Or.inr ⟨own, first, changes, fault, maps⟩
    · exact Or.inl shaped
  · rintro (misshapen | ⟨own, first, changes, fault, maps⟩)
    · exact refusedAtOnce_of_misshapen misshapen given store
    · by_cases shaped : tree.WellShaped payload
      · exact refusedAtOnce_of_stopped shaped given first
          (Command.operation_eq_error.mpr ⟨changes, maps⟩) store
      · exact refusedAtOnce_of_misshapen shaped given store
  · have accounts := shaped.accounts_call given store
    rw [failed] at accounts
    exact accounts

/-- Users, of whom the second has tasks of a wrong shape. -/
theorem refusedAtOnce_iff_users :
    let tree := (Sample.request .create).writer 0 Sample.users
    let payload : Json := .array [.object [("name", .string "Ann")],
      .object [("name", .string "Ben"), ("tasks", .array [.string "Sweep"])]]
    let members : Tuple := [("users", payload)]
    members.get? tree.key = some payload ∧
      Leads ∅ (tree.callSteps (.object members) ∅) (outcome (tree.call (.object members)) ∅).2 ∧
      (tree.RefusedAtOnce (.object members) ∅ ↔
        ¬ tree.WellShaped payload ∨
          ∃ own ∈ tree.firstTuple? payload, tree.command.type ≠ .delete ∧
            ∃ fault, tree.command.mapped own none = .error (.invalidInput fault)) ∧
      (tree.WellShaped payload → ∀ fault after,
        outcome (tree.call (.object members)) ∅ = (.error fault, after) →
          ∃ done last, tree.callSteps (.object members) ∅ = done ++ [last] ∧
            (∀ step ∈ done, step.Succeeds) ∧ last.outcome = (.error fault, after)) :=
  ⟨rfl, refusedAtOnce_iff rfl ∅⟩

end CommandTree

namespace Sample

def closing : Customization := ⟨1, modify (·.withInputMap (ColumnEdit.fail "closed").inputMap)⟩

/-- Of a payload of the right shape, the input map of the root refuses what it is given. -/
theorem not_refusedAtOnce_iff_closed :
    ∃ tree after,
      outcome (CompileRequest.run ⟨catalog, .create, "memory", some closing⟩ users.toPlan) ∅ =
        (.ok (.nested (.ofTree tree)), after) ∧
      ¬ (tree.RefusedAtOnce (.object [("users", .object [("name", .string "Ann")])]) after ↔
        ¬ tree.WellShaped (.object [("name", .string "Ann")])) := by
  refine ⟨_, _, rfl, fun same => ?_⟩
  refine same.mp ⟨⟨_, rfl⟩, ?_⟩ ((CommandTree.validate_eq_ok _ _).mp rfl)
  intro step member called
  cases List.mem_singleton.mp member
  obtain ⟨act, called⟩ := called
  cases called

end Sample

end RelationGraph
