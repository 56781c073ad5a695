import RelationGraph.Proofs.CompiledPlans
import RelationGraph.Proofs.PayloadShapes
import RelationGraph.Proofs.RowFates

set_option autoImplicit false

namespace RelationGraph

open StoreM

namespace Command

variable {command : Command}

/-! ### Running -/

theorem createAll_eq (command : Command) (items : List Json) :
    command.createAll none items =
      do return (← CommandTree.collect command.runItem items).map .object := by
  induction items with
  | nil => rfl
  | cons item rest ih =>
    rw [createAll_cons, ih, CommandTree.collect]
    simp only [bind_assoc, pure_bind, List.map_append]

theorem collect_single {α : Type} (items : List α) :
    CommandTree.collect (fun item => return [item]) items = (return items : StoreM (List α)) := by
  induction items with
  | nil => rfl
  | cons item rest ih =>
    rw [CommandTree.collect, ih]
    rfl

theorem runEntry_nil (command : Command) (entry : Json) :
    CommandTree.runEntry command [] none
      (fun payloads row => CommandTree.executeChildren payloads row []) entry =
      command.runItem entry := by
  have kept : ∀ rows, CommandTree.collect (fun row => do
      return [← CommandTree.executeChildren [] row []]) rows = return rows :=
    collect_single
  simp only [CommandTree.runEntry, runItem, CommandTree.takePayloads, kept, bind_pure]

theorem execute_alone (command : Command) (key : String) (input : Json) :
    CommandTree.execute none ⟨key, command, []⟩ input =
      CommandTree.runPayload command command.runItem input := by
  rw [CommandTree.execute_eq]
  exact congrArg (CommandTree.runPayload command · input) (funext command.runEntry_nil)

theorem execute_eq_runPayload (takes : command.type ≠ .delete) (input : Json) :
    command.execute input none = CommandTree.runPayload command command.runItem input := by
  rcases command.entries_cases input with ⟨items, creates, rfl, _⟩ | ⟨single, _⟩
  · rw [CommandTree.runPayload_array creates]
    simp only [execute, creates, createAll_eq, bind_assoc, pure_bind]
  · rw [execute_entry takes single, CommandTree.runPayload_entry single]

theorem execute_delete (deletes : command.type = .delete) (input : Json) :
    command.execute input none = do return command.shape (← command.run [] none) := by
  simp only [execute, deletes]

theorem run_delete (deletes : command.type = .delete) (tuple other : Tuple)
    (parent : Option Tuple) : command.run tuple parent = command.run other parent := by
  simp only [run, deletes]

/-! ### Shapes -/

theorem outcome_runItem_error {entry : Json} {fault : Fault}
    (refused : entry.toTuple = .error fault) (store : Store) :
    outcome (command.runItem entry) store = (.error fault, store) := by
  rw [runItem, outcome_ofExcept_bind, refused]

theorem succeeds_of_collect {α β : Type} {act : α → StoreM (List β)} {items : List α}
    {store after : Store} {made : List β}
    (success : outcome (CommandTree.collect act items) store = (.ok made, after)) :
    ∀ item ∈ items, ∃ before found left, outcome (act item) before = (.ok found, left) := by
  induction items generalizing store after made with
  | nil => exact fun _ member => (by cases member)
  | cons first rest ih =>
    obtain ⟨found, between, here, success⟩ := outcome_bind_eq_ok.mp success
    obtain ⟨others, _, later, _⟩ := outcome_bind_eq_ok.mp success
    exact List.forall_mem_cons.mpr ⟨⟨store, found, between, here⟩, ih later⟩

theorem exists_of_not_entryShaped {key : String} {entry : Json}
    (misshapen : ¬ CommandTree.EntryShaped ⟨key, command, []⟩ entry) :
    ∃ fault, entry.toTuple = .error (.invalidInput fault) := by
  cases entry with
  | null => exact absurd .null misshapen
  | object members => exact absurd (.object fun _ member => (by cases member)) misshapen
  | _ => exact ⟨_, rfl⟩

/-! ### Calls -/

section Call

variable {key : String} {input : Json}

/-- An input of the right shape is run alike by a command and by the tree of it alone. -/
theorem execute_of_wellShaped (shaped : CommandTree.WellShaped ⟨key, command, []⟩ input) :
    command.execute input none = CommandTree.runPayload command command.runItem input := by
  by_cases deletes : command.type = .delete
  · have single : command.type = .create → ∀ items, input ≠ .array items := by
      rw [deletes]
      exact fun creates => (by cases creates)
    have entry : input ∈ command.entries input := by
      rcases command.entries_cases input with ⟨_, creates, _⟩ | ⟨_, all⟩
      · rw [deletes] at creates
        cases creates
      · exact all ▸ List.mem_cons_self
    obtain ⟨columns, object, _⟩ :=
      (CommandTree.wellShaped_iff.mp shaped input entry).exists_columns
    have given : command.runItem input = command.run columns none := by
      rw [runItem, object]
      rfl
    rw [execute_delete deletes, CommandTree.runPayload_entry single, given,
      run_delete deletes [] columns]
  · exact execute_eq_runPayload deletes input

/-- Under its key, the tree checks the input and runs the command for it. -/
theorem outcome_call_alone (command : Command) (key : String) (input : Json) (store : Store) :
    outcome (CommandTree.call ⟨key, command, []⟩ (.object [(key, input)])) store =
      match CommandTree.validate ⟨key, command, []⟩ input with
      | .ok _ => outcome (CommandTree.runPayload command command.runItem input) store
      | .error fault => (.error fault, store) := by
  have given : Tuple.get? [(key, input)] key = some input := if_pos rfl
  rw [← execute_alone command key]
  exact CommandTree.outcome_call_of_given given store

/-- The tree answers as the command does before it passes its output on. -/
theorem execute_of_alone (shaped : CommandTree.WellShaped ⟨key, command, []⟩ input)
    (store : Store) :
    outcome (command.execute input none) store =
      outcome (CommandTree.call ⟨key, command, []⟩ (.object [(key, input)])) store := by
  rw [outcome_call_alone, (CommandTree.validate_eq_ok _ _).mpr shaped,
    execute_of_wellShaped shaped]

theorem call_of_wellShaped (shaped : CommandTree.WellShaped ⟨key, command, []⟩ input)
    (store : Store) :
    outcome (command.call input) store =
      outcome (do
        let output ← CommandTree.call ⟨key, command, []⟩ (.object [(key, input)])
        MonadExcept.ofExcept (OutputMap.applyAll command.outputs output)) store := by
  rw [call, outcome_bind, outcome_bind, execute_of_alone shaped]

theorem outcome_call_eq_execute (last : command.outputs = []) (store : Store) :
    outcome (command.call input) store = outcome (command.execute input none) store := by
  rw [call, last, outcome_bind]
  rcases outcome (command.execute input none) store with ⟨fault | output, after⟩ <;> rfl

theorem call_alone_of_misshapen (misshapen : ¬ CommandTree.WellShaped ⟨key, command, []⟩ input)
    (store : Store) :
    ∃ fault, outcome (CommandTree.call ⟨key, command, []⟩ (.object [(key, input)])) store =
      (.error (.invalidInput fault), store) := by
  rw [outcome_call_alone]
  cases valid : CommandTree.validate ⟨key, command, []⟩ input with
  | ok _ => exact absurd ((CommandTree.validate_eq_ok _ _).mp valid) misshapen
  | error fault =>
    obtain ⟨name, value, rfl⟩ := CommandTree.exists_of_validate_eq_error valid
    exact ⟨_, rfl⟩

theorem call_delete (deletes : command.type = .delete) (input other : Json) :
    command.call input = command.call other := by
  rw [call, call, execute_delete deletes, execute_delete deletes]

/-- What is no array of a create, and no entry either, is refused before anything is written. -/
theorem call_of_misshapen_entry (takes : command.type ≠ .delete)
    (single : command.type = .create → ∀ items, input ≠ .array items)
    (misshapen : ¬ CommandTree.WellShaped ⟨key, command, []⟩ input) (store : Store) :
    ∃ fault, outcome (command.call input) store = (.error (.invalidInput fault), store) := by
  obtain ⟨fault, refused⟩ :=
    exists_of_not_entryShaped fun shaped => misshapen (.entry shaped)
  refine ⟨fault, ?_⟩
  rw [call, execute_entry takes single, outcome_bind, outcome_bind, outcome_runItem_error refused]

theorem call_of_misshapen (takes : command.type ≠ .delete)
    (misshapen : ¬ CommandTree.WellShaped ⟨key, command, []⟩ input) (store : Store) :
    ∃ fault, (outcome (command.call input) store).1 = .error fault := by
  rcases command.entries_cases input with ⟨items, creates, rfl, all⟩ | ⟨single, _⟩
  · rcases ran : outcome (command.call (.array items)) store with ⟨fault | output, after⟩
    · exact ⟨fault, rfl⟩
    · refine absurd (CommandTree.wellShaped_iff.mpr fun entry member => ?_) misshapen
      obtain ⟨_, _, executed, _⟩ := outcome_bind_eq_ok.mp ran
      rw [execute_eq_runPayload takes, CommandTree.runPayload_array creates] at executed
      obtain ⟨_, _, collected, _⟩ := outcome_bind_eq_ok.mp executed
      obtain ⟨before, _, _, succeeded⟩ := succeeds_of_collect collected entry (all ▸ member)
      refine Classical.byContradiction fun misshapen => ?_
      obtain ⟨fault, refused⟩ := exists_of_not_entryShaped misshapen
      rw [outcome_runItem_error refused] at succeeded
      cases succeeded
  · obtain ⟨fault, failed⟩ := call_of_misshapen_entry takes single misshapen store
    exact ⟨_, congrArg Prod.fst failed⟩

end Call

/-- A bare command that compiling yields has no steps behind its output. -/
theorem outputs_of_run {request : CompileRequest} {plan : Plan} {before ready : Store}
    (compiled : outcome (request.run plan) before = (.ok (.flat command), ready)) :
    command.outputs = [] := by
  obtain ⟨_, ran, holds⟩ := request.outcome_run plan
  have result : request.result plan = .ok (.flat command) :=
    congrArg Prod.fst ((ran before).symm.trans compiled)
  obtain ⟨⟨_, _, _, _, tree, _, made, same⟩, _⟩ := holds _ result
  unfold Compiled.ofTree at same
  split at same
  · cases same
  · cases same
    exact made.binds.outputs

/-- For an input of the right shape, an entry or for a create an array of entries, a command does
what the tree of it alone does, and passes on what the tree answers; without steps behind its
output, as compiling yields it, both have the same outcome and leave the same store. Any other input
the tree refuses, and nothing is written. A delete by itself takes no notice of such an input, it
does what it does for null; a create or update by itself fails, too, and in the same way if the
input is no array of a create. -/
theorem call_alone (command : Command) (key : String) (input : Json) (store : Store) :
    let tree : CommandTree := ⟨key, command, []⟩
    let nested := tree.call (.object [(key, input)])
    (tree.WellShaped input →
      outcome (command.call input) store = outcome (do
        let output ← nested
        MonadExcept.ofExcept (OutputMap.applyAll command.outputs output)) store ∧
      (command.outputs = [] →
        outcome (command.call input) store = outcome nested store)) ∧
    (¬ tree.WellShaped input →
      (∃ fault, outcome nested store = (.error (.invalidInput fault), store)) ∧
      (command.type = .delete →
        outcome (command.call input) store = outcome (command.call .null) store) ∧
      (command.type ≠ .delete → ∃ fault, (outcome (command.call input) store).1 = .error fault) ∧
      (command.type ≠ .delete → (command.type = .create → ∀ items, input ≠ .array items) →
        ∃ fault, outcome (command.call input) store = (.error (.invalidInput fault), store))) ∧
    ∀ (request : CompileRequest) (plan : Plan) (before ready : Store),
      outcome (request.run plan) before = (.ok (.flat command), ready) → command.outputs = [] := by
  intro tree nested
  refine ⟨fun shaped => ⟨call_of_wellShaped shaped store, fun last => ?_⟩, fun misshapen => ?_,
    fun _ _ _ _ compiled => outputs_of_run compiled⟩
  · rw [outcome_call_eq_execute last]
    exact execute_of_alone shaped store
  · exact ⟨call_alone_of_misshapen misshapen store,
      fun deletes => by rw [call_delete deletes input .null],
      fun takes => call_of_misshapen takes misshapen store,
      fun takes single => call_of_misshapen_entry takes single misshapen store⟩

/-- Two users that are created at once by a command with a step behind its output, and a delete that
is given a text. -/
theorem call_alone_users :
    let creates := ((Sample.request .create).commandFor 0 (Sample.tree "users" [])).andThen
      (OutputMap.wrap "made")
    let deletes := (Sample.request .delete).commandFor 0 (Sample.tree "users" [])
    let batch : Json := .array [.object [("name", .string "Ann")], .null]
    let store := Sample.store [("users", [[("id", .ofNat 1)]])]
    let nested := CommandTree.call ⟨"users", creates, []⟩ (.object [("users", batch)])
    CommandTree.WellShaped ⟨"users", creates, []⟩ batch ∧
      (outcome nested ∅).1 = .ok (.array [.object [("id", .ofNat 1), ("name", .string "Ann")],
        .object [("id", .ofNat 2)]]) ∧
      outcome (creates.call batch) ∅ = outcome (do
        let output ← nested
        MonadExcept.ofExcept (OutputMap.applyAll creates.outputs output)) ∅ ∧
      ¬ CommandTree.WellShaped ⟨"users", deletes, []⟩ (.string "Ann") ∧
      deletes.type = .delete ∧
      (∃ fault, outcome (CommandTree.call ⟨"users", deletes, []⟩
        (.object [("users", .string "Ann")])) store = (.error (.invalidInput fault), store)) ∧
      outcome (deletes.call (.string "Ann")) store = outcome (deletes.call .null) store := by
  intro creates deletes batch store nested
  have shaped : CommandTree.WellShaped ⟨"users", creates, []⟩ batch :=
    (CommandTree.validate_eq_ok _ _).mp rfl
  have misshapen : ¬ CommandTree.WellShaped ⟨"users", deletes, []⟩ (.string "Ann") := by
    intro shaped
    cases (CommandTree.validate_eq_ok _ _).mpr shaped
  obtain ⟨passed, _⟩ := (call_alone creates "users" batch ∅).1 shaped
  obtain ⟨refused, same, _⟩ := (call_alone deletes "users" (.string "Ann") store).2.1 misshapen
  exact ⟨shaped, rfl, passed, misshapen, rfl, refused, same rfl⟩

end Command

namespace Sample

/-- A delete that is given a text removes the user by itself, and is refused in a tree. A
create passes its output on, which the tree does not. -/
theorem not_call_alone_text :
    let deletes := (request .delete).commandFor 0 (tree "users" [])
    let creates := ((request .create).commandFor 0 (tree "users" [])).andThen
      (OutputMap.wrap "made")
    let store := store [("users", [[("id", .ofNat 1)]])]
    let bare := outcome (deletes.call (.string "Ann")) store
    let nested := outcome (CommandTree.call ⟨"users", deletes, []⟩
      (.object [("users", .string "Ann")])) store
    bare.1 = .ok (.object [("id", .ofNat 1)]) ∧ (relation "users").rows bare.2 = [] ∧
      nested = (.error (.invalidInput (.notAnEntry "users" (.string "Ann"))), store) ∧
      (outcome (creates.call .null) ∅).1 =
        .ok (.object [("made", .object [("id", .ofNat 1)])]) ∧
      (outcome (CommandTree.call ⟨"users", creates, []⟩ (.object [("users", .null)])) ∅).1 =
        .ok (.object [("id", .ofNat 1)]) :=
  ⟨rfl, rfl, rfl, rfl, rfl⟩

end Sample

end RelationGraph
