import RelationGraph.Proofs.CatalogSetup
import RelationGraph.Proofs.RestrictedWrites
import RelationGraph.Repository.Methods

set_option autoImplicit false

namespace RelationGraph

open StoreM

/-! ### Rows that stay -/

namespace Store

/-- The stored rows are the same, whatever gateways have configured. -/
def SameRows (store after : Store) : Prop :=
  ∀ gateway name, after.dataset gateway name = store.dataset gateway name

theorem SameRows.trans {store between after : Store} (first : store.SameRows between)
    (second : between.SameRows after) : store.SameRows after :=
  fun gateway name => (second gateway name).trans (first gateway name)

theorem sameRows_register (store : Store) (gateway : Nat) :
    store.SameRows (store.register gateway) := by
  intro other name
  rw [dataset, storage, register, SortedMap.get?_insert]
  split
  · rename_i here
    rw [here]
    rfl
  · rfl

theorem sameRows_registerAll (store : Store) (gateways : List Nat) :
    store.SameRows (store.registerAll gateways) := by
  induction gateways generalizing store with
  | nil => exact fun _ _ => rfl
  | cons first rest ih => exact (store.sameRows_register first).trans (ih _)

end Store

namespace Order

theorem sameRows_serve (order : Order) (shelf : Shelf) :
    shelf.store.SameRows (order.serve shelf).2.store := by
  obtain ⟨gateways, ran, _⟩ := order.request.outcome_run order.plan
  have registered : order.registered shelf.store = shelf.store.registerAll gateways := by
    rw [Order.registered, ran]
  have same : shelf.store.SameRows (order.registered shelf.store) :=
    registered ▸ shelf.store.sameRows_registerAll gateways
  cases looked : order.found? shelf with
  | some found =>
    rw [serve_of_found looked]
    exact fun _ _ => rfl
  | none =>
    cases made : order.result with
    | error fault =>
      rw [serve_of_error looked made]
      exact same
    | ok compiled =>
      rw [serve_of_ok looked made]
      dsimp only
      split <;> exact same

end Order

/-- Wherever requests have led, a repository answers with what compiling the plan yields, and
changes no rows. -/
theorem Repository.outcome_command_rows {directory : Directory} {workspace : Workspace}
    (reached : directory.Reached workspace) {repository : Repository} {type : CommandType}
    {tree : RelationTree} {customization : Option Customization}
    (listed : directory.Lists (.command repository type.name tree customization)) :
    ∃ answered after,
      WorkM.outcome (repository.command type.name tree customization) workspace =
        (answered, after) ∧
      answered.map (·.command.compiled) = (repository.order type tree customization).result ∧
      workspace.store.SameRows after.store := by
  obtain ⟨keeps, faithful⟩ := reached.sound
  obtain ⟨named, owns⟩ := listed.repository _ _ _ _ rfl
  obtain ⟨layout, laid⟩ := tree.exists_ofPlan
  have typed : CommandType.ofName type.name = .ok type := by
    rw [CommandType.ofName, CommandType.ofName?_name]
  have ordered : (Inquiry.command repository type.name tree customization).order =
      .ok (repository.order type tree customization) :=
    Except.bind_eq_ok.mpr ⟨type, typed, rfl⟩
  obtain ⟨after, ran, shelved, _⟩ := outcome_command keeps named owns laid typed customization
  refine ⟨_, after, ran, ?_, ?_⟩
  · rw [← (faithful.serve (Directory.request_key listed ordered)).1]
    cases ((repository.order type tree customization).serve workspace.shelf).1 <;> rfl
  · have stored : after.store =
        ((repository.order type tree customization).serve workspace.shelf).2.store :=
      congrArg Shelf.store shelved
    rw [stored]
    exact (repository.order type tree customization).sameRows_serve workspace.shelf

/-! ### What a view lets through -/

/-- The row meets the fixed conditions of the view, and each column of the view holds its argument.
-/
structure View.Meets (view : View) (args : List Json) (row : Tuple) : Prop where
  fixed : view.fixed.matchesTuple row = true
  bound : ∀ pair ∈ view.columns.zip args, (pair.2 == row.read pair.1) = true

theorem View.matchesTuple_iff {view : View} {args : List Json} {row : Tuple} :
    (view.fixed.merge ⟨(view.columns.zip args).map fun (column, arg) =>
      (column, .eq arg)⟩).matchesTuple row = true ↔ view.Meets args row := by
  have bound : Criteria.matchesTuple
        ⟨(view.columns.zip args).map fun (column, arg) => (column, .eq arg)⟩ row = true ↔
      ∀ pair ∈ view.columns.zip args, (pair.2 == row.read pair.1) = true := by
    simp [Criteria.matchesTuple, Condition.holds]
  rw [Criteria.matchesTuple_merge, Bool.and_eq_true, bound]
  exact ⟨fun both => ⟨both.1, both.2⟩, fun meets => ⟨meets.fixed, meets.bound⟩⟩

/-- Only rows of the relation that meet a condition are changed or removed, and none is added. -/
def Relation.Touches (relation : Relation) (meets : Tuple → Prop) (store after : Store) : Prop :=
  (∃ fate : Tuple → Option Tuple, (∀ row, fate row ≠ some row → meets row) ∧
    relation.rows after = (relation.rows store).filterMap fate) ∧
  ∀ gateway name, ¬(gateway = relation.gateway.id ∧ name = relation.name.dataset) →
    after.dataset gateway name = store.dataset gateway name

theorem Relation.Touches.of_sameRows {relation : Relation} {meets : Tuple → Prop}
    {store between after : Store} (same : store.SameRows between)
    (touches : relation.Touches meets between after) : relation.Touches meets store after := by
  obtain ⟨⟨fate, confined, rows⟩, others⟩ := touches
  have alike : relation.rows between = relation.rows store := congrArg Dataset.rows (same _ _)
  exact ⟨⟨fate, confined, alike ▸ rows⟩,
    fun gateway name elsewhere => (others gateway name elsewhere).trans (same gateway name)⟩

theorem Leads.eq_of_nil {store after : Store} (leads : Leads store [] after) : after = store := by
  cases leads
  rfl

theorem Leads.eq_of_single {store after : Store} {step : Step} (leads : Leads store [step] after) :
    after = step.outcome.2 := by
  cases leads with
  | cons later => exact later.eq_of_nil

theorem Relation.Touches.imp {relation : Relation} {meets meets' : Tuple → Prop}
    (weaker : ∀ row, meets row → meets' row) {store after : Store}
    (touches : relation.Touches meets store after) : relation.Touches meets' store after := by
  obtain ⟨⟨fate, confined, rows⟩, others⟩ := touches
  exact ⟨⟨fate, fun row turned => weaker row (confined row turned), rows⟩, others⟩

/-- An update or a delete touches the rows that meet its criteria alone. -/
theorem Command.touches_call {command : Command} (changes : command.type ≠ .create) (input : Json)
    (store : Store) :
    command.relation.Touches (command.relation.criteria.matchesTuple · = true) store
      (outcome (command.call input) store).2 := by
  have single : command.type = .create → ∀ items, input ≠ .array items :=
    fun creates => absurd creates changes
  have turned {tuple : Tuple} {after : Store}
      (turns : command.Turns (command.fate tuple none) store after) :
      command.relation.Touches (command.relation.criteria.matchesTuple · = true) store after := by
    obtain ⟨added, none, rows⟩ := turns.rows
    rw [none changes, List.append_nil] at rows
    exact ⟨⟨_, fun row => matchesTuple_of_fate, rows⟩, turns.others⟩
  have untouched : command.relation.Touches (command.relation.criteria.matchesTuple · = true)
      store store :=
    ⟨⟨some, fun _ other => absurd rfl other, by rw [List.filterMap_some]⟩, fun _ _ _ => rfl⟩
  rw [call, StoreM.store_bind_ofExcept]
  have leads := command.leads_execute input store
  rw [steps, Step.ofPayload_entry single, entrySteps] at leads
  -- There is one step at most, since only a create goes through items.
  split at leads
  · rw [leads.eq_of_single]
    exact turned (command.turns_run _ _ _)
  · rw [leads.eq_of_single]
    exact turned (command.turns_run _ _ _)
  · rw [leads.eq_of_nil]
    exact untouched

/-- A command that is narrowed touches the rows that meet the criteria by which it is. -/
theorem Command.touches_call_restrict {command : Command} (changes : command.type ≠ .create)
    (criteria : Criteria) (input : Json) (store : Store) :
    command.relation.Touches (criteria.matchesTuple · = true) store
      (outcome ((command.restrict criteria).call input) store).2 := by
  have narrowed : (command.restrict criteria).type ≠ .create := changes
  obtain ⟨⟨fate, confined, rows⟩, others⟩ := touches_call narrowed input store
  refine ⟨⟨fate, fun row turned => ?_, rows⟩, others⟩
  have met := confined row turned
  rw [restrict, Relation.restrict, Criteria.matchesTuple_merge, Bool.and_eq_true] at met
  exact met.2

theorem Compiled.view_flat (command : Command) (name : String) (args : List Json) :
    (Compiled.flat command).view name args =
      (command.relation.view name args).map fun relation =>
        .flat { command with relation := relation } := by
  rw [Compiled.view, Command.view]
  cases command.relation.view name args <;> rfl

/-! ### Methods -/

/-- The number of arguments that a method takes; none if its view does not exist. -/
def Method.arity? (method : Method) (relation : Relation) : Option Nat :=
  match method.view with
  | none => some 0
  | some name => (relation.schema.views.get? name).map View.arity

def Method.narrow (method : Method) (args : List Json) (command : MappedCommand) :
    WorkM MappedCommand :=
  match method.view with
  | some view => command.view view args
  | none => return command

section Narrowed

variable {method : Method} {label : String} {args : List Json} {command : MappedCommand}

theorem Method.outcome_narrow_of_error (through : method.view = some label) {fault : Fault}
    (failed : command.command.compiled.view label args = .error fault) (input : Json)
    (workspace : Workspace) :
    WorkM.outcome (method.narrow args command >>= fun narrowed =>
      WorkM.ofStore (narrowed.call input)) workspace = (.error fault, workspace) := by
  rw [Method.narrow, through]
  exact WorkM.outcome_bind_of_error (MappedCommand.outcome_view_of_error failed workspace)

theorem Method.store_narrow_of_ok (through : method.view = some label) {compiled : Compiled}
    (viewed : command.command.compiled.view label args = .ok compiled) (input : Json)
    (workspace : Workspace) :
    (WorkM.outcome (method.narrow args command >>= fun narrowed =>
      WorkM.ofStore (narrowed.call input)) workspace).2.store =
        (outcome (compiled.call input) workspace.store).2 := by
  rw [Method.narrow, through]
  dsimp only
  rw [WorkM.outcome_bind_of_ok (MappedCommand.outcome_view_of_ok viewed workspace),
    WorkM.outcome_ofStore]
  exact StoreM.store_bind_ofExcept _ _ _

end Narrowed

theorem CompileRequest.exists_flat_of_compiles {request : CompileRequest} {relation : Relation}
    {compiled : Compiled}
    (compiles : request.Compiles (RelationTree.ofRelation relation).toPlan compiled) :
    ∃ command, compiled = .flat command ∧
      request.catalog.relation relation.name.relation = .ok command.relation := by
  obtain ⟨binds, made⟩ := compiles.of_tree
  obtain ⟨_, _, _, _, commands, _, _, rfl⟩ := compiles
  have alone : commands.nodes = [] := by
    rw [← (Compiled.tree_ofTree commands).2]
    exact List.forall₂_nil_left_iff.mp made
  have flat : Compiled.ofTree commands = .flat commands.command := by
    rw [Compiled.ofTree, CommandTree.isNested, alone]
    rfl
  rw [flat] at binds ⊢
  exact ⟨_, rfl, binds.relation⟩

namespace MethodRepository

variable {id : Nat} {compiler : Compiler} {root : String} {definitions : List MethodDefinition}
  {repository : MethodRepository} {relation : Relation} {name : String} {method : Method}

theorem tree_of_ofCompiler (made : ofCompiler id compiler root definitions = .ok repository)
    (known : compiler.catalog.relation root = .ok relation) :
    repository.repository.compiler = compiler ∧ repository.tree = .ok (.ofRelation relation) := by
  obtain ⟨plain, chosen, made⟩ := Except.bind_eq_ok.mp made
  obtain ⟨methods, _, made⟩ := Except.bind_eq_ok.mp made
  cases made
  have tree : RelationTree.ofCatalog compiler.catalog root = .ok (.ofRelation relation) := by
    rw [RelationTree.ofCatalog, known]
    rfl
  rw [Repository.ofCompiler, List.mapM_cons, tree] at chosen
  cases chosen
  have found : (SortedMap.ofList [(root, RelationTree.ofRelation relation)]).get? root =
      some (.ofRelation relation) :=
    if_pos rfl
  refine ⟨rfl, ?_⟩
  rw [MethodRepository.tree, Repository.relation]
  dsimp only [List.reverse_nil]
  rw [found]

/-- A call compiles the command of the method, narrows it and runs it. -/
theorem callMethod_eq (declared : repository.methods.get? name = some method)
    {tree : RelationTree} (rooted : repository.tree = .ok tree) (args : List Json) (input : Json) :
    repository.callMethod name args input =
      repository.repository.command method.type.name tree method.customization >>= fun command =>
        method.narrow args command >>= fun narrowed => WorkM.ofStore (narrowed.call input) := by
  rw [callMethod, methodCommand, declared]
  dsimp only
  have given : MonadExcept.ofExcept (.ok tree) = (pure tree : WorkM RelationTree) := rfl
  rw [rooted, given, pure_bind, bind_assoc]
  rfl

/-- The identities that the commands of the methods depend on name their objects. -/
structure ListedIn (repository : MethodRepository) (directory : Directory) : Prop where
  catalog : directory.catalogs repository.repository.catalog.id = repository.repository.catalog
  own : directory.repositories repository.repository.id = repository.repository
  customizations : ∀ name method, repository.methods.get? name = some method →
    ∀ given ∈ method.customization, directory.customizations given.id = given

/-- The call is refused for its input, and the stored rows stay as they are. -/
def Refuses {α : Type} (act : WorkM α) (workspace : Workspace) : Prop :=
  ∃ fault after, WorkM.outcome act workspace = (.error (.invalidInput fault), after) ∧
    workspace.store.SameRows after.store

/-- A call succeeds only with so many arguments, and is refused with any other number. -/
structure Heeds (repository : MethodRepository) (name : String) (arity : Nat) (args : List Json)
    (input : Json) (workspace : Workspace) : Prop where
  success : ∀ mapped after,
    WorkM.outcome (repository.callMethod name args input) workspace = (.ok mapped, after) →
      args.length = arity
  refused : args.length ≠ arity → Refuses (repository.callMethod name args input) workspace

theorem Heeds.of_refused {arity : Nat} {args : List Json} {input : Json} {workspace : Workspace}
    (refused : args.length ≠ arity → Refuses (repository.callMethod name args input) workspace) :
    repository.Heeds name arity args input workspace := by
  refine ⟨fun mapped after success => ?_, refused⟩
  by_contra wrong
  obtain ⟨_, _, failed, _⟩ := refused wrong
  rw [success] at failed
  cases failed

variable {directory : Directory} {workspace : Workspace}

theorem exists_flat_of_result (setup : compiler.catalog.SetUp)
    (made : ofCompiler id compiler root definitions = .ok repository)
    (known : compiler.catalog.relation root = .ok relation) {compiled : Compiled}
    (success : (repository.repository.order method.type (.ofRelation relation)
      method.customization).result = .ok compiled) :
    ∃ command, compiled = .flat command ∧ command.relation = relation := by
  obtain ⟨same, _⟩ := tree_of_ofCompiler made known
  obtain ⟨_, _, sound⟩ := (repository.repository.order method.type (.ofRelation relation)
    method.customization).request.outcome_run (RelationTree.ofRelation relation).toPlan
  obtain ⟨command, flat, bound⟩ := CompileRequest.exists_flat_of_compiles (sound _ success).1
  refine ⟨command, flat, ?_⟩
  rw [(setup.relation known).1] at bound
  change repository.repository.compiler.catalog.relation root = _ at bound
  rw [same, known] at bound
  exact (Except.ok.inj bound).symm

section Called

variable (reached : directory.Reached workspace) (setup : compiler.catalog.SetUp)
  (made : ofCompiler id compiler root definitions = .ok repository)
  (listed : repository.ListedIn directory)
  (declared : repository.methods.get? name = some method)
  (known : compiler.catalog.relation root = .ok relation)

include reached setup made listed declared known

/-- A call starts with the command of the method, which is the same whatever the arguments, and
changes no rows. -/
theorem outcome_callMethod :
    ∃ (answered : Except Fault MappedCommand) (between : Workspace),
      answered.map (·.command.compiled) = (repository.repository.order method.type
        (.ofRelation relation) method.customization).result ∧
      workspace.store.SameRows between.store ∧
      ∀ args input, WorkM.outcome (repository.callMethod name args input) workspace =
        match answered with
        | .ok command => WorkM.outcome (method.narrow args command >>= fun narrowed =>
            WorkM.ofStore (narrowed.call input)) between
        | .error fault => (.error fault, between) := by
  obtain ⟨same, rooted⟩ := tree_of_ofCompiler made known
  obtain ⟨named, plain⟩ := setup.relation known
  have owns : repository.repository.Owns (.ofRelation relation) := by
    rw [Repository.Owns, Repository.catalog, same]
    change compiler.catalog.relation relation.name.relation = .ok relation.unrestricted
    rw [named, known, plain]
  have lists : directory.Lists (.command repository.repository method.type.name
      (.ofRelation relation) method.customization) :=
    Directory.lists_command listed.catalog (listed.customizations name method declared)
      listed.own owns _
  obtain ⟨answered, between, ran, result, rows⟩ := Repository.outcome_command_rows reached lists
  refine ⟨answered, between, result, rows, fun args input => ?_⟩
  rw [callMethod_eq declared rooted, WorkM.outcome_bind, ran]
  cases answered <;> rfl

/-- What is compiled for a method through a view is narrowed by it, or else the call ends with the
fault of the view, before it has changed any rows. -/
theorem outcome_callMethod_of_view {label : String} (through : method.view = some label)
    {bare : Command} (success : (repository.repository.order method.type (.ofRelation relation)
      method.customization).result = .ok (.flat bare)) :
    ∃ between : Workspace, workspace.store.SameRows between.store ∧ ∀ args input,
      (∀ fault, bare.relation.view label args = .error fault →
        WorkM.outcome (repository.callMethod name args input) workspace =
          (.error fault, between)) ∧
      ∀ narrowed, bare.relation.view label args = .ok narrowed →
        (WorkM.outcome (repository.callMethod name args input) workspace).2.store =
          (outcome ({ bare with relation := narrowed }.call input) between.store).2 := by
  obtain ⟨answered, between, same, rows, calls⟩ :=
    outcome_callMethod reached setup made listed declared known
  rw [success] at same
  cases answered with
  | error fault => cases same
  | ok command =>
    have flat : command.command.compiled = .flat bare := Except.ok.inj same
    refine ⟨between, rows, fun args input => ⟨fun fault failed => ?_, fun narrowed applied => ?_⟩⟩
    · have viewed : command.command.compiled.view label args = .error fault := by
        rw [flat, Compiled.view_flat, failed]
        rfl
      exact (calls args input).trans (method.outcome_narrow_of_error through viewed input between)
    · have viewed : command.command.compiled.view label args =
          .ok (.flat { bare with relation := narrowed }) := by
        rw [flat, Compiled.view_flat, applied]
        rfl
      rw [calls args input]
      exact Method.store_narrow_of_ok through viewed input between

/-- A method without a view heeds its arguments exactly if it is given none, or is refused without
any. -/
theorem heeds_iff_of_plain (plain : method.view = none) (args : List Json) (input : Json) :
    repository.Heeds name 0 args input workspace ↔
      args = [] ∨ Refuses (repository.callMethod name [] input) workspace := by
  obtain ⟨_, _, _, _, calls⟩ := outcome_callMethod reached setup made listed declared known
  -- Nothing of a call depends on the arguments, also not whether it is refused.
  have ignored : WorkM.outcome (repository.callMethod name args input) workspace =
      WorkM.outcome (repository.callMethod name [] input) workspace := by
    rw [calls, calls]
    unfold Method.narrow
    rw [plain]
  have alike : Refuses (repository.callMethod name args input) workspace ↔
      Refuses (repository.callMethod name [] input) workspace := by
    rw [Refuses, Refuses, ignored]
  rw [← alike]
  by_cases given : args = []
  · exact iff_of_true (.of_refused fun wrong => absurd (congrArg List.length given) wrong)
      (Or.inl given)
  · have wrong : args.length ≠ 0 := fun empty => given (List.length_eq_zero_iff.mp empty)
    exact ⟨fun heeds => Or.inr (heeds.refused wrong),
      fun refused => .of_refused fun _ => refused.resolve_left given⟩

/-- A method heeds its arguments exactly if it goes through a view, or is given none, or is refused
without any; that is all there is to a method that cannot be compiled, or whose view does not exist.
An update or a delete through a view touches only the rows that the view lets through. -/
theorem heeds_iff (args : List Json) (input : Json) :
    let result := (repository.repository.order method.type (.ofRelation relation)
      method.customization).result
    let called := WorkM.outcome (repository.callMethod name args input) workspace
    (∀ fault, result = .error fault →
      called.1 = .error fault ∧ workspace.store.SameRows called.2.store) ∧
    ∀ compiled, result = .ok compiled →
      (∀ label, method.view = some label → relation.schema.views.get? label = none →
        called.1 = .error (.unknownView root label) ∧ workspace.store.SameRows called.2.store) ∧
      (∀ arity, method.arity? relation = some arity →
        (repository.Heeds name arity args input workspace ↔
          method.view ≠ none ∨ args = [] ∨
            Refuses (repository.callMethod name [] input) workspace)) ∧
      ∀ label view, method.view = some label → relation.schema.views.get? label = some view →
        args.length = view.arity → compiled.root.type ≠ .create →
          relation.Touches (view.Meets args) workspace.store called.2.store := by
  intro result called
  refine ⟨fun fault failed => ?_, fun compiled success => ?_⟩
  · obtain ⟨answered, between, same, rows, calls⟩ :=
      outcome_callMethod reached setup made listed declared known
    change answered.map _ = result at same
    rw [failed] at same
    cases answered with
    | ok command => cases same
    | error other =>
      cases same
      have here : called = (.error fault, between) := calls args input
      rw [here]
      exact ⟨rfl, rows⟩
  obtain ⟨bare, rfl, bound⟩ := exists_flat_of_result setup made known success
  subst bound
  refine ⟨fun label through missing => ?_, fun arity takes => ?_,
    fun label view through found given changes => ?_⟩
  · obtain ⟨between, rows, calls⟩ :=
      outcome_callMethod_of_view reached setup made listed declared known through success
    have failed := Relation.view_of_missing missing args
    rw [(setup.relation known).1] at failed
    have here : called = _ := (calls args input).1 _ failed
    rw [here]
    exact ⟨rfl, rows⟩
  · cases through : method.view with
    | none =>
      rw [Method.arity?, through] at takes
      cases takes
      rw [or_iff_right (not_not_intro rfl)]
      exact heeds_iff_of_plain reached setup made listed declared known through args input
    | some label =>
      refine iff_of_true (.of_refused fun wrong => ?_) (Or.inl (by simp))
      obtain ⟨between, rows, calls⟩ :=
        outcome_callMethod_of_view reached setup made listed declared known through success
      rw [Method.arity?, through] at takes
      obtain ⟨view, found, rfl⟩ := Option.map_eq_some_iff.mp takes
      have failed := (Relation.view_of_found found args).trans (if_neg wrong)
      exact ⟨_, between, (calls args input).1 _ failed, rows⟩
  · obtain ⟨between, rows, calls⟩ :=
      outcome_callMethod_of_view reached setup made listed declared known through success
    have applied := (Relation.view_of_found found args).trans (if_pos given)
    rw [(calls args input).2 _ applied]
    have touched : bare.relation.Touches (view.Meets args) between.store _ :=
      (Command.touches_call_restrict changes _ input between.store).imp
        fun row => View.matchesTuple_iff.mp
    exact touched.of_sameRows rows

end Called

end MethodRepository

namespace Sample

/-- Users, who can be seen one by one. -/
def viewed : Schema := (Schema.named "users").withView ⟨"by_id", ["id"], ∅⟩

/-- Users, who can be deleted through a view, or without one. -/
def deleting (view : Option String) : MethodRepository where
  repository := ⟨0, .ofList [("users", leaf viewed)], ⟨catalogOf [viewed], 0⟩⟩
  root := "users"
  methods := .ofList [("delete", ⟨.delete, view, none⟩)]

theorem setUp_viewed : (catalogOf [viewed]).SetUp := ⟨.standard, gateways, [viewed], ∅, rfl⟩

def deletions : Directory :=
  ⟨fun _ => catalogOf [viewed], fun _ => listing, fun _ => (deleting none).repository⟩

theorem listedIn_deletions (view : Option String) : (deleting view).ListedIn deletions := by
  refine ⟨rfl, rfl, fun name method found given custom => ?_⟩
  change (if name = "delete" then some (Method.mk .delete view none) else none) = _ at found
  split at found <;> cases found
  cases custom

def twoUsers : Workspace :=
  { Workspace.empty with
    store := store [("users", [[("id", .ofNat 1)], [("id", .ofNat 2)]])] }

end Sample

open Sample in
theorem MethodRepository.heeds_iff_users :
    ofCompiler 0 ⟨catalogOf [viewed], 0⟩ "users" [⟨.delete, ["by_id"], none⟩] =
      .ok (deleting "by_id") ∧
    let called := WorkM.outcome
      ((deleting "by_id").callMethod "delete" [.ofNat 1] .null) twoUsers
    (deleting "by_id").Heeds "delete" 1 [.ofNat 1] .null twoUsers ∧
      (registered viewed).Touches (View.Meets ⟨"by_id", ["id"], ∅⟩ [.ofNat 1]) twoUsers.store
        called.2.store ∧
      (registered viewed).rows called.2.store = [[("id", .ofNat 2)]] := by
  have made : ofCompiler 0 ⟨catalogOf [viewed], 0⟩ "users" [⟨.delete, ["by_id"], none⟩] =
      .ok (deleting "by_id") := rfl
  have declared : (deleting "by_id").methods.get? "delete" =
      some ⟨.delete, "by_id", none⟩ := rfl
  have known : (catalogOf [viewed]).relation "users" = .ok (registered viewed) := rfl
  obtain ⟨_, all⟩ := heeds_iff (.fresh twoUsers.store 0) setUp_viewed made
    (listedIn_deletions "by_id") declared known [.ofNat 1] .null
  obtain ⟨_, heeds, touches⟩ := all _ rfl
  exact ⟨made, (heeds 1 rfl).mpr (Or.inl (by simp)),
    touches "by_id" _ rfl rfl rfl (by decide), rfl⟩

namespace Sample

/-- A delete without a view takes an argument and removes every row. -/
theorem not_heeds_delete :
    let called := WorkM.outcome ((deleting none).callMethod "delete" [.ofNat 1] .null) twoUsers
    MethodRepository.ofCompiler 0 ⟨catalogOf [viewed], 0⟩ "users" [⟨.delete, [], none⟩] =
        .ok (deleting none) ∧
      (∃ mapped, called.1 = .ok mapped) ∧
      ¬(deleting none).Heeds "delete" 0 [.ofNat 1] .null twoUsers ∧
      (registered viewed).rows called.2.store = [] :=
  ⟨rfl, ⟨_, rfl⟩, fun heeds => absurd (heeds.success _ _ rfl) (by decide), rfl⟩

end Sample

end RelationGraph
