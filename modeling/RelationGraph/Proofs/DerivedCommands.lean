import RelationGraph.Proofs.MethodArguments
import RelationGraph.Proofs.Registrations
import RelationGraph.Proofs.RestrictedWrites
import RelationGraph.Proofs.SingleCommands

set_option autoImplicit false

namespace RelationGraph

open StoreM

theorem Except.ofExcept_bind {α β : Type} (result : Except Fault α) (next : α → Except Fault β) :
    (MonadExcept.ofExcept (result.bind next) : StoreM β) =
      (do MonadExcept.ofExcept (next (← MonadExcept.ofExcept result))) := by
  cases result <;> rfl

namespace Criteria

def mergeAll (given : List Criteria) : Criteria := given.foldr merge ∅

theorem merge_assoc (first second third : Criteria) :
    (first.merge second).merge third = first.merge (second.merge third) :=
  congrArg Criteria.mk (List.append_assoc _ _ _)

theorem matchesTuple_mergeAll (given : List Criteria) (tuple : Tuple) :
    (mergeAll given).matchesTuple tuple = given.all (·.matchesTuple tuple) := by
  induction given with
  | nil => rfl
  | cons criteria rest ih =>
    show (criteria.merge (mergeAll rest)).matchesTuple tuple = _
    rw [matchesTuple_merge, ih, List.all_cons]

theorem matchesTuple_merge_congr {second third : Criteria}
    (same : ∀ tuple, second.matchesTuple tuple = third.matchesTuple tuple) (first : Criteria)
    (tuple : Tuple) :
    (first.merge second).matchesTuple tuple = (first.merge third).matchesTuple tuple := by
  rw [matchesTuple_merge, matchesTuple_merge, same]

end Criteria

namespace Relation

def viewCriteria (relation : Relation) (name : String) (args : List Json) :
    Except Fault Criteria :=
  match relation.schema.views.get? name with
  | none => .error (.unknownView relation.name.relation name)
  | some view => view.criteriaFor args

theorem view_eq (relation : Relation) (name : String) (args : List Json) :
    relation.view name args = (relation.viewCriteria name args).map relation.restrict := by
  unfold view viewCriteria
  cases relation.schema.views.get? name <;> rfl

theorem restrict_restrict (relation : Relation) (first second : Criteria) :
    (relation.restrict first).restrict second = relation.restrict (first.merge second) := by
  simp only [restrict, Criteria.merge_assoc]

theorem restrict_all (relation : Relation) : relation.restrict ∅ = relation := by
  have none : relation.criteria.merge ∅ = relation.criteria :=
    congrArg Criteria.mk (List.append_nil _)
  rw [restrict, none]

end Relation

/-! ### Criteria that hold of the same tuples -/

section Congr

variable {criteria other : Criteria}
  (same : ∀ tuple, criteria.matchesTuple tuple = other.matchesTuple tuple)

include same

theorem Gateway.update_congr (gateway : Gateway) (dataset : String) (changes : Tuple) :
    gateway.update dataset criteria changes = gateway.update dataset other changes := by
  have tests : criteria.matchesTuple = other.matchesTuple := funext same
  simp only [update, Dataset.update, Dataset.fetch, tests]

theorem Gateway.delete_congr (gateway : Gateway) (dataset : String) :
    gateway.delete dataset criteria = gateway.delete dataset other := by
  have tests : criteria.matchesTuple = other.matchesTuple := funext same
  simp only [delete, Dataset.delete, Dataset.fetch, tests]

namespace Command

omit same in
theorem criteria_restrict_none (command : Command) (criteria : Criteria) :
    (command.restrict criteria).criteria none = .ok (command.relation.criteria.merge criteria) := by
  unfold Command.criteria
  split
  · contradiction
  · rfl

/-- A command without a parent does the same under criteria that hold of the same tuples. -/
theorem run_restrict_congr (command : Command) (tuple : Tuple) :
    (command.restrict criteria).run tuple none = (command.restrict other).run tuple none := by
  have merged := Criteria.matchesTuple_merge_congr same command.relation.criteria
  have typed (given : Criteria) : (command.restrict given).type = command.type := rfl
  cases type : command.type with
  | create =>
    simp only [run, typed, type]
    rfl
  | update =>
    have runs (given : Criteria) : (command.restrict given).run tuple none = (do
        let changes ← MonadExcept.ofExcept (command.mapped tuple none)
        command.relation.gateway.update command.name.dataset
          (command.relation.criteria.merge given) changes) := by
      simp only [run, typed, type, criteria_restrict_none]
      rfl
    simp only [runs, Gateway.update_congr merged]
  | delete =>
    have runs (given : Criteria) : (command.restrict given).run tuple none =
        command.relation.gateway.delete command.name.dataset
          (command.relation.criteria.merge given) := by
      simp only [run, typed, type, criteria_restrict_none]
      rfl
    simp only [runs, Gateway.delete_congr merged]

theorem runItem_restrict_congr (command : Command) (item : Json) :
    (command.restrict criteria).runItem item = (command.restrict other).runItem item := by
  simp only [runItem, run_restrict_congr same]

theorem execute_restrict_congr (command : Command) (input : Json) :
    (command.restrict criteria).execute input none =
      (command.restrict other).execute input none := by
  by_cases deletes : command.type = .delete
  · have typed (given : Criteria) : (command.restrict given).type = .delete := deletes
    rw [execute_delete (typed criteria), execute_delete (typed other), run_restrict_congr same]
    rfl
  · have typed (given : Criteria) : (command.restrict given).type ≠ .delete := deletes
    rw [execute_eq_runPayload (typed criteria), execute_eq_runPayload (typed other),
      funext (runItem_restrict_congr same command)]
    rfl

end Command

/-- A tree does the same if its root is narrowed by criteria that hold of the same tuples. -/
theorem CommandTree.call_withRoot_congr (tree : CommandTree) (input : Json) :
    (tree.withRoot (tree.command.restrict criteria)).call input =
      (tree.withRoot (tree.command.restrict other)).call input := by
  have entries (entry : Json) :
      runEntry (tree.command.restrict criteria) tree.nodes none
          (fun payloads row => executeChildren payloads row tree.nodes) entry =
        runEntry (tree.command.restrict other) tree.nodes none
          (fun payloads row => executeChildren payloads row tree.nodes) entry := by
    simp only [runEntry, Command.run_restrict_congr same]
  have executes (payload : Json) :
      (tree.withRoot (tree.command.restrict criteria)).execute none payload =
        (tree.withRoot (tree.command.restrict other)).execute none payload := by
    rw [execute_eq, execute_eq]
    exact congrArg (runPayload (tree.command.restrict other) · payload) (funext entries)
  simp only [call, executes]
  rfl

end Congr

/-! ### Derived commands -/

theorem Command.execute_withOutputs (command : Command) (outputs : List OutputMap)
    (input : Json) :
    { command with outputs := outputs }.execute input none = command.execute input none := by
  by_cases deletes : command.type = .delete
  · have typed : { command with outputs := outputs }.type = .delete := deletes
    rw [execute_delete typed, execute_delete deletes]
    rfl
  · have typed : { command with outputs := outputs }.type ≠ .delete := deletes
    rw [execute_eq_runPayload typed, execute_eq_runPayload deletes]
    rfl

inductive Refinement where
  | view (name : String) (args : List Json)
  | output (map : OutputMap)

namespace Refinement

def views (steps : List Refinement) : List (String × List Json) :=
  steps.filterMap fun
    | .view name args => some (name, args)
    | .output _ => none

def outputs (steps : List Refinement) : List OutputMap :=
  steps.filterMap fun
    | .view _ _ => none
    | .output map => some map

end Refinement

namespace Compiled

def refine (compiled : Compiled) : List Refinement → Except Fault Compiled
  | [] => .ok compiled
  | .view name args :: rest => do (← compiled.view name args).refine rest
  | .output map :: rest => (compiled.andThen map).refine rest

def restrict (compiled : Compiled) (criteria : Criteria) : Compiled :=
  match compiled with
  | .flat command => .flat (command.restrict criteria)
  | .nested command => .nested { command with
      tree := command.tree.withRoot (command.tree.command.restrict criteria) }

def andThenAll (compiled : Compiled) (maps : List OutputMap) : Compiled :=
  match compiled with
  | .flat command => .flat { command with outputs := command.outputs ++ maps }
  | .nested command => .nested { command with outputs := command.outputs ++ maps }

/-- The criteria by which views narrow the root, unless one of them cannot be applied. -/
def viewCriteria (compiled : Compiled) (views : List (String × List Json)) :
    Except Fault (List Criteria) :=
  views.mapM fun (name, args) => compiled.root.relation.viewCriteria name args

theorem view_eq (compiled : Compiled) (name : String) (args : List Json) :
    compiled.view name args =
      (compiled.root.relation.viewCriteria name args).map compiled.restrict := by
  cases compiled with
  | flat command =>
    simp only [view, Command.view, Relation.view_eq, root]
    cases command.relation.viewCriteria name args <;> rfl
  | nested command =>
    simp only [view, NestedCommand.view, Command.view, Relation.view_eq, root]
    cases command.tree.command.relation.viewCriteria name args <;> rfl

/-- What a command is narrowed by before makes no difference to its views. -/
theorem viewCriteria_restrict (compiled : Compiled) (criteria : Criteria)
    (views : List (String × List Json)) :
    (compiled.restrict criteria).viewCriteria views = compiled.viewCriteria views := by
  cases compiled <;> rfl

theorem viewCriteria_andThen (compiled : Compiled) (map : OutputMap)
    (views : List (String × List Json)) :
    (compiled.andThen map).viewCriteria views = compiled.viewCriteria views := by
  cases compiled <;> rfl

theorem restrict_restrict (compiled : Compiled) (first second : Criteria) :
    (compiled.restrict first).restrict second = compiled.restrict (first.merge second) := by
  cases compiled with
  | flat command =>
    simp only [restrict, Command.restrict, Relation.restrict_restrict]
  | nested command =>
    simp only [restrict, CommandTree.withRoot, Command.restrict, Relation.restrict_restrict]

theorem restrict_all (compiled : Compiled) : compiled.restrict ∅ = compiled := by
  cases compiled with
  | flat command => rw [restrict, Command.restrict, Relation.restrict_all]
  | nested command =>
    obtain ⟨⟨key, command, nodes⟩, outputs⟩ := command
    rw [restrict, Command.restrict, Relation.restrict_all]
    rfl

theorem andThenAll_nil (compiled : Compiled) : compiled.andThenAll [] = compiled := by
  cases compiled <;> simp only [andThenAll, List.append_nil]

theorem restrict_andThen (compiled : Compiled) (map : OutputMap) (criteria : Criteria) :
    (compiled.andThen map).restrict criteria = (compiled.restrict criteria).andThen map := by
  cases compiled <;> rfl

theorem andThenAll_andThen (compiled : Compiled) (map : OutputMap) (rest : List OutputMap) :
    (compiled.andThen map).andThenAll rest = compiled.andThenAll (map :: rest) := by
  cases compiled <;>
    simp only [andThenAll, andThen, Command.andThen, NestedCommand.andThen, List.append_assoc,
      List.singleton_append]

/-- Steps come to narrowing the root once, by the criteria of all views, and putting the others
behind the output. They fail as the first view that cannot be applied. -/
theorem refine_eq (compiled : Compiled) (steps : List Refinement) :
    compiled.refine steps = (compiled.viewCriteria (Refinement.views steps)).map fun criteria =>
      (compiled.restrict (Criteria.mergeAll criteria)).andThenAll (Refinement.outputs steps) := by
  induction steps generalizing compiled with
  | nil =>
    show Except.ok compiled = .ok ((compiled.restrict ∅).andThenAll [])
    rw [restrict_all, andThenAll_nil]
  | cons step rest ih =>
    cases step with
    | view name args =>
      have first : compiled.viewCriteria ((name, args) :: Refinement.views rest) = (do
          let criteria ← compiled.root.relation.viewCriteria name args
          return criteria :: (← compiled.viewCriteria (Refinement.views rest))) :=
        List.mapM_cons
      show ((compiled.view name args).bind fun viewed => viewed.refine rest) =
        (compiled.viewCriteria ((name, args) :: Refinement.views rest)).map _
      rw [view_eq, first]
      cases compiled.root.relation.viewCriteria name args with
      | error _ => rfl
      | ok criteria =>
        show (compiled.restrict criteria).refine rest = _
        rw [ih, viewCriteria_restrict]
        cases compiled.viewCriteria (Refinement.views rest) with
        | error _ => rfl
        | ok others =>
          show Except.ok (((compiled.restrict criteria).restrict _).andThenAll _) = _
          rw [restrict_restrict]
          rfl
    | output map =>
      show (compiled.andThen map).refine rest =
        (compiled.viewCriteria (Refinement.views rest)).map fun criteria =>
          (compiled.restrict (Criteria.mergeAll criteria)).andThenAll
            (map :: Refinement.outputs rest)
      rw [ih, viewCriteria_andThen]
      simp only [restrict_andThen, andThenAll_andThen]

theorem call_andThenAll (compiled : Compiled) (maps : List OutputMap) (input : Json) :
    (compiled.andThenAll maps).call input = (do
      let output ← compiled.call input
      MonadExcept.ofExcept (OutputMap.applyAll maps output)) := by
  cases compiled with
  | flat command =>
    show (do
      let output ← { command with outputs := command.outputs ++ maps }.execute input none
      MonadExcept.ofExcept (OutputMap.applyAll (command.outputs ++ maps) output)) = _
    rw [Command.execute_withOutputs]
    simp only [OutputMap.applyAll_append, Except.ofExcept_bind, call, Command.call, bind_assoc]
  | nested command =>
    show (do
      let output ← command.tree.call (.object [(command.tree.key, input)])
      MonadExcept.ofExcept (OutputMap.applyAll (command.outputs ++ maps) output)) = _
    simp only [OutputMap.applyAll_append, Except.ofExcept_bind, call, NestedCommand.call,
      bind_assoc]

theorem call_restrict_congr {criteria other : Criteria}
    (same : ∀ tuple, criteria.matchesTuple tuple = other.matchesTuple tuple)
    (compiled : Compiled) (input : Json) :
    (compiled.restrict criteria).call input = (compiled.restrict other).call input := by
  cases compiled with
  | flat command =>
    simp only [restrict, call, Command.call, Command.execute_restrict_congr same]
    rfl
  | nested command =>
    simp only [restrict, call, NestedCommand.call, CommandTree.withRoot]
    have called := CommandTree.call_withRoot_congr same command.tree
      (.object [(command.tree.key, input)])
    simp only [CommandTree.withRoot] at called
    rw [called]

end Compiled

/-! ### Derived commands in a workspace -/

/-- The command that is derived by some steps, each a command of its own. -/
def CompiledInstance.refine (command : CompiledInstance) :
    List Refinement → WorkM CompiledInstance
  | [] => return command
  | .view name args :: rest => do (← command.view name args).refine rest
  | .output map :: rest => do
    refine ⟨← WorkM.fresh, command.compiled.andThen map⟩ rest

/-- In a workspace steps take new identities and change nothing else, and yield what they yield. -/
theorem CompiledInstance.outcome_refine (command : CompiledInstance) (steps : List Refinement)
    (workspace : Workspace) :
    ∃ id, (WorkM.outcome (command.refine steps) workspace).2 =
        { workspace with nextId := id } ∧
      (WorkM.outcome (command.refine steps) workspace).1.map (·.compiled) =
        command.compiled.refine steps := by
  induction steps generalizing command workspace with
  | nil => exact ⟨workspace.nextId, rfl, rfl⟩
  | cons step rest ih =>
    cases step with
    | view name args =>
      cases viewed : command.compiled.view name args with
      | error error =>
        rw [refine, WorkM.outcome_bind_of_error (outcome_view_of_error viewed workspace),
          Compiled.refine, viewed]
        exact ⟨workspace.nextId, rfl, rfl⟩
      | ok compiled =>
        rw [refine, WorkM.outcome_bind_of_ok (outcome_view_of_ok viewed workspace),
          Compiled.refine, viewed]
        exact ih _ _
    | output map =>
      have taken : WorkM.outcome WorkM.fresh workspace =
          (.ok workspace.nextId, { workspace with nextId := workspace.nextId + 1 }) := rfl
      rw [refine, WorkM.outcome_bind_of_ok taken]
      exact ih _ _

namespace Directory

/-- A workspace that is led to by deriving commands, calling commands and putting requests, in any
order. -/
inductive LeadsOn (directory : Directory) (start : Workspace) : Workspace → Prop
  | refl : LeadsOn directory start start
  | derived {workspace : Workspace} (earlier : LeadsOn directory start workspace)
      (command : CompiledInstance) (steps : List Refinement) :
      LeadsOn directory start (WorkM.outcome (command.refine steps) workspace).2
  | called {workspace : Workspace} (earlier : LeadsOn directory start workspace)
      (command : CompiledInstance) (input : Json) :
      LeadsOn directory start
        (WorkM.outcome (WorkM.ofStore (command.compiled.call input)) workspace).2
  | asked {workspace : Workspace} (earlier : LeadsOn directory start workspace)
      {inquiry : Inquiry} (listed : directory.Lists inquiry) :
      LeadsOn directory start (inquiry.event workspace).after

variable {directory : Directory} {start workspace : Workspace}

theorem LeadsOn.reached (leads : directory.LeadsOn start workspace)
    (reached : directory.Reached start) : directory.Reached workspace := by
  induction leads with
  | refl => exact reached
  | derived _ command steps ih =>
    obtain ⟨id, after, _⟩ := command.outcome_refine steps _
    rw [after]
    exact ih.written _ id
  | called _ command input ih => exact ih.written _ _
  | asked _ listed ih => exact ih.answered listed

theorem LeadsOn.held (leads : directory.LeadsOn start workspace)
    (reached : directory.Reached start) {cache : Nat} {key : RequestKey} {found : CompiledInstance}
    (there : start.compiled? cache key = some found) :
    workspace.compiled? cache key = some found := by
  induction leads with
  | refl => exact there
  | derived _ command steps ih =>
    obtain ⟨id, after, _⟩ := command.outcome_refine steps _
    rw [after]
    exact ih
  | called _ command input ih => exact ih
  | @asked workspace earlier inquiry listed ih =>
    unfold Inquiry.event
    cases ordered : inquiry.order with
    | error error =>
      rw [Inquiry.outcome_of_refused ordered]
      exact ih
    | ok order =>
      obtain ⟨after, ran, shelved, _⟩ :=
        Inquiry.outcome_of_order listed (earlier.reached reached).sound.1 ordered
      rw [ran]
      show after.shelf.compiled? cache key = some found
      rw [shelved]
      exact Order.compiled?_serve ih

/-- A request that was answered is answered the same later on, through a cache with the very same
command. -/
theorem LeadsOn.answer (reached : directory.Reached start) {inquiry : Inquiry}
    (listed : directory.Lists inquiry) {answer : Answer}
    (answered : (inquiry.event start).answer = .ok answer)
    (leads : directory.LeadsOn (inquiry.event start).after workspace) :
    (inquiry.event workspace).answer.map Answer.content = .ok answer.content ∧
      (inquiry.compiler.catalog.settings.cacheCommands = true →
        (inquiry.event workspace).answer = .ok answer) := by
  obtain ⟨keeps, faithful⟩ := reached.sound
  have between := reached.answered listed
  obtain ⟨keepsLater, faithfulLater⟩ := (leads.reached between).sound
  have before := (Inquiry.content_eq_alone listed keeps faithful).1
  have after := (Inquiry.content_eq_alone listed keepsLater faithfulLater).1
  refine ⟨?_, fun caching => ?_⟩
  · rw [after, ← before, answered]
    rfl
  · obtain ⟨order, ordered, _, layouts⟩ :=
      Inquiry.exists_order_of_answered listed keeps faithful answered
    have through : inquiry.Through directory inquiry.compiler.cache := ⟨listed, rfl, caching⟩
    have success : (inquiry.event start).success? = some (order.key, answer.command) := by
      have asked : (inquiry.event start).inquiry = inquiry := rfl
      rw [Event.success?, asked, ordered, answered]
    have held := (through.course keeps).1.held_of_success success
    have there := leads.held between held
    have same : order.compiler = inquiry.compiler := by
      obtain ⟨type, _, made⟩ := Except.bind_eq_ok.mp ordered
      cases made
      rfl
    have looked : order.found? workspace.shelf = some answer.command := by
      rw [Order.found?, Order.caches, same, if_pos caching]
      exact there
    obtain ⟨_, ran, _⟩ := Inquiry.outcome_of_order listed keepsLater ordered
    rw [Order.serve_of_found looked] at ran
    unfold Inquiry.event
    rw [ran, ← layouts]
    rfl

end Directory

namespace Compiled

/-- Steps by which a command is derived succeed if every view can be applied to its root. Calling
what they yield does what calling the command does with the root narrowed by any criteria that hold
where those of all views do, and then passes on the output, in the order of the steps; views and
other steps can be put in any order among each other. Whatever is derived from it and called,
the command that is answered to a request is answered to it later on, and the same one if it is
shared through a cache. -/
theorem call_refine (compiled : Compiled) (steps : List Refinement) :
    ((∃ refined, compiled.refine steps = .ok refined) ↔
      ∀ view ∈ Refinement.views steps, ∃ criteria,
        compiled.root.relation.viewCriteria view.1 view.2 = .ok criteria) ∧
    (∀ refined, compiled.refine steps = .ok refined →
      ∃ criteria : List Criteria,
        List.Forall₂ (fun view given =>
          compiled.root.relation.viewCriteria view.1 view.2 = .ok given)
          (Refinement.views steps) criteria ∧
        ∀ all : Criteria,
          (∀ tuple, all.matchesTuple tuple = criteria.all (·.matchesTuple tuple)) →
            ∀ input, refined.call input = (do
              let output ← (compiled.restrict all).call input
              MonadExcept.ofExcept
                (OutputMap.applyAll (Refinement.outputs steps) output))) ∧
    (∀ other, Refinement.views other = Refinement.views steps →
      Refinement.outputs other = Refinement.outputs steps →
        compiled.refine other = compiled.refine steps) ∧
    ∀ (directory : Directory) (start later : Workspace) (inquiry : Inquiry) (answer : Answer),
      directory.Reached start → directory.Lists inquiry →
        (inquiry.event start).answer = .ok answer → answer.command.compiled = compiled →
          directory.LeadsOn (inquiry.event start).after later →
            (∃ again, (inquiry.event later).answer = .ok again ∧
              again.command.compiled = compiled) ∧
            (inquiry.compiler.catalog.settings.cacheCommands = true →
              (inquiry.event later).answer = .ok answer) := by
  have known : ∀ views, (∃ criteria, compiled.viewCriteria views = .ok criteria) ↔
      ∀ view ∈ views, ∃ criteria,
        compiled.root.relation.viewCriteria view.1 view.2 = .ok criteria := fun views =>
    Except.exists_mapM_iff
  refine ⟨?_, ?_, ?_, ?_⟩
  · rw [← known, refine_eq]
    cases compiled.viewCriteria (Refinement.views steps) with
    | error _ => exact ⟨fun ⟨_, impossible⟩ => (by cases impossible),
        fun ⟨_, impossible⟩ => (by cases impossible)⟩
    | ok criteria => exact ⟨fun _ => ⟨criteria, rfl⟩, fun _ => ⟨_, rfl⟩⟩
  · intro refined success
    rw [refine_eq] at success
    cases viewed : compiled.viewCriteria (Refinement.views steps) with
    | error _ =>
      rw [viewed] at success
      cases success
    | ok criteria =>
      rw [viewed] at success
      cases success
      refine ⟨criteria, Except.mapM_eq_ok.mp viewed, fun all holds input => ?_⟩
      rw [call_andThenAll, call_restrict_congr (fun tuple => ?_) compiled]
      rw [Criteria.matchesTuple_mergeAll, holds]
  · intro other views outputs
    rw [refine_eq, refine_eq, views, outputs]
  · rintro directory start later inquiry answer reached listed answered rfl leads
    obtain ⟨content, shared⟩ := leads.answer reached listed answered
    refine ⟨?_, shared⟩
    cases again : (inquiry.event later).answer with
    | error _ =>
      rw [again] at content
      cases content
    | ok answer =>
      rw [again] at content
      exact ⟨answer, rfl, congrArg Prod.fst (Except.ok.inj content)⟩

end Compiled

open Sample in
/-- A command that removes users is narrowed to one, between two steps behind its output, and is
answered with afterwards as before. -/
theorem Compiled.call_refine_viewed :
    let inquiry : Inquiry :=
      .compile ⟨catalogOf [viewed], 0⟩ "delete" "memory" (leaf viewed).toPlan none
    let removal : Compiled :=
      .flat (CompileRequest.commandFor ⟨catalogOf [viewed], .delete, "memory", none⟩ 0
        (leaf viewed))
    let steps : List Refinement :=
      [.output (.pluck "id"), .view "by_id" [.ofNat 1], .output (.wrap "removed")]
    ∃ refined, (inquiry.event twoUsers).answer = .ok ⟨⟨0, removal⟩, none⟩ ∧
      removal.refine steps = .ok refined ∧
      (outcome (refined.call .null) twoUsers.store).1 = .ok (.object [("removed", .ofNat 1)]) ∧
      (∀ input, refined.call input = (do
        let output ← (removal.restrict ((∅ : Criteria).whereEq "id" (.ofNat 1))).call input
        MonadExcept.ofExcept (OutputMap.applyAll [.pluck "id", .wrap "removed"] output))) ∧
      (inquiry.event (WorkM.outcome (CompiledInstance.refine ⟨0, removal⟩ steps)
        (inquiry.event twoUsers).after).2).answer = .ok ⟨⟨0, removal⟩, none⟩ := by
  intro inquiry removal steps
  have unnamed : ∀ given ∈ (none : Option Customization),
      deletions.customizations given.id = given := fun _ given => (by cases given)
  have listed : deletions.Lists inquiry := Directory.lists_compile rfl unnamed _ _ _
  have answered : (inquiry.event twoUsers).answer = .ok ⟨⟨0, removal⟩, none⟩ := rfl
  obtain ⟨_, calls, _, answers⟩ := call_refine removal steps
  obtain ⟨criteria, given, called⟩ := calls _ rfl
  obtain ⟨_, shared⟩ := answers deletions twoUsers _ inquiry _ (.fresh twoUsers.store 0) listed
    answered rfl (.derived .refl ⟨0, removal⟩ steps)
  refine ⟨_, answered, rfl, rfl, called _ fun tuple => ?_, shared rfl⟩
  cases given with
  | cons first rest =>
    cases first
    cases rest
    exact (Bool.and_true _).symm

end RelationGraph
