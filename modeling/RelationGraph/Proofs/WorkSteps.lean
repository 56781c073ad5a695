import RelationGraph.Compiler
import RelationGraph.Repository.Basic
import RelationGraph.Proofs.CompiledPlans

/-!
Steps in a workspace, and what a compiler does in one.

A compiler reads and writes its cache, the store and the next identity. Seen on a shelf, which is a
workspace without counts and without what repositories keep, it finds a command on the shelf or puts
a new one there.
-/

set_option autoImplicit false

namespace RelationGraph

namespace WorkM

variable {α β : Type}

/-- What a step yields in a workspace, and the workspace that it leaves. -/
def outcome (act : WorkM α) (workspace : Workspace) : Except Fault α × Workspace :=
  act.run.run workspace

@[simp] theorem outcome_pure (value : α) (workspace : Workspace) :
    outcome (pure value) workspace = (.ok value, workspace) := rfl

@[simp] theorem outcome_ofExcept (result : Except Fault α) (workspace : Workspace) :
    outcome (MonadExcept.ofExcept result) workspace = (result, workspace) := by
  cases result <;> rfl

theorem outcome_bind (act : WorkM α) (next : α → WorkM β) (workspace : Workspace) :
    outcome (act >>= next) workspace =
      match outcome act workspace with
      | (.ok value, after) => outcome (next value) after
      | (.error error, after) => (.error error, after) := by
  rw [outcome, ExceptT.run_run_bind, outcome]
  rcases act.run.run workspace with ⟨_ | _, _⟩ <;> rfl

theorem outcome_bind_of_ok {act : WorkM α} {next : α → WorkM β} {workspace after : Workspace}
    {value : α} (success : outcome act workspace = (.ok value, after)) :
    outcome (act >>= next) workspace = outcome (next value) after := by
  rw [outcome_bind, success]

theorem outcome_bind_of_error {act : WorkM α} {next : α → WorkM β}
    {workspace after : Workspace} {error : Fault}
    (failed : outcome act workspace = (.error error, after)) :
    outcome (act >>= next) workspace = (.error error, after) := by
  rw [outcome_bind, failed]

theorem outcome_bind_pure {act : WorkM α} {workspace after : Workspace}
    {result : Except Fault α} (ran : outcome act workspace = (result, after)) (make : α → β) :
    outcome (do return make (← act)) workspace = (result.map make, after) := by
  rw [outcome_bind, ran]
  cases result <;> rfl

theorem outcome_get_bind (next : Workspace → WorkM β) (workspace : Workspace) :
    outcome (get >>= next) workspace = outcome (next workspace) workspace := rfl

theorem outcome_ofStore (act : StoreM α) (workspace : Workspace) :
    outcome (ofStore act) workspace =
      ((StoreM.outcome act workspace.store).1,
        { workspace with store := (StoreM.outcome act workspace.store).2 }) := rfl

theorem outcome_attempt (act : WorkM α) (workspace : Workspace) :
    outcome (attempt act) workspace =
      (.ok (outcome act workspace).1, (outcome act workspace).2) := rfl

section Cached

variable {κ υ : Type} [DecidableEq κ] {cache : Workspace → OnceCache κ υ}
  {write : Workspace → OnceCache κ υ → Workspace} {key : κ} {compute : WorkM υ}
  {workspace after : Workspace}

theorem outcome_request (missing : (cache workspace).get? key = none) {result : Except Fault υ}
    (ran : outcome compute workspace = (result, after)) :
    outcome ((cache workspace).request key (attempt compute)) workspace =
      (.ok (result, match result with
        | .ok value => ((cache workspace).opened key).filled key value
        | .error _ => ((cache workspace).opened key).abandoned key), after) := by
  rw [OnceCache.request, OnceCache.get?_opened, missing]
  have attempted := outcome_attempt compute workspace
  rw [ran] at attempted
  dsimp only
  rw [outcome_bind_of_ok attempted]
  cases result <;> rfl

/-- The cache that a request hands back is written, however the request has ended. -/
theorem outcome_getOrCompute {result : Except Fault υ} {kept : OnceCache κ υ}
    (answered : outcome ((cache workspace).request key (attempt compute)) workspace =
      (.ok (result, kept), after)) :
    outcome (getOrCompute cache write key compute) workspace = (result, write after kept) := by
  rw [getOrCompute, outcome_get_bind, outcome_bind_of_ok answered]
  cases result <;> rfl

theorem outcome_getOrCompute_of_found {value : υ}
    (found : (cache workspace).get? key = some value) :
    outcome (getOrCompute cache write key compute) workspace =
      (.ok value, write workspace ((cache workspace).opened key).countHit) := by
  apply outcome_getOrCompute
  rw [OnceCache.request, OnceCache.get?_opened, found]
  rfl

theorem outcome_getOrCompute_of_ok (missing : (cache workspace).get? key = none) {value : υ}
    (success : outcome compute workspace = (.ok value, after)) :
    outcome (getOrCompute cache write key compute) workspace =
      (.ok value, write after (((cache workspace).opened key).filled key value)) :=
  outcome_getOrCompute (outcome_request missing success)

theorem outcome_getOrCompute_of_error (missing : (cache workspace).get? key = none)
    {error : Fault} (failed : outcome compute workspace = (.error error, after)) :
    outcome (getOrCompute cache write key compute) workspace =
      (.error error, write after (((cache workspace).opened key).abandoned key)) :=
  outcome_getOrCompute (outcome_request missing failed)

end Cached

end WorkM

namespace Workspace

def compiled? (workspace : Workspace) (cache : Nat) (key : RequestKey) : Option CompiledInstance :=
  (workspace.cache cache).get? key

def kept? (workspace : Workspace) (repository : Nat) (key : RepositoryKey) :
    Option MappedCommand :=
  (workspace.memory repository).commands.get? key

def layout? (workspace : Workspace) (repository : Nat) (plan : Plan) : Option StructLayout :=
  Entries.get? plan (workspace.memory repository).layouts.entries

theorem compiled?_withCache (workspace : Workspace) (cache other : Nat) (content : CommandCache)
    (key : RequestKey) :
    (workspace.withCache cache content).compiled? other key =
      if other = cache then content.get? key else workspace.compiled? other key := by
  rw [compiled?, Workspace.cache, withCache, SortedMap.get?_insert]
  split <;> rfl

theorem memory_withMemory (workspace : Workspace) (repository other : Nat)
    (memory : RepositoryMemory) :
    (workspace.withMemory repository memory).memory other =
      if other = repository then memory else workspace.memory other := by
  rw [Workspace.memory, withMemory, SortedMap.get?_insert]
  split <;> rfl

end Workspace

/-- What compilers read and change, but for counts. -/
structure Shelf where
  store : Store
  compiled? : Nat → RequestKey → Option CompiledInstance
  nextId : Nat

def Workspace.shelf (workspace : Workspace) : Shelf :=
  ⟨workspace.store, workspace.compiled?, workspace.nextId⟩

def Shelf.put (shelf : Shelf) (cache : Nat) (key : RequestKey) (made : CompiledInstance) :
    Shelf :=
  { shelf with
    compiled? := fun other label =>
      if other = cache ∧ label = key then some made else shelf.compiled? other label }

theorem Shelf.compiled?_put (shelf : Shelf) (cache other : Nat) (key label : RequestKey)
    (made : CompiledInstance) :
    (shelf.put cache key made).compiled? other label =
      if other = cache ∧ label = key then some made else shelf.compiled? other label := rfl

theorem Shelf.compiled?_put_same (shelf : Shelf) (cache : Nat) (key label : RequestKey)
    (made : CompiledInstance) :
    (shelf.put cache key made).compiled? cache label =
      if label = key then some made else shelf.compiled? cache label := by
  rw [compiled?_put]
  simp

structure Order where
  compiler : Compiler
  type : CommandType
  adapter : String
  plan : Plan
  customization : Option Customization

namespace Order

def request (order : Order) : CompileRequest :=
  ⟨order.compiler.catalog, order.type, order.adapter, order.customization⟩

def key (order : Order) : RequestKey :=
  ⟨order.compiler.catalog.id, order.type, order.adapter, order.plan,
    order.customization.map (·.id)⟩

def result (order : Order) : Except Fault Compiled := order.request.result order.plan

def registered (order : Order) (store : Store) : Store :=
  (StoreM.outcome (order.request.run order.plan) store).2

/-- Whether the settings allow to look into the cache. -/
def caches (order : Order) : Bool := order.compiler.catalog.settings.cacheCommands

def found? (order : Order) (shelf : Shelf) : Option CompiledInstance :=
  if order.caches then shelf.compiled? order.compiler.cache order.key else none

/-- The command for the request, from the shelf or else a new one, and the shelf afterwards. -/
def serve (order : Order) (shelf : Shelf) : Except Fault CompiledInstance × Shelf :=
  match order.found? shelf with
  | some found => (.ok found, shelf)
  | none =>
    match order.result with
    | .ok compiled =>
      let made : CompiledInstance := ⟨shelf.nextId, compiled⟩
      let after : Shelf :=
        { shelf with store := order.registered shelf.store, nextId := shelf.nextId + 1 }
      (.ok made, if order.caches then after.put order.compiler.cache order.key made else after)
    | .error error => (.error error, { shelf with store := order.registered shelf.store })

theorem serve_of_found {order : Order} {shelf : Shelf} {found : CompiledInstance}
    (there : order.found? shelf = some found) : order.serve shelf = (.ok found, shelf) := by
  rw [serve, there]

theorem serve_of_ok {order : Order} {shelf : Shelf} {compiled : Compiled}
    (missing : order.found? shelf = none) (success : order.result = .ok compiled) :
    order.serve shelf =
      (.ok ⟨shelf.nextId, compiled⟩,
        let after : Shelf :=
          { shelf with store := order.registered shelf.store, nextId := shelf.nextId + 1 }
        if order.caches then
          after.put order.compiler.cache order.key ⟨shelf.nextId, compiled⟩
        else after) := by
  rw [serve, missing, success]

theorem serve_of_error {order : Order} {shelf : Shelf} {error : Fault}
    (missing : order.found? shelf = none) (failed : order.result = .error error) :
    order.serve shelf = (.error error, { shelf with store := order.registered shelf.store }) := by
  rw [serve, missing, failed]

def anew (order : Order) : WorkM CompiledInstance :=
  order.compiler.compileAnew order.type order.adapter order.plan order.customization

def run (order : Order) : WorkM CompiledInstance :=
  order.compiler.compileType order.type order.adapter order.plan order.customization

variable {order : Order} {workspace after : Workspace}

theorem outcome_ofStore_run (order : Order) (workspace : Workspace) :
    WorkM.outcome (WorkM.ofStore (order.request.run order.plan)) workspace =
      (order.result, { workspace with store := order.registered workspace.store }) := by
  obtain ⟨gateways, ran, _⟩ := order.request.outcome_run order.plan
  rw [WorkM.outcome_ofStore, registered, ran]
  rfl

theorem outcome_anew_of_ok {compiled : Compiled} (success : order.result = .ok compiled)
    (workspace : Workspace) :
    WorkM.outcome order.anew workspace =
      (.ok ⟨workspace.nextId, compiled⟩, { workspace with
        store := order.registered workspace.store
        nextId := workspace.nextId + 1 }) := by
  have ran := order.outcome_ofStore_run workspace
  rw [success] at ran
  exact WorkM.outcome_bind_of_ok ran

theorem outcome_anew_of_error {error : Fault} (failed : order.result = .error error)
    (workspace : Workspace) :
    WorkM.outcome order.anew workspace =
      (.error error, { workspace with store := order.registered workspace.store }) := by
  have ran := order.outcome_ofStore_run workspace
  rw [failed] at ran
  exact WorkM.outcome_bind_of_error ran

theorem run_of_uncached (off : order.caches = false) : order.run = order.anew :=
  if_neg (ne_true_of_eq_false off)

theorem run_of_cached (on : order.caches = true) :
    order.run = WorkM.getOrCompute (·.cache order.compiler.cache)
      (·.withCache order.compiler.cache ·) order.key order.anew := if_pos on

theorem outcome_run_of_found (on : order.caches = true) {found : CompiledInstance}
    (there : workspace.compiled? order.compiler.cache order.key = some found) :
    WorkM.outcome order.run workspace =
      (.ok found,
        workspace.withCache order.compiler.cache
          ((workspace.cache order.compiler.cache).opened order.key).countHit) := by
  rw [run_of_cached on]
  exact WorkM.outcome_getOrCompute_of_found there

theorem outcome_run_of_ok (on : order.caches = true)
    (missing : workspace.compiled? order.compiler.cache order.key = none)
    {made : CompiledInstance} (success : WorkM.outcome order.anew workspace = (.ok made, after)) :
    WorkM.outcome order.run workspace =
      (.ok made,
        after.withCache order.compiler.cache
          (((workspace.cache order.compiler.cache).opened order.key).filled order.key made)) := by
  rw [run_of_cached on]
  refine WorkM.outcome_getOrCompute_of_ok ?_ success
  exact missing

theorem outcome_run_of_error (on : order.caches = true)
    (missing : workspace.compiled? order.compiler.cache order.key = none) {error : Fault}
    (failed : WorkM.outcome order.anew workspace = (.error error, after)) :
    WorkM.outcome order.run workspace =
      (.error error,
        after.withCache order.compiler.cache
          (((workspace.cache order.compiler.cache).opened order.key).abandoned order.key)) := by
  rw [run_of_cached on]
  refine WorkM.outcome_getOrCompute_of_error ?_ failed
  exact missing

end Order

namespace Workspace

theorem shelf_withCache {workspace : Workspace} {cache : Nat} {content : CommandCache}
    (same : ∀ key, content.get? key = (workspace.cache cache).get? key) :
    (workspace.withCache cache content).shelf = workspace.shelf := by
  have shown : (workspace.withCache cache content).compiled? = workspace.compiled? := by
    funext other key
    rw [compiled?_withCache, same]
    split
    · rename_i here
      rw [here]
      rfl
    · rfl
  rw [shelf, shown]
  rfl

theorem shelf_withCache_filled (workspace : Workspace) (cache : Nat) (key : RequestKey)
    (made : CompiledInstance) :
    (workspace.withCache cache (((workspace.cache cache).opened key).filled key made)).shelf =
      workspace.shelf.put cache key made := by
  have shown : (workspace.withCache cache
      (((workspace.cache cache).opened key).filled key made)).compiled? =
      (workspace.shelf.put cache key made).compiled? := by
    funext other label
    rw [compiled?_withCache, OnceCache.get?_filled, OnceCache.get?_opened, Shelf.put]
    by_cases here : other = cache
    · by_cases same : label = key <;> simp [here, same, shelf, compiled?]
    · simp [here, shelf]
  rw [shelf, shown]
  rfl

end Workspace

namespace Order

/-- A compiler serves a request from the shelf, and does not touch what repositories keep. -/
theorem outcome_run (order : Order) (workspace : Workspace) :
    ∃ after, WorkM.outcome order.run workspace = ((order.serve workspace.shelf).1, after) ∧
      after.shelf = (order.serve workspace.shelf).2 ∧
      after.repositories = workspace.repositories := by
  cases caching : order.caches with
  | false =>
    have missing : order.found? workspace.shelf = none := by simp [found?, caching]
    rw [run_of_uncached caching]
    cases made : order.result with
    | error error =>
      rw [serve_of_error missing made, outcome_anew_of_error made]
      exact ⟨_, rfl, rfl, rfl⟩
    | ok compiled =>
      rw [serve_of_ok missing made, outcome_anew_of_ok made, caching]
      exact ⟨_, rfl, rfl, rfl⟩
  | true =>
    have looked : order.found? workspace.shelf =
        workspace.compiled? order.compiler.cache order.key := by
      simp [found?, caching, Workspace.shelf]
    cases there : workspace.compiled? order.compiler.cache order.key with
    | some found =>
      rw [serve_of_found (looked.trans there), outcome_run_of_found caching there]
      exact ⟨_, rfl, Workspace.shelf_withCache fun key => OnceCache.get?_opened _ _ key, rfl⟩
    | none =>
      have missing := looked.trans there
      cases made : order.result with
      | error error =>
        rw [serve_of_error missing made,
          outcome_run_of_error caching there (outcome_anew_of_error made workspace)]
        refine ⟨_, rfl, Workspace.shelf_withCache fun key => ?_, rfl⟩
        rw [OnceCache.get?_abandoned, OnceCache.get?_opened]
        rfl
      | ok compiled =>
        rw [serve_of_ok missing made, caching,
          outcome_run_of_ok caching there (outcome_anew_of_ok made workspace)]
        exact ⟨_, rfl, Workspace.shelf_withCache_filled _ _ _ _, rfl⟩

end Order

end RelationGraph
