import Mathlib.Algebra.BigOperators.Group.Finset.Basic
import RelationGraph.Proofs.Inquiries

set_option autoImplicit false

namespace RelationGraph

/-- How many relations of a plan are bound to a gateway. -/
def Catalog.bound (catalog : Catalog) (gateway : Nat) (plan : Plan) : Nat :=
  (plan.bases.map catalog.gatewayOf?).count (some gateway)

/-- Where compiling succeeds, a gateway has configured one template for each of its relations. -/
theorem Order.registrations_registered {order : Order} {compiled : Compiled}
    (success : order.result = .ok compiled) (store : Store) (gateway : Nat) :
    (order.registered store).registrations gateway =
      store.registrations gateway + order.compiler.catalog.bound gateway order.plan := by
  obtain ⟨gateways, ran, holds⟩ := order.request.outcome_run order.plan
  obtain ⟨_, asked⟩ := holds compiled success
  have counts : gateways.count gateway = order.compiler.catalog.bound gateway order.plan := by
    have mapped := congrArg (List.count (some gateway)) asked
    rwa [List.count_map_of_injective _ _ (Option.some_injective Nat)] at mapped
  rw [registered, ran, Store.registrations_registerAll, counts]

def Shelf.lacks (shelf : Shelf) (cache : Nat) (key : RequestKey) : Bool :=
  (shelf.compiled? cache key).isNone

namespace Event

/-- The request and the command of a request that is answered with one. -/
def success? (event : Event) : Option (RequestKey × CompiledInstance) :=
  match event.inquiry.order, event.answer with
  | .ok order, .ok answer => some (order.key, answer.command)
  | _, _ => none

/-- How many templates a gateway configures for a request. -/
def calls (event : Event) (gateway : Nat) : Nat :=
  event.after.store.registrations gateway - event.before.store.registrations gateway

/-- What a request through a cache can come to. -/
inductive Course (directory : Directory) (cache : Nat) (event : Event) : Prop
  | fails (none : event.success? = none)
      (held : event.after.shelf.compiled? = event.before.shelf.compiled?)
      (ids : event.after.nextId = event.before.nextId)
  | finds (key : RequestKey) (found : CompiledInstance)
      (success : event.success? = some (key, found))
      (there : event.before.shelf.compiled? cache key = some found)
      (same : event.after.shelf = event.before.shelf)
  | makes (key : RequestKey) (compiled : Compiled)
      (success : event.success? = some (key, ⟨event.before.nextId, compiled⟩))
      (missing : event.before.shelf.compiled? cache key = none)
      (held : event.after.shelf.compiled? =
        (event.before.shelf.put cache key ⟨event.before.nextId, compiled⟩).compiled?)
      (ids : event.after.nextId = event.before.nextId + 1)
      (registrations : ∀ gateway, event.after.store.registrations gateway =
        event.before.store.registrations gateway +
          (directory.catalogs key.catalog).bound gateway key.plan)

end Event

namespace Inquiry

variable {directory : Directory} {cache : Nat} {inquiry : Inquiry} {workspace : Workspace}

theorem key_catalog (listed : directory.Lists inquiry) {order : Order}
    (ordered : inquiry.order = .ok order) :
    directory.catalogs order.key.catalog = order.compiler.catalog := by
  obtain ⟨type, _, made⟩ := Except.bind_eq_ok.mp ordered
  cases made
  exact listed.catalog

/-- A request that is to be looked up in a cache. -/
structure Through (directory : Directory) (cache : Nat) (inquiry : Inquiry) : Prop where
  listed : directory.Lists inquiry
  shared : inquiry.compiler.cache = cache
  caching : inquiry.compiler.catalog.settings.cacheCommands = true

/-- A request through a cache fails, finds its command or makes it. -/
theorem Through.course (through : inquiry.Through directory cache)
    (keeps : directory.Keeps workspace) :
    (inquiry.event workspace).Course directory cache ∧
      directory.Keeps (inquiry.event workspace).after := by
  obtain ⟨listed, shared, caching⟩ := through
  generalize given : inquiry.event workspace = event
  unfold Inquiry.event at given
  cases ordered : inquiry.order with
  | error error =>
    rw [outcome_of_refused ordered] at given
    subst given
    exact ⟨.fails (by rw [Event.success?, ordered]) rfl rfl, keeps⟩
  | ok order =>
    have compilers : order.compiler = inquiry.compiler := by
      obtain ⟨type, _, made⟩ := Except.bind_eq_ok.mp ordered
      cases made
      rfl
    have caches : order.caches = true := by rw [Order.caches, compilers, caching]
    have looked : order.found? workspace.shelf = workspace.shelf.compiled? cache order.key := by
      rw [Order.found?, if_pos caches, compilers, shared]
    obtain ⟨after, ran, shelved, kept⟩ := outcome_of_order listed keeps ordered
    rw [ran] at given
    subst given
    refine ⟨?_, kept⟩
    cases there : workspace.shelf.compiled? cache order.key with
    | some found =>
      have served := Order.serve_of_found (looked.trans there)
      rw [served] at shelved ⊢
      exact .finds order.key found (by rw [Event.success?, ordered]; rfl) there shelved
    | none =>
      cases made : order.result with
      | error error =>
        have served := Order.serve_of_error (looked.trans there) made
        rw [served] at shelved ⊢
        have held : after.compiled? = workspace.compiled? := congrArg Shelf.compiled? shelved
        have ids : after.nextId = workspace.nextId := congrArg Shelf.nextId shelved
        exact .fails (by rw [Event.success?, ordered]; rfl) held ids
      | ok compiled =>
        have served := Order.serve_of_ok (looked.trans there) made
        rw [if_pos caches, compilers, shared] at served
        rw [served] at shelved ⊢
        have held : after.compiled? = (workspace.shelf.put cache order.key
            ⟨workspace.nextId, compiled⟩).compiled? := congrArg Shelf.compiled? shelved
        have ids : after.nextId = workspace.nextId + 1 := congrArg Shelf.nextId shelved
        have stored : after.store = order.registered workspace.store :=
          congrArg Shelf.store shelved
        refine .makes order.key compiled (by rw [Event.success?, ordered]; rfl) there held ids
          fun gateway => ?_
        dsimp only
        rw [stored, order.registrations_registered made, key_catalog listed ordered]
        rfl

end Inquiry

namespace Event

variable {directory : Directory} {cache : Nat} {event : Event}

theorem Course.held_after (course : event.Course directory cache) {key : RequestKey}
    {found : CompiledInstance} (there : event.before.shelf.compiled? cache key = some found) :
    event.after.shelf.compiled? cache key = some found := by
  cases course with
  | fails _ held _ => rwa [held]
  | finds _ _ _ _ same => rwa [same]
  | makes other _ _ missing held _ _ =>
    rw [held, Shelf.compiled?_put_same, if_neg]
    · exact there
    · rintro rfl
      rw [missing] at there
      cases there

theorem Course.held_of_success (course : event.Course directory cache) {key : RequestKey}
    {command : CompiledInstance} (success : event.success? = some (key, command)) :
    event.after.shelf.compiled? cache key = some command := by
  cases course with
  | fails none _ _ =>
    rw [none] at success
    cases success
  | finds _ _ found there same =>
    rw [found] at success
    cases success
    rwa [same]
  | makes _ _ made _ held _ _ =>
    rw [made] at success
    cases success
    rw [held, Shelf.compiled?_put_same, if_pos rfl]

end Event

/-- A workspace in which a cache holds different commands for different requests. -/
structure Directory.Tidy (directory : Directory) (cache : Nat) (workspace : Workspace) :
    Prop where
  keeps : directory.Keeps workspace
  known : ∀ key found, workspace.shelf.compiled? cache key = some found →
    found.id < workspace.nextId
  unique : ∀ key other found given, workspace.shelf.compiled? cache key = some found →
    workspace.shelf.compiled? cache other = some given → found.id = given.id → key = other

namespace Inquiry

variable {directory : Directory} {cache : Nat} {inquiry : Inquiry} {workspace : Workspace}

theorem Through.tidy (through : inquiry.Through directory cache)
    (tidy : directory.Tidy cache workspace) :
    directory.Tidy cache (inquiry.event workspace).after := by
  obtain ⟨course, keeps⟩ := through.course tidy.keeps
  cases course with
  | fails _ held ids =>
    refine ⟨keeps, ?_, ?_⟩
    · rw [held, ids]
      exact tidy.known
    · rw [held]
      exact tidy.unique
  | finds _ _ _ _ same =>
    have ids : (inquiry.event workspace).after.nextId = workspace.nextId :=
      congrArg Shelf.nextId same
    refine ⟨keeps, ?_, ?_⟩
    · rw [same, ids]
      exact tidy.known
    · rw [same]
      exact tidy.unique
  | makes key compiled _ _ held ids _ =>
    refine ⟨keeps, ?_, ?_⟩
    · intro other found there
      rw [held, Shelf.compiled?_put_same] at there
      rw [ids]
      split at there
      · cases there
        exact Nat.lt_succ_self _
      · exact Nat.lt_succ_of_lt (tidy.known other found there)
    · -- The new command has an identity that none before it has.
      intro first second found given thereFound thereGiven same
      rw [held, Shelf.compiled?_put_same] at thereFound thereGiven
      split at thereFound <;> split at thereGiven
      · rename_i left right
        rw [left, right]
      · cases thereFound
        have below := tidy.known second given thereGiven
        rw [← same] at below
        exact absurd below (Nat.lt_irrefl _)
      · cases thereGiven
        have below := tidy.known first found thereFound
        rw [same] at below
        exact absurd below (Nat.lt_irrefl _)
      · exact tidy.unique first second found given thereFound thereGiven same

end Inquiry

namespace Event

/-- Two successes have the same command exactly for the same request, and then the later one leaves
the store as it is. -/
def Consistent (earlier later : Event) : Prop :=
  ∀ key other found command, earlier.success? = some (key, found) →
    later.success? = some (other, command) →
      (key = other ↔ found.id = command.id) ∧
        (key = other → found = command ∧ later.after.store = later.before.store)

def requests (events : List Event) : List RequestKey :=
  events.filterMap fun event => event.success?.map (·.1)

def totalCalls (events : List Event) (gateway : Nat) : Nat :=
  (events.filter (·.success?.isSome)).foldr (fun event total => event.calls gateway + total) 0

section Cons

variable {event : Event} {key : RequestKey} {command : CompiledInstance}

theorem requests_cons_of_none (none : event.success? = none) (rest : List Event) :
    requests (event :: rest) = requests rest := by
  rw [requests, List.filterMap_cons, none]
  rfl

theorem requests_cons_of_some (success : event.success? = some (key, command))
    (rest : List Event) : requests (event :: rest) = key :: requests rest := by
  rw [requests, List.filterMap_cons, success]
  rfl

theorem totalCalls_cons_of_none (none : event.success? = none) (rest : List Event)
    (gateway : Nat) : totalCalls (event :: rest) gateway = totalCalls rest gateway := by
  rw [totalCalls, List.filter_cons, none]
  rfl

theorem totalCalls_cons_of_some (success : event.success? = some (key, command))
    (rest : List Event) (gateway : Nat) :
    totalCalls (event :: rest) gateway = event.calls gateway + totalCalls rest gateway := by
  rw [totalCalls, List.filter_cons, success]
  rfl

end Cons

theorem Course.of_held {directory : Directory} {cache : Nat} {event : Event}
    (course : event.Course directory cache) (tidy : directory.Tidy cache event.before)
    {key other : RequestKey} {found command : CompiledInstance}
    (there : event.before.shelf.compiled? cache key = some found)
    (success : event.success? = some (other, command)) :
    (key = other ↔ found.id = command.id) ∧
      (key = other → found = command ∧ event.after.store = event.before.store) := by
  cases course with
  | fails none _ _ =>
    rw [none] at success
    cases success
  | finds label given found held same =>
    rw [found] at success
    cases success
    refine ⟨⟨?_, tidy.unique key other _ _ there held⟩, ?_⟩
    · rintro rfl
      rw [there] at held
      cases held
      rfl
    · rintro rfl
      rw [there] at held
      exact ⟨Option.some.inj held, congrArg Shelf.store same⟩
  | makes label compiled made missing _ _ _ =>
    rw [made] at success
    cases success
    have different : key ≠ other := by
      rintro rfl
      rw [missing] at there
      cases there
    have below := tidy.known key found there
    exact ⟨⟨fun same => absurd same different, fun same => absurd same (Nat.ne_of_lt below)⟩,
      fun same => absurd same different⟩

end Event

namespace Inquiry

variable {directory : Directory} {cache : Nat} {history : List Inquiry} {workspace : Workspace}

/-- What is in the cache is what answers its request ever after, and no other. -/
theorem consistent_of_held (through : ∀ inquiry ∈ history, inquiry.Through directory cache)
    (tidy : directory.Tidy cache workspace) {key : RequestKey} {found : CompiledInstance}
    (there : workspace.shelf.compiled? cache key = some found) {event : Event}
    (member : event ∈ events history workspace) {other : RequestKey} {command : CompiledInstance}
    (success : event.success? = some (other, command)) :
    (key = other ↔ found.id = command.id) ∧
      (key = other → found = command ∧ event.after.store = event.before.store) := by
  induction history generalizing workspace with
  | nil => cases member
  | cons inquiry rest ih =>
    obtain ⟨here, others⟩ := List.forall_mem_cons.mp through
    obtain ⟨course, _⟩ := here.course tidy.keeps
    rcases List.mem_cons.mp member with rfl | later
    · exact course.of_held tidy there success
    · exact ih others (here.tidy tidy) (course.held_after there) later

theorem pairwise_consistent (through : ∀ inquiry ∈ history, inquiry.Through directory cache)
    (tidy : directory.Tidy cache workspace) :
    (events history workspace).Pairwise Event.Consistent := by
  induction history generalizing workspace with
  | nil => exact .nil
  | cons inquiry rest ih =>
    obtain ⟨here, others⟩ := List.forall_mem_cons.mp through
    obtain ⟨course, _⟩ := here.course tidy.keeps
    have after := here.tidy tidy
    refine .cons (fun later member => ?_) (ih others after)
    intro key other found command first second
    exact consistent_of_held others after (course.held_of_success first) member second

/-- With a key that is open, the open keys are that key and those that are open besides it. -/
theorem sum_open {κ : Type} [DecidableEq κ] {first rest : κ → Bool} {key : κ}
    (here : first key = true) (others : ∀ label, rest label = (label != key && first label))
    (keys : Finset κ) (cost : κ → Nat) :
    ∑ label ∈ (insert key keys).filter (first ·), cost label =
      cost key + ∑ label ∈ keys.filter (rest ·), cost label := by
  have parts : (insert key keys).filter (first ·) = insert key (keys.filter (rest ·)) := by
    ext label
    by_cases same : label = key
    · simp [same, here]
    · simp [same, others]
  have fresh : key ∉ keys.filter (rest ·) := by simp [others]
  rw [parts, Finset.sum_insert fresh]

/-- The gateways configure templates for the distinct requests that the cache does not hold yet. -/
theorem totalCalls_eq (through : ∀ inquiry ∈ history, inquiry.Through directory cache)
    (tidy : directory.Tidy cache workspace) (gateway : Nat) :
    Event.totalCalls (events history workspace) gateway =
      ∑ key ∈ (Event.requests (events history workspace)).toFinset.filter
          (workspace.shelf.lacks cache ·),
        (directory.catalogs key.catalog).bound gateway key.plan := by
  induction history generalizing workspace with
  | nil => rfl
  | cons inquiry rest ih =>
    obtain ⟨here, others⟩ := List.forall_mem_cons.mp through
    obtain ⟨course, _⟩ := here.course tidy.keeps
    have later := ih others (here.tidy tidy)
    rw [events]
    cases course with
    | fails none held _ =>
      have lacks : (inquiry.event workspace).after.shelf.lacks cache =
          workspace.shelf.lacks cache := by
        funext key
        rw [Shelf.lacks, held]
        rfl
      rw [Event.totalCalls_cons_of_none none, Event.requests_cons_of_none none, later, lacks]
    | finds key found success there same =>
      change workspace.shelf.compiled? cache key = some found at there
      change (inquiry.event workspace).after.shelf = workspace.shelf at same
      have still : (inquiry.event workspace).calls gateway = 0 := by
        have stores : (inquiry.event workspace).after.store = workspace.store :=
          congrArg Shelf.store same
        rw [Event.calls, stores]
        exact Nat.sub_self _
      have known : ¬workspace.shelf.lacks cache key = true := by simp [Shelf.lacks, there]
      rw [Event.totalCalls_cons_of_some success, Event.requests_cons_of_some success, later, still,
        same, Nat.zero_add, List.toFinset_cons, Finset.filter_insert, if_neg known]
    | makes key compiled success missing held _ registrations =>
      change workspace.shelf.compiled? cache key = none at missing
      have calls : (inquiry.event workspace).calls gateway =
          (directory.catalogs key.catalog).bound gateway key.plan := by
        rw [Event.calls, registrations gateway, Nat.add_sub_cancel_left]
      have lacking : workspace.shelf.lacks cache key = true := by rw [Shelf.lacks, missing]; rfl
      have lacks : ∀ label, (inquiry.event workspace).after.shelf.lacks cache label =
          (label != key && workspace.shelf.lacks cache label) := by
        intro label
        rw [Shelf.lacks, held, Shelf.compiled?_put_same]
        by_cases same : label = key
        · simp [same]
        · rw [if_neg same, bne_iff_ne.mpr same, Bool.true_and]
          rfl
      rw [Event.totalCalls_cons_of_some success, Event.requests_cons_of_some success, later, calls,
        List.toFinset_cons]
      exact (sum_open lacking lacks _ fun key =>
        (directory.catalogs key.catalog).bound gateway key.plan).symm

theorem exists_event_of_mem {event : Event} (member : event ∈ events history workspace) :
    ∃ inquiry before, event = Inquiry.event inquiry before := by
  induction history generalizing workspace with
  | nil => cases member
  | cons inquiry rest ih =>
    rcases List.mem_cons.mp member with same | later
    · exact ⟨inquiry, workspace, same⟩
    · exact ih later

theorem ofName_of_notMem {name : String} (unknown : name ∉ ["create", "update", "delete"]) :
    CommandType.ofName name = .error (.unknownCommandType name) := by
  simp only [List.mem_cons, List.not_mem_nil, or_false, not_or] at unknown
  rw [CommandType.ofName, CommandType.ofName?, if_neg unknown.1, if_neg unknown.2.1,
    if_neg unknown.2.2]

/-- Through one cache, from the start, whichever compilers and repositories the requests are put
to: over all requests that are answered with a command, a gateway configures one template for every
relation that is bound to it in each distinct request; equal requests are answered with the same
command, different ones with different commands, and a repeated request has nothing configured; and
a request for any type but the three changes nothing at all. -/
theorem registers_once (directory : Directory) (cache : Nat) {history : List Inquiry}
    (through : ∀ inquiry ∈ history, inquiry.Through directory cache) (store : Store)
    (nextId : Nat) :
    let all := events history ⟨store, ∅, ∅, nextId⟩
    (∀ gateway, Event.totalCalls all gateway = ∑ key ∈ (Event.requests all).toFinset,
      (directory.catalogs key.catalog).bound gateway key.plan) ∧
    all.Pairwise Event.Consistent ∧
    ∀ event ∈ all, event.inquiry.typeName ∉ ["create", "update", "delete"] →
      event.answer = .error (.unknownCommandType event.inquiry.typeName) ∧
        event.after = event.before := by
  intro all
  have tidy : directory.Tidy cache ⟨store, ∅, ∅, nextId⟩ :=
    ⟨directory.keeps_fresh store nextId, fun _ _ there => (by cases there),
      fun _ _ _ _ there => (by cases there)⟩
  refine ⟨fun gateway => ?_, pairwise_consistent through tidy, ?_⟩
  · have empty : ∀ key, (Workspace.shelf ⟨store, ∅, ∅, nextId⟩).lacks cache key = true :=
      fun _ => rfl
    rw [totalCalls_eq through tidy gateway, Finset.filter_true_of_mem fun key _ => empty key]
  · intro event member unknown
    obtain ⟨inquiry, before, rfl⟩ := exists_event_of_mem member
    have refused := order_eq_error.mpr (ofName_of_notMem unknown)
    have ran := @outcome_of_refused inquiry before _ refused
    exact ⟨congrArg Prod.fst ran, congrArg Prod.snd ran⟩

/-- Requests through one cache that succeed, fail and repeat, over two catalogs. -/
theorem registers_once_sample :
    let all := events Sample.history ⟨∅, ∅, ∅, 0⟩
    (∀ inquiry ∈ Sample.history, inquiry.Through Sample.directory 0) ∧
      (Event.totalCalls all 0 = 9 ∧ (Event.requests all).toFinset.card = 3) ∧
      (∀ gateway, Event.totalCalls all gateway = ∑ key ∈ (Event.requests all).toFinset,
        (Sample.directory.catalogs key.catalog).bound gateway key.plan) ∧
      all.Pairwise Event.Consistent ∧
      ∀ event ∈ all, event.inquiry.typeName ∉ ["create", "update", "delete"] →
        event.answer = .error (.unknownCommandType event.inquiry.typeName) ∧
          event.after = event.before := by
  have through : ∀ inquiry ∈ Sample.history, inquiry.Through Sample.directory 0 := by
    intro inquiry member
    have listed := Sample.lists_history inquiry member
    simp only [Sample.history, List.mem_cons, List.not_mem_nil, or_false] at member
    rcases member with rfl | rfl | rfl | rfl | rfl | rfl | rfl | rfl <;> exact ⟨listed, rfl, rfl⟩
  exact ⟨through, ⟨rfl, rfl⟩, registers_once Sample.directory 0 through ∅ 0⟩

end Inquiry

end RelationGraph
