import RelationGraph.Proofs.CacheHistories
import RelationGraph.Proofs.Inquiries

set_option autoImplicit false

namespace RelationGraph

namespace Directory

def request (directory : Directory) (key : RequestKey) : CompileRequest :=
  ⟨directory.catalogs key.catalog, key.type, key.adapter,
    key.customization.map directory.customizations⟩

/-- The caches hold what compiling yields. -/
def Faithful (directory : Directory) (shelf : Shelf) : Prop :=
  ∀ cache key found, shelf.compiled? cache key = some found →
    (directory.request key).result key.plan = .ok found.compiled

variable {directory : Directory}

theorem request_key {inquiry : Inquiry} (listed : directory.Lists inquiry) {order : Order}
    (ordered : inquiry.order = .ok order) : directory.request order.key = order.request := by
  obtain ⟨type, typed, made⟩ := Except.bind_eq_ok.mp ordered
  cases made
  have customizations : (inquiry.customization.map (·.id)).map directory.customizations =
      inquiry.customization := by
    cases given : inquiry.customization with
    | none => rfl
    | some customization => exact congrArg some (listed.customization customization given)
  rw [request, Order.key, Order.request]
  dsimp only
  rw [listed.catalog, customizations]

/-- What is served is what compiling yields, and so is what is put on the shelf. -/
theorem Faithful.serve {shelf : Shelf} (faithful : directory.Faithful shelf) {order : Order}
    (named : directory.request order.key = order.request) :
    (order.serve shelf).1.map (·.compiled) = order.result ∧
      directory.Faithful (order.serve shelf).2 := by
  cases looked : order.found? shelf with
  | some found =>
    rw [Order.serve_of_found looked]
    refine ⟨?_, faithful⟩
    unfold Order.found? at looked
    split at looked
    · have held := faithful _ _ _ looked
      rw [named] at held
      exact held.symm
    · cases looked
  | none =>
    cases made : order.result with
    | error error =>
      rw [Order.serve_of_error looked made]
      exact ⟨rfl, faithful⟩
    | ok compiled =>
      rw [Order.serve_of_ok looked made]
      refine ⟨rfl, ?_⟩
      dsimp only
      split
      · intro cache key found there
        rw [Shelf.compiled?_put] at there
        split at there
        · rename_i here
          cases there
          rw [here.2, named]
          exact made
        · exact faithful cache key found there
      · exact faithful

end Directory

/-! ### Without caches -/

def Catalog.uncached (catalog : Catalog) : Catalog :=
  { catalog with settings := { catalog.settings with cacheCommands := false } }

def Compiler.uncached (compiler : Compiler) : Compiler :=
  { compiler with catalog := compiler.catalog.uncached }

def Repository.uncached (repository : Repository) : Repository :=
  { repository with compiler := repository.compiler.uncached }

def Order.uncached (order : Order) : Order := { order with compiler := order.compiler.uncached }

theorem Order.result_uncached (order : Order) : order.uncached.result = order.result := rfl

def Directory.uncached (directory : Directory) : Directory where
  catalogs id := (directory.catalogs id).uncached
  customizations := directory.customizations
  repositories id := (directory.repositories id).uncached

/-- The answer without the identity of the command. -/
def Answer.content (answer : Answer) : Compiled × Option StructLayout :=
  (answer.command.compiled, answer.layout)

namespace Inquiry

/-- The request to a compiler or repository that forbids to use caches. -/
def uncached : Inquiry → Inquiry
  | .compile compiler typeName adapter plan customization =>
    .compile compiler.uncached typeName adapter plan customization
  | .command repository typeName tree customization =>
    .command repository.uncached typeName tree customization

/-- What is answered to the request alone, without caches. -/
def alone (inquiry : Inquiry) : Except Fault (Compiled × Option StructLayout) :=
  (WorkM.outcome inquiry.uncached.run .empty).1.map Answer.content

variable {directory : Directory} {inquiry : Inquiry}

theorem lists_uncached (listed : directory.Lists inquiry) :
    directory.uncached.Lists inquiry.uncached := by
  cases inquiry with
  | compile compiler typeName adapter plan customization =>
    have catalogs : directory.uncached.catalogs compiler.uncached.catalog.id =
        compiler.uncached.catalog := congrArg Catalog.uncached listed.catalog
    exact Directory.lists_compile catalogs listed.customization typeName adapter plan
  | command repository typeName tree customization =>
    obtain ⟨named, owns⟩ := listed.repository repository typeName tree customization rfl
    have catalogs : directory.uncached.catalogs repository.uncached.catalog.id =
        repository.uncached.catalog := congrArg Catalog.uncached listed.catalog
    have repositories : directory.uncached.repositories repository.uncached.id =
        repository.uncached := congrArg Repository.uncached named
    exact Directory.lists_command catalogs listed.customization repositories owns typeName

theorem order_uncached {order : Order} (ordered : inquiry.order = .ok order) :
    inquiry.uncached.order = .ok order.uncached := by
  obtain ⟨type, typed, made⟩ := Except.bind_eq_ok.mp ordered
  cases made
  cases inquiry with
  | compile => exact Except.bind_eq_ok.mpr ⟨type, typed, rfl⟩
  | command => exact Except.bind_eq_ok.mpr ⟨type, typed, rfl⟩

theorem content_of_serve {served : Except Fault CompiledInstance} {result : Except Fault Compiled}
    (same : served.map (·.compiled) = result) (layout : Option StructLayout) :
    (served.map fun given => Answer.mk given layout).map Answer.content =
      result.map fun compiled => (compiled, layout) := by
  rw [← same]
  cases served <;> rfl

theorem alone_of_refused {error : Fault} (refused : inquiry.order = .error error) :
    inquiry.alone = .error error := by
  have names : inquiry.uncached.typeName = inquiry.typeName := by cases inquiry <;> rfl
  have refusedToo : inquiry.uncached.order = .error error := by
    rw [order_eq_error, names]
    exact order_eq_error.mp refused
  rw [alone, outcome_of_refused refusedToo]
  rfl

theorem alone_of_order (listed : directory.Lists inquiry) {order : Order}
    (ordered : inquiry.order = .ok order) :
    inquiry.alone = order.result.map fun compiled => (compiled, inquiry.layout?) := by
  have listedToo := lists_uncached listed
  have orderedToo := order_uncached ordered
  have nothing : directory.uncached.Faithful Workspace.empty.shelf :=
    fun _ _ _ there => (by cases there)
  obtain ⟨after, ran, _⟩ :=
    outcome_of_order listedToo (directory.uncached.keeps_fresh ∅ 0) orderedToo
  have layouts : inquiry.uncached.layout? = inquiry.layout? := by cases inquiry <;> rfl
  have served := (nothing.serve (Directory.request_key listedToo orderedToo)).1
  change WorkM.outcome inquiry.uncached.run .empty = _ at ran
  rw [alone, ran, ← layouts]
  exact content_of_serve (served.trans order.result_uncached) inquiry.uncached.layout?

/-- Where caches hold what compiling yields, a request is answered as if there were none, and they
hold what compiling yields afterwards. -/
theorem content_eq_alone (listed : directory.Lists inquiry) {workspace : Workspace}
    (keeps : directory.Keeps workspace) (faithful : directory.Faithful workspace.shelf) :
    (inquiry.event workspace).answer.map Answer.content = inquiry.alone ∧
      directory.Keeps (inquiry.event workspace).after ∧
      directory.Faithful (inquiry.event workspace).after.shelf := by
  unfold event
  cases ordered : inquiry.order with
  | error error =>
    rw [outcome_of_refused ordered, alone_of_refused ordered]
    exact ⟨rfl, keeps, faithful⟩
  | ok order =>
    obtain ⟨after, ran, shelved, keptAfter⟩ := outcome_of_order listed keeps ordered
    obtain ⟨served, held⟩ := faithful.serve (Directory.request_key listed ordered)
    rw [ran, alone_of_order listed ordered]
    refine ⟨content_of_serve served inquiry.layout?, keptAfter, ?_⟩
    rw [shelved]
    exact held

/-- What a request is answered with, compiling yields, and the layout is that of the plan. -/
theorem exists_order_of_answered (listed : directory.Lists inquiry) {workspace : Workspace}
    (keeps : directory.Keeps workspace) (faithful : directory.Faithful workspace.shelf)
    {answer : Answer} (answered : (inquiry.event workspace).answer = .ok answer) :
    ∃ order, inquiry.order = .ok order ∧ order.result = .ok answer.command.compiled ∧
      answer.layout = inquiry.layout? := by
  have content := (content_eq_alone listed keeps faithful).1
  rw [answered] at content
  cases ordered : inquiry.order with
  | error error =>
    rw [alone_of_refused ordered] at content
    cases content
  | ok order =>
    rw [alone_of_order listed ordered] at content
    refine ⟨order, rfl, ?_⟩
    cases result : order.result with
    | error error =>
      rw [result] at content
      cases content
    | ok compiled =>
      rw [result] at content
      have same : (answer.command.compiled, answer.layout) = (compiled, inquiry.layout?) :=
        Except.ok.inj content
      obtain ⟨commands, layouts⟩ := Prod.mk.inj same
      exact ⟨by rw [commands], layouts⟩

theorem contents_eq_alone {history : List Inquiry}
    (listed : ∀ inquiry ∈ history, directory.Lists inquiry) {workspace : Workspace}
    (keeps : directory.Keeps workspace) (faithful : directory.Faithful workspace.shelf) :
    (events history workspace).map (fun event => event.answer.map Answer.content) =
      history.map alone := by
  induction history generalizing workspace with
  | nil => rfl
  | cons inquiry rest ih =>
    obtain ⟨here, others⟩ := List.forall_mem_cons.mp listed
    obtain ⟨same, keptAfter, held⟩ := content_eq_alone here keeps faithful
    rw [events, List.map_cons, List.map_cons, same, ih others keptAfter held]

/-- Whatever has been requested before, through whichever caches: each request is answered with the
error or the command and layout that it is answered with alone and without caches. -/
theorem answers_eq_alone (directory : Directory) {history : List Inquiry}
    (listed : ∀ inquiry ∈ history, directory.Lists inquiry) (store : Store) (nextId : Nat) :
    (events history ⟨store, ∅, ∅, nextId⟩).map (fun event => event.answer.map Answer.content) =
      history.map alone :=
  contents_eq_alone listed (directory.keeps_fresh store nextId)
    fun _ _ _ there => (by cases there)

/-- Requests through one cache that succeed, fail and repeat, over two catalogs. -/
theorem answers_eq_alone_sample :
    (∀ inquiry ∈ Sample.history, Sample.directory.Lists inquiry) ∧
      (events Sample.history ⟨∅, ∅, ∅, 0⟩).map (fun event => event.answer.map Answer.content) =
        Sample.history.map alone :=
  ⟨Sample.lists_history, answers_eq_alone Sample.directory Sample.lists_history ∅ 0⟩

end Inquiry

/-! ### Where requests lead -/

namespace Directory

/-- A workspace that is led to by requests, one after another, with writes, loads and narrowed
commands between them. -/
inductive Reached (directory : Directory) : Workspace → Prop
  | fresh (store : Store) (nextId : Nat) : Reached directory ⟨store, ∅, ∅, nextId⟩
  | answered {workspace : Workspace} (earlier : Reached directory workspace) {inquiry : Inquiry}
      (listed : directory.Lists inquiry) : Reached directory (inquiry.event workspace).after
  | loaded {workspace : Workspace} (earlier : Reached directory workspace)
      (repository : Repository) (tree : RelationTree) :
      Reached directory (WorkM.outcome (repository.layout tree.toPlan) workspace).2
  | written {workspace : Workspace} (earlier : Reached directory workspace) (store : Store)
      (nextId : Nat) :
      Reached directory { workspace with store := store, nextId := nextId }

variable {directory : Directory}

/-- Wherever requests lead, caches hold what compiling yields. -/
theorem Reached.sound {workspace : Workspace} (reached : directory.Reached workspace) :
    directory.Keeps workspace ∧ directory.Faithful workspace.shelf := by
  induction reached with
  | fresh store nextId =>
    exact ⟨directory.keeps_fresh store nextId, fun _ _ _ there => (by cases there)⟩
  | answered _ listed ih => exact (Inquiry.content_eq_alone listed ih.1 ih.2).2
  | loaded _ repository tree ih =>
    obtain ⟨layout, laid⟩ := tree.exists_ofPlan
    obtain ⟨after, ran, shelved, keeps, _⟩ := repository.outcome_layout ih.1 laid
    rw [ran]
    exact ⟨keeps, shelved ▸ ih.2⟩
  | written _ store nextId ih => exact ⟨ih.1.grow rfl fun _ _ _ there => there, ih.2⟩

end Directory

/-! ### Cells of caches -/

namespace Workspace

def Full (workspace : Workspace) : Prop := ∀ id, (workspace.cache id).Full

theorem cache_withCache (workspace : Workspace) (id other : Nat) (content : CommandCache) :
    (workspace.withCache id content).cache other =
      if other = id then content else workspace.cache other := by
  rw [cache, withCache, SortedMap.get?_insert]
  split <;> rfl

theorem Full.withCache {workspace : Workspace} (full : workspace.Full) {id : Nat}
    {content : CommandCache} (own : content.Full) : (workspace.withCache id content).Full := by
  intro other
  rw [cache_withCache]
  split
  · exact own
  · exact full other

end Workspace

namespace WorkM

variable {α β : Type}

def KeepsFull (act : WorkM α) : Prop :=
  ∀ workspace : Workspace, workspace.Full → (outcome act workspace).2.Full

theorem keepsFull_pure (value : α) : KeepsFull (pure value) := fun _ full => full

theorem keepsFull_ofExcept (result : Except Fault α) :
    KeepsFull (MonadExcept.ofExcept result) := by
  intro workspace full
  rw [outcome_ofExcept]
  exact full

theorem keepsFull_get : KeepsFull get := fun _ full => full

theorem KeepsFull.bind {act : WorkM α} {next : α → WorkM β} (first : KeepsFull act)
    (second : ∀ value, KeepsFull (next value)) : KeepsFull (act >>= next) := by
  intro workspace full
  have between := first workspace full
  rw [outcome_bind]
  rcases ran : outcome act workspace with ⟨error | value, after⟩ <;> rw [ran] at between
  · exact between
  · exact second value after between

theorem KeepsFull.request {κ υ : Type} [DecidableEq κ] {compute : WorkM υ}
    (keeps : KeepsFull compute) (cache : OnceCache κ υ) (key : κ) :
    KeepsFull (cache.request key (attempt compute)) := by
  have tried : KeepsFull (attempt compute) := keeps
  unfold OnceCache.request
  dsimp only
  split
  · exact keepsFull_pure _
  · refine tried.bind fun result => ?_
    cases result <;> exact keepsFull_pure _

end WorkM

theorem Order.keepsFull_run (order : Order) : WorkM.KeepsFull order.run := by
  intro workspace full
  have anew : (WorkM.outcome order.anew workspace).2.Full := by
    cases made : order.result with
    | error error =>
      rw [outcome_anew_of_error made]
      exact full
    | ok compiled =>
      rw [outcome_anew_of_ok made]
      exact full
  cases caching : order.caches with
  | false =>
    rw [run_of_uncached caching]
    exact anew
  | true =>
    have own := full order.compiler.cache
    cases there : workspace.compiled? order.compiler.cache order.key with
    | some found =>
      rw [outcome_run_of_found caching there]
      exact full.withCache (own.countHit_opened there)
    | none =>
      rcases ran : WorkM.outcome order.anew workspace with ⟨error | made, after⟩ <;>
        rw [ran] at anew
      · rw [outcome_run_of_error caching there ran, own.abandoned_opened there]
        exact anew.withCache own
      · rw [outcome_run_of_ok caching there ran]
        exact anew.withCache (own.filled_opened there made)

namespace Repository

open WorkM

theorem keepsFull_layout (repository : Repository) (plan : Plan) :
    KeepsFull (repository.layout plan) := by
  refine keepsFull_get.bind fun workspace => (keepsFull_ofExcept _).bind fun _ => ?_
  exact KeepsFull.bind (fun _ full => full) fun _ => keepsFull_pure _

theorem keepsFull_command (repository : Repository) (typeName : String) (tree : RelationTree)
    (customization : Option Customization) :
    KeepsFull (repository.command typeName tree customization) := by
  refine (keepsFull_ofExcept _).bind fun type => ?_
  have compiles : KeepsFull (repository.compileCommand type tree customization) :=
    (repository.order type tree customization).keepsFull_run.bind fun _ =>
      (repository.keepsFull_layout _).bind fun _ => keepsFull_pure _
  split
  · refine keepsFull_get.bind fun workspace => (compiles.request _ _).bind fun _ => ?_
    exact KeepsFull.bind (fun _ full => full) fun _ => keepsFull_ofExcept _
  · exact compiles

end Repository

theorem Inquiry.keepsFull_run (inquiry : Inquiry) : WorkM.KeepsFull inquiry.run := by
  cases inquiry with
  | compile compiler typeName adapter plan customization =>
    refine WorkM.KeepsFull.bind ?_ fun _ => WorkM.keepsFull_pure _
    exact (WorkM.keepsFull_ofExcept _).bind fun type =>
      Order.keepsFull_run ⟨compiler, type, adapter, plan, customization⟩
  | command repository typeName tree customization =>
    exact (repository.keepsFull_command typeName tree customization).bind fun _ =>
      WorkM.keepsFull_pure _

theorem Directory.Reached.full {directory : Directory} {workspace : Workspace}
    (reached : directory.Reached workspace) : workspace.Full := by
  induction reached with
  | fresh => exact fun _ => OnceCache.full_empty
  | answered _ _ ih => exact Inquiry.keepsFull_run _ _ ih
  | loaded _ repository tree ih => exact repository.keepsFull_layout _ _ ih
  | written _ _ _ ih => exact ih

end RelationGraph
