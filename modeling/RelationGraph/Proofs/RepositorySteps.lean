import RelationGraph.Proofs.WorkSteps

set_option autoImplicit false

namespace RelationGraph

namespace Workspace

theorem memory_congr {workspace after : Workspace}
    (same : after.repositories = workspace.repositories) : after.memory = workspace.memory := by
  funext id
  rw [memory, same]
  rfl

theorem kept?_withMemory (workspace : Workspace) (repository other : Nat)
    (memory : RepositoryMemory) (key : RepositoryKey) :
    (workspace.withMemory repository memory).kept? other key =
      if other = repository then memory.commands.get? key else workspace.kept? other key := by
  rw [kept?, memory_withMemory]
  split <;> rfl

theorem layout?_withMemory (workspace : Workspace) (repository other : Nat)
    (memory : RepositoryMemory) (plan : Plan) :
    (workspace.withMemory repository memory).layout? other plan =
      if other = repository then Entries.get? plan memory.layouts.entries
      else workspace.layout? other plan := by
  rw [layout?, memory_withMemory]
  split <;> rfl

end Workspace

theorem RelationTree.exists_ofPlan (tree : RelationTree) :
    ∃ layout, StructLayout.ofPlan tree.toPlan = .ok layout := by
  cases tree
  exact ⟨_, rfl⟩

namespace Repository

/-- The root of the tree is a relation of the catalog, narrowed at most. -/
def Owns (repository : Repository) (tree : RelationTree) : Prop :=
  repository.catalog.relation tree.baseName.relation = .ok tree.relation.unrestricted

theorem owns_of_built {repository : Repository} (setup : repository.catalog.SetUp)
    {tree : RelationTree} (built : tree.Built repository.catalog) : repository.Owns tree :=
  (built.sound_of_setUp setup).registered

def order (repository : Repository) (type : CommandType) (tree : RelationTree)
    (customization : Option Customization) : Order :=
  ⟨repository.compiler, type, tree.relation.adapter, tree.toPlan, customization⟩

def key (type : CommandType) (tree : RelationTree) (customization : Option Customization) :
    RepositoryKey :=
  ⟨type, tree.toPlan, customization.map (·.id)⟩

theorem baseName_eq_of_toPlan_eq {tree other : RelationTree} (same : tree.toPlan = other.toPlan) :
    tree.baseName = other.baseName := by
  cases tree
  cases other
  rw [RelationTree.toPlan, RelationTree.toPlan] at same
  exact (Plan.relation.inj same).2.1

theorem adapter_eq_of_toPlan_eq {repository : Repository} {tree other : RelationTree}
    (owns : repository.Owns tree) (ownsOther : repository.Owns other)
    (same : tree.toPlan = other.toPlan) : tree.relation.adapter = other.relation.adapter := by
  unfold Owns at owns ownsOther
  rw [baseName_eq_of_toPlan_eq same, ownsOther] at owns
  have adapters := congrArg Relation.adapter (Except.ok.inj owns)
  exact adapters.symm

theorem order_key_eq {repository : Repository} {type type' : CommandType}
    {tree other : RelationTree} {customization customization' : Option Customization}
    (owns : repository.Owns tree) (ownsOther : repository.Owns other)
    (same : key type tree customization = key type' other customization') :
    (repository.order type tree customization).key =
      (repository.order type' other customization').key := by
  obtain ⟨types, plans, customizations⟩ := RepositoryKey.mk.inj same
  have adapters := adapter_eq_of_toPlan_eq owns ownsOther plans
  rw [order, order, Order.key, Order.key]
  dsimp only
  rw [types, plans, customizations, adapters]

end Repository

/-- The objects that identities name. -/
structure Directory where
  catalogs : Nat → Catalog
  customizations : Nat → Customization
  repositories : Nat → Repository

namespace Directory

/-- What repositories keep is what their compilers hold, and layouts are those of the plans. -/
structure Keeps (directory : Directory) (workspace : Workspace) : Prop where
  layouts : ∀ id plan layout, workspace.layout? id plan = some layout →
    StructLayout.ofPlan plan = .ok layout
  commands : ∀ id type tree customization mapped,
    (directory.repositories id).Owns tree →
    workspace.kept? id (Repository.key type tree customization) = some mapped →
      StructLayout.ofPlan tree.toPlan = .ok mapped.layout ∧
      workspace.compiled? (directory.repositories id).compiler.cache
        ((directory.repositories id).order type tree customization).key = some mapped.command

theorem keeps_fresh (directory : Directory) (store : Store) (nextId : Nat) :
    directory.Keeps ⟨store, ∅, ∅, nextId⟩ :=
  ⟨fun _ _ _ there => (by cases there), fun _ _ _ _ _ _ there => (by cases there)⟩

/-- A change that adds commands to caches alone keeps what repositories rely on. -/
theorem Keeps.grow {directory : Directory} {workspace after : Workspace}
    (keeps : directory.Keeps workspace) (same : after.repositories = workspace.repositories)
    (grown : ∀ cache key found, workspace.compiled? cache key = some found →
      after.compiled? cache key = some found) : directory.Keeps after := by
  have memories := Workspace.memory_congr same
  refine ⟨fun id plan layout there => keeps.layouts id plan layout ?_, ?_⟩
  · rw [← there, Workspace.layout?, Workspace.layout?, memories]
  · intro id type tree customization mapped owns there
    rw [Workspace.kept?, memories] at there
    obtain ⟨laid, held⟩ := keeps.commands id type tree customization mapped owns there
    exact ⟨laid, grown _ _ _ held⟩

/-- What a repository keeps can change to commands that its compiler holds. -/
theorem Keeps.withCommands {directory : Directory} {workspace : Workspace}
    (keeps : directory.Keeps workspace) {id : Nat}
    {commands : OnceCache RepositoryKey MappedCommand}
    (held : ∀ type tree customization mapped, (directory.repositories id).Owns tree →
      commands.get? (Repository.key type tree customization) = some mapped →
        StructLayout.ofPlan tree.toPlan = .ok mapped.layout ∧
        workspace.compiled? (directory.repositories id).compiler.cache
          ((directory.repositories id).order type tree customization).key = some mapped.command) :
    directory.Keeps (workspace.withCommands id commands) := by
  refine ⟨fun other plan layout there => ?_, ?_⟩
  · rw [Workspace.withCommands, Workspace.layout?_withMemory] at there
    split at there
    · exact keeps.layouts id plan layout there
    · exact keeps.layouts other plan layout there
  · intro other type tree customization mapped owns there
    rw [Workspace.withCommands, Workspace.kept?_withMemory] at there
    split at there
    · rename_i here
      subst here
      exact held type tree customization mapped owns there
    · exact keeps.commands other type tree customization mapped owns there

end Directory

namespace Order

theorem compiled?_serve {order : Order} {shelf : Shelf} {cache : Nat} {key : RequestKey}
    {found : CompiledInstance} (there : shelf.compiled? cache key = some found) :
    (order.serve shelf).2.compiled? cache key = some found := by
  cases looked : order.found? shelf with
  | some given =>
    rw [serve_of_found looked]
    exact there
  | none =>
    cases made : order.result with
    | error error =>
      rw [serve_of_error looked made]
      exact there
    | ok compiled =>
      rw [serve_of_ok looked made]
      dsimp only
      split
      · rename_i caching
        rw [Shelf.compiled?_put, if_neg]
        · exact there
        · rintro ⟨rfl, rfl⟩
          rw [found?, if_pos caching, there] at looked
          cases looked
      · exact there

theorem compiled?_of_serve {order : Order} {shelf : Shelf} (caching : order.caches = true)
    {given : CompiledInstance} (success : (order.serve shelf).1 = .ok given) :
    (order.serve shelf).2.compiled? order.compiler.cache order.key = some given := by
  cases looked : order.found? shelf with
  | some found =>
    rw [serve_of_found looked] at success ⊢
    cases success
    rwa [found?, if_pos caching] at looked
  | none =>
    cases made : order.result with
    | error error =>
      rw [serve_of_error looked made] at success
      cases success
    | ok compiled =>
      rw [serve_of_ok looked made] at success ⊢
      cases success
      dsimp only
      rw [if_pos caching, Shelf.compiled?_put, if_pos ⟨rfl, rfl⟩]

end Order

namespace Repository

open WorkM

variable {directory : Directory} {workspace : Workspace}

/-- Whichever layouts a repository has afterwards, they are those of their plans. -/
theorem outcome_layout_of_get (keeps : directory.Keeps workspace) {repository : Repository}
    {plan : Plan} {layout : StructLayout} {layouts : LayoutCache}
    (sound : ∀ other given, Entries.get? other layouts.entries = some given →
      StructLayout.ofPlan other = .ok given)
    (got : (workspace.memory repository.id).layouts.get plan = .ok (layout, layouts)) :
    ∃ after, outcome (repository.layout plan) workspace = (.ok layout, after) ∧
      after.shelf = workspace.shelf ∧ directory.Keeps after ∧
      ∀ id key, after.kept? id key = workspace.kept? id key := by
  let after := workspace.withMemory repository.id
    { workspace.memory repository.id with layouts := layouts }
  have ran : outcome (repository.layout plan) workspace = (.ok layout, after) := by
    rw [Repository.layout, outcome_get_bind]
    change outcome (MonadExcept.ofExcept ((workspace.memory repository.id).layouts.get plan) >>= _)
      workspace = _
    rw [got]
    rfl
  have kept : ∀ id key, after.kept? id key = workspace.kept? id key := by
    intro id key
    rw [Workspace.kept?_withMemory]
    split
    · rename_i here
      rw [here]
      rfl
    · rfl
  refine ⟨after, ran, rfl, ⟨?_, ?_⟩, kept⟩
  · intro id other given there
    rw [Workspace.layout?_withMemory] at there
    split at there
    · exact sound other given there
    · exact keeps.layouts id other given there
  · intro id type tree customization mapped owns there
    rw [kept] at there
    exact keeps.commands id type tree customization mapped owns there

/-- The layout of a plan, kept or made, is the one of the plan. -/
theorem outcome_layout (keeps : directory.Keeps workspace) (repository : Repository)
    {plan : Plan} {layout : StructLayout} (laid : StructLayout.ofPlan plan = .ok layout) :
    ∃ after, outcome (repository.layout plan) workspace = (.ok layout, after) ∧
      after.shelf = workspace.shelf ∧ directory.Keeps after ∧
      ∀ id key, after.kept? id key = workspace.kept? id key := by
  have known := keeps.layouts repository.id
  cases there : workspace.layout? repository.id plan with
  | some given =>
    have same : given = layout := by
      have made := known plan given there
      rw [laid] at made
      exact (Except.ok.inj made).symm
    refine outcome_layout_of_get keeps known ?_
    unfold Workspace.layout? at there
    rw [LayoutCache.get, there, same]
  | none =>
    let layouts := (workspace.memory repository.id).layouts
    refine @outcome_layout_of_get _ _ keeps _ _ _ ⟨(plan, layout) :: layouts.entries⟩ ?_ ?_
    · intro other given found
      rw [Entries.get?_cons] at found
      split at found
      · rename_i same
        cases found
        rw [same, laid]
      · exact known other given found
    · unfold Workspace.layout? at there
      rw [LayoutCache.get, there, laid]
      rfl

/-- The compiler serves the repository, which adds the layout of the plan. -/
theorem outcome_compileCommand (keeps : directory.Keeps workspace) (repository : Repository)
    (type : CommandType) {tree : RelationTree} {layout : StructLayout}
    (laid : StructLayout.ofPlan tree.toPlan = .ok layout) (customization : Option Customization) :
    let served := (repository.order type tree customization).serve workspace.shelf
    ∃ after, outcome (repository.compileCommand type tree customization) workspace =
        (served.1.map fun given => ⟨given, layout⟩, after) ∧
      after.shelf = served.2 ∧ directory.Keeps after ∧
      ∀ id key, after.kept? id key = workspace.kept? id key := by
  intro served
  obtain ⟨middle, ran, shelved, same⟩ :=
    (repository.order type tree customization).outcome_run workspace
  have memories := Workspace.memory_congr same
  have keptMiddle : directory.Keeps middle := by
    refine keeps.grow same fun cache key found there => ?_
    change middle.shelf.compiled? cache key = some found
    rw [shelved]
    exact Order.compiled?_serve there
  have commands : ∀ id key, middle.kept? id key = workspace.kept? id key := by
    intro id key
    rw [Workspace.kept?, memories]
    rfl
  change ∃ after, outcome ((repository.order type tree customization).run >>= _) workspace = _ ∧ _
  change outcome _ workspace = (served.1, middle) at ran
  cases answer : served.1 with
  | error error =>
    rw [answer] at ran
    exact ⟨middle, outcome_bind_of_error ran, shelved, keptMiddle, commands⟩
  | ok given =>
    rw [answer] at ran
    obtain ⟨after, found, shelf, keptAfter, unchanged⟩ := outcome_layout keptMiddle repository laid
    refine ⟨after, ?_, shelf.trans shelved, keptAfter, fun id key => ?_⟩
    · rw [outcome_bind_of_ok ran]
      exact outcome_bind_of_ok found
    · rw [unchanged, commands]

section Command

variable {repository : Repository} {typeName : String} {type : CommandType} {tree : RelationTree}
  {customization : Option Customization}

theorem outcome_command_of_uncached (typed : CommandType.ofName typeName = .ok type)
    (off : repository.catalog.settings.cacheCommands = false) :
    outcome (repository.command typeName tree customization) workspace =
      outcome (repository.compileCommand type tree customization) workspace := by
  rw [command, typed, outcome_bind_of_ok (outcome_ofExcept _ _), if_neg (ne_true_of_eq_false off)]

theorem outcome_command_of_cached (typed : CommandType.ofName typeName = .ok type)
    (on : repository.catalog.settings.cacheCommands = true) :
    outcome (repository.command typeName tree customization) workspace =
      outcome (getOrCompute (·.commands repository.id) (·.withCommands repository.id ·)
        (key type tree customization)
          (repository.compileCommand type tree customization)) workspace := by
  rw [command, typed, outcome_bind_of_ok (outcome_ofExcept _ _), if_pos on]
  rfl

theorem outcome_command_of_found (typed : CommandType.ofName typeName = .ok type)
    (on : repository.catalog.settings.cacheCommands = true) {mapped : MappedCommand}
    (there : workspace.kept? repository.id (key type tree customization) = some mapped) :
    outcome (repository.command typeName tree customization) workspace =
      (.ok mapped, workspace.withCommands repository.id
        ((workspace.commands repository.id).opened (key type tree customization)).countHit) := by
  rw [outcome_command_of_cached typed on]
  exact outcome_getOrCompute_of_found there

theorem outcome_command_of_ok (typed : CommandType.ofName typeName = .ok type)
    (on : repository.catalog.settings.cacheCommands = true)
    (missing : workspace.kept? repository.id (key type tree customization) = none)
    {mapped : MappedCommand} {after : Workspace}
    (success : outcome (repository.compileCommand type tree customization) workspace =
      (.ok mapped, after)) :
    outcome (repository.command typeName tree customization) workspace =
      (.ok mapped, after.withCommands repository.id
        (((workspace.commands repository.id).opened (key type tree customization)).filled
          (key type tree customization) mapped)) := by
  rw [outcome_command_of_cached typed on]
  refine outcome_getOrCompute_of_ok ?_ success
  exact missing

theorem outcome_command_of_error (typed : CommandType.ofName typeName = .ok type)
    (on : repository.catalog.settings.cacheCommands = true)
    (missing : workspace.kept? repository.id (key type tree customization) = none)
    {error : Fault} {after : Workspace}
    (failed : outcome (repository.compileCommand type tree customization) workspace =
      (.error error, after)) :
    outcome (repository.command typeName tree customization) workspace =
      (.error error, after.withCommands repository.id
        (((workspace.commands repository.id).opened (key type tree customization)).abandoned
          (key type tree customization))) := by
  rw [outcome_command_of_cached typed on]
  refine outcome_getOrCompute_of_error ?_ failed
  exact missing

end Command

/-- On a shelf a repository that owns a tree does what its compiler does. -/
theorem outcome_command (keeps : directory.Keeps workspace) {repository : Repository}
    (listed : directory.repositories repository.id = repository) {tree : RelationTree}
    (owns : repository.Owns tree) {layout : StructLayout}
    (laid : StructLayout.ofPlan tree.toPlan = .ok layout) {typeName : String} {type : CommandType}
    (typed : CommandType.ofName typeName = .ok type) (customization : Option Customization) :
    let served := (repository.order type tree customization).serve workspace.shelf
    ∃ after, outcome (repository.command typeName tree customization) workspace =
        (served.1.map fun given => ⟨given, layout⟩, after) ∧
      after.shelf = served.2 ∧ directory.Keeps after := by
  intro served
  obtain ⟨middle, ran, shelved, keptMiddle, commands⟩ :=
    outcome_compileCommand keeps repository type laid customization
  change outcome _ workspace = (served.1.map _, middle) at ran
  change middle.shelf = served.2 at shelved
  cases caching : repository.catalog.settings.cacheCommands with
  | false =>
    rw [outcome_command_of_uncached typed caching]
    exact ⟨middle, ran, shelved, keptMiddle⟩
  | true =>
    cases there : workspace.kept? repository.id (key type tree customization) with
    | some mapped =>
      have held := keeps.commands repository.id type tree customization mapped
        (by rw [listed]; exact owns) there
      rw [listed] at held
      have same : mapped.layout = layout := Except.ok.inj (held.1.symm.trans laid)
      have looked : (repository.order type tree customization).found? workspace.shelf =
          some mapped.command := (if_pos caching).trans held.2
      have answered : served = (.ok mapped.command, workspace.shelf) := Order.serve_of_found looked
      rw [outcome_command_of_found typed caching there, answered, ← same]
      refine ⟨_, rfl, rfl, keeps.withCommands fun type' other customization' kept owned found => ?_⟩
      rw [OnceCache.get?_countHit, OnceCache.get?_opened] at found
      exact keeps.commands repository.id type' other customization' kept owned found
    | none =>
      cases answer : served.1 with
      | error error =>
        rw [answer] at ran
        refine ⟨_, outcome_command_of_error typed caching there ran, shelved,
          keptMiddle.withCommands ?_⟩
        intro type' other customization' mapped ownsOther found
        rw [OnceCache.get?_abandoned, OnceCache.get?_opened] at found
        exact keptMiddle.commands repository.id type' other customization' mapped ownsOther
          ((commands _ _).trans found)
      | ok given =>
        rw [answer] at ran
        refine ⟨_, outcome_command_of_ok typed caching there ran, shelved,
          keptMiddle.withCommands ?_⟩
        intro type' other customization' mapped ownsOther found
        rw [OnceCache.get?_filled, OnceCache.get?_opened] at found
        split at found
        · rename_i same
          cases found
          rw [listed] at ownsOther ⊢
          have plans : other.toPlan = tree.toPlan := (RepositoryKey.mk.inj same).2.1
          rw [plans, order_key_eq ownsOther owns same]
          have caches : (repository.order type tree customization).caches = true := caching
          refine ⟨laid, ?_⟩
          change middle.shelf.compiled? _ _ = _
          rw [shelved]
          exact Order.compiled?_of_serve caches answer
        · exact keptMiddle.commands repository.id type' other customization' mapped ownsOther
            ((commands _ _).trans found)

end Repository

end RelationGraph
