import RelationGraph.Proofs.RepositorySteps

set_option autoImplicit false

namespace RelationGraph

inductive Inquiry where
  | compile (compiler : Compiler) (typeName adapter : String) (plan : Plan)
      (customization : Option Customization)
  | command (repository : Repository) (typeName : String) (tree : RelationTree)
      (customization : Option Customization)

/-- What answers a request: a command and, from a repository, its layout. -/
structure Answer where
  command : CompiledInstance
  layout : Option StructLayout

namespace Inquiry

def compiler : Inquiry → Compiler
  | .compile compiler _ _ _ _ => compiler
  | .command repository _ _ _ => repository.compiler

def typeName : Inquiry → String
  | .compile _ typeName _ _ _ => typeName
  | .command _ typeName _ _ => typeName

def adapter : Inquiry → String
  | .compile _ _ adapter _ _ => adapter
  | .command _ _ tree _ => tree.relation.adapter

def plan : Inquiry → Plan
  | .compile _ _ _ plan _ => plan
  | .command _ _ tree _ => tree.toPlan

def customization : Inquiry → Option Customization
  | .compile _ _ _ _ customization => customization
  | .command _ _ _ customization => customization

def layout? : Inquiry → Option StructLayout
  | .compile .. => none
  | .command _ _ tree _ => (StructLayout.ofPlan tree.toPlan).toOption

/-- The request to the compiler, unless there is no type of the name. -/
def order (inquiry : Inquiry) : Except Fault Order := do
  let type ← CommandType.ofName inquiry.typeName
  return ⟨inquiry.compiler, type, inquiry.adapter, inquiry.plan, inquiry.customization⟩

def run : Inquiry → WorkM Answer
  | .compile compiler typeName adapter plan customization => do
    return ⟨← compiler.compile typeName adapter plan customization, none⟩
  | .command repository typeName tree customization => do
    let mapped ← repository.command typeName tree customization
    return ⟨mapped.command, some mapped.layout⟩

end Inquiry

structure Event where
  inquiry : Inquiry
  before : Workspace
  answer : Except Fault Answer
  after : Workspace

namespace Inquiry

def event (inquiry : Inquiry) (workspace : Workspace) : Event :=
  ⟨inquiry, workspace, (WorkM.outcome inquiry.run workspace).1,
    (WorkM.outcome inquiry.run workspace).2⟩

def events : List Inquiry → Workspace → List Event
  | [], _ => []
  | inquiry :: rest, workspace =>
    inquiry.event workspace :: events rest (inquiry.event workspace).after

end Inquiry

/-- The identities in a request name its objects, and the tree of a repository's command is its own.
-/
structure Directory.Lists (directory : Directory) (inquiry : Inquiry) : Prop where
  catalog : directory.catalogs inquiry.compiler.catalog.id = inquiry.compiler.catalog
  customization : ∀ customization ∈ inquiry.customization,
    directory.customizations customization.id = customization
  repository : ∀ repository typeName tree customization,
    inquiry = .command repository typeName tree customization →
      directory.repositories repository.id = repository ∧ repository.Owns tree

namespace Directory

variable {directory : Directory} {customization : Option Customization}

theorem lists_compile {compiler : Compiler}
    (catalog : directory.catalogs compiler.catalog.id = compiler.catalog)
    (named : ∀ given ∈ customization, directory.customizations given.id = given)
    (typeName adapter : String) (plan : Plan) :
    directory.Lists (.compile compiler typeName adapter plan customization) :=
  ⟨catalog, named, fun _ _ _ _ same => (by cases same)⟩

theorem lists_command {repository : Repository} {tree : RelationTree}
    (catalog : directory.catalogs repository.catalog.id = repository.catalog)
    (named : ∀ given ∈ customization, directory.customizations given.id = given)
    (listed : directory.repositories repository.id = repository) (owns : repository.Owns tree)
    (typeName : String) : directory.Lists (.command repository typeName tree customization) := by
  refine ⟨catalog, named, ?_⟩
  intro other name given custom same
  cases same
  exact ⟨listed, owns⟩

end Directory

namespace Inquiry

variable {inquiry : Inquiry} {directory : Directory} {workspace : Workspace}

theorem order_eq_error {error : Fault} :
    inquiry.order = .error error ↔ CommandType.ofName inquiry.typeName = .error error := by
  unfold order
  cases CommandType.ofName inquiry.typeName with
  | error fault => exact ⟨fun same => Except.error.inj same ▸ rfl, fun same => same ▸ rfl⟩
  | ok type => exact ⟨fun same => (by cases same), fun same => (by cases same)⟩

theorem outcome_of_refused {error : Fault} (refused : inquiry.order = .error error) :
    WorkM.outcome inquiry.run workspace = (.error error, workspace) := by
  have failed : WorkM.outcome (MonadExcept.ofExcept (CommandType.ofName inquiry.typeName))
      workspace = (.error error, workspace) := by
    rw [order_eq_error.mp refused, WorkM.outcome_ofExcept]
  cases inquiry with
  | compile compiler typeName adapter plan customization =>
    exact WorkM.outcome_bind_of_error (WorkM.outcome_bind_of_error failed)
  | command repository typeName tree customization =>
    exact WorkM.outcome_bind_of_error (WorkM.outcome_bind_of_error failed)

/-- A request is served on the shelf, whoever it is put to. -/
theorem outcome_of_order (listed : directory.Lists inquiry) (keeps : directory.Keeps workspace)
    {order : Order} (ordered : inquiry.order = .ok order) :
    ∃ after, WorkM.outcome inquiry.run workspace =
        ((order.serve workspace.shelf).1.map fun given => ⟨given, inquiry.layout?⟩, after) ∧
      after.shelf = (order.serve workspace.shelf).2 ∧ directory.Keeps after := by
  obtain ⟨type, typed, made⟩ := Except.bind_eq_ok.mp ordered
  cases made
  cases inquiry with
  | compile compiler typeName adapter plan customization =>
    obtain ⟨after, ran, shelved, same⟩ :=
      (⟨compiler, type, adapter, plan, customization⟩ : Order).outcome_run workspace
    have compiled : WorkM.outcome (compiler.compile typeName adapter plan customization)
        workspace = WorkM.outcome (compiler.compileType type adapter plan customization)
          workspace := by
      change CommandType.ofName typeName = .ok type at typed
      rw [Compiler.compile, typed, WorkM.outcome_bind_of_ok (WorkM.outcome_ofExcept _ _)]
    refine ⟨after, WorkM.outcome_bind_pure (compiled.trans ran) (Answer.mk · none), shelved,
      keeps.grow same fun cache key found there => ?_⟩
    change after.shelf.compiled? cache key = some found
    rw [shelved]
    exact Order.compiled?_serve there
  | command repository typeName tree customization =>
    obtain ⟨named, owns⟩ := listed.repository repository typeName tree customization rfl
    obtain ⟨layout, laid⟩ := tree.exists_ofPlan
    obtain ⟨after, ran, shelved, kept⟩ :=
      Repository.outcome_command keeps named owns laid typed customization
    refine ⟨after, ?_, shelved, kept⟩
    have answered := WorkM.outcome_bind_pure ran fun mapped : MappedCommand =>
      Answer.mk mapped.command (some mapped.layout)
    have layouts : (Inquiry.command repository typeName tree customization).layout? =
        some layout := by
      rw [layout?, laid]
      rfl
    let served := (repository.order type tree customization).serve workspace.shelf
    have shaped : (served.1.map fun given => MappedCommand.mk given layout).map
        (fun mapped => Answer.mk mapped.command (some mapped.layout)) =
          served.1.map fun given => ⟨given, some layout⟩ := by
      cases served.1 <;> rfl
    rw [layouts]
    exact answered.trans (congrArg (·, after) shaped)

end Inquiry

/-! ### A history with two catalogs -/

namespace Sample

def remote : Catalog := { catalog with id := 1 }

/-- All commands answer with lists. -/
def listing : Customization := ⟨0, modify (·.withResult .many)⟩

def repository : Repository := ⟨0, ∅, ⟨catalog, 0⟩⟩

def directory : Directory :=
  ⟨fun id => if id = 0 then catalog else remote, fun _ => listing, fun _ => repository⟩

def user : RelationTree := users.whereEq "id" (.ofNat 1)

/-- Requests that succeed, requests that fail, and repeats of both. -/
def history : List Inquiry :=
  [.compile ⟨catalog, 0⟩ "create" "memory" users.toPlan none,
    .command repository "create" user none,
    .compile ⟨remote, 0⟩ "create" "memory" users.toPlan none,
    .compile ⟨catalog, 0⟩ "upsert" "memory" users.toPlan none,
    .compile ⟨catalog, 0⟩ "create" "memory" (.header [users.toPlan]) none,
    .command repository "create" users (some listing),
    .command repository "create" users none,
    .compile ⟨catalog, 0⟩ "create" "memory" (.header [users.toPlan]) none]

theorem owns_users : repository.Owns users :=
  @Repository.owns_of_built repository overMemory.setUp users built_users

theorem owns_user : repository.Owns user := owns_users

theorem lists_history : ∀ inquiry ∈ history, directory.Lists inquiry := by
  have none : ∀ given ∈ (none : Option Customization), directory.customizations given.id = given :=
    fun _ given => (by cases given)
  have some : ∀ given ∈ some listing, directory.customizations given.id = given := by
    rintro _ ⟨⟩
    rfl
  simp only [history, List.forall_mem_cons]
  exact ⟨Directory.lists_compile rfl none _ _ _, Directory.lists_command rfl none rfl owns_user _,
    Directory.lists_compile rfl none _ _ _, Directory.lists_compile rfl none _ _ _,
    Directory.lists_compile rfl none _ _ _, Directory.lists_command rfl some rfl owns_users _,
    Directory.lists_command rfl none rfl owns_users _, Directory.lists_compile rfl none _ _ _,
    fun _ member => (by cases member)⟩

end Sample

end RelationGraph
