import RelationGraph.OnceCache
import RelationGraph.Command.Compiled
import RelationGraph.StructLayout

/-!
Workspaces: everything that changes while relations are used.

A workspace holds the stored rows, the caches of compiled commands and what repositories keep.
Catalogs, compilers and repositories are descriptions without state; they refer to their part of
the workspace by an identity, of which the workspace hands out new ones.
-/

set_option autoImplicit false

namespace RelationGraph

/-- A configuration to be made for every command of a compilation. -/
structure Customization where
  /-- The identity: customizations are the same if it is. -/
  id : Nat
  configure : Configure Unit

/-- A compiled command with the identity of its compilation. -/
structure CompiledInstance where
  id : Nat
  compiled : Compiled

structure RequestKey where
  catalog : Nat
  type : CommandType
  adapter : String
  plan : Plan
  customization : Option Nat
deriving DecidableEq

abbrev CommandCache := OnceCache RequestKey CompiledInstance

structure MappedCommand where
  command : CompiledInstance
  layout : StructLayout

structure RepositoryKey where
  type : CommandType
  plan : Plan
  customization : Option Nat
deriving DecidableEq

structure RepositoryMemory where
  commands : OnceCache RepositoryKey MappedCommand
  layouts : LayoutCache

def RepositoryMemory.empty : RepositoryMemory := ⟨∅, ∅⟩

structure Workspace where
  store : Store
  /-- The caches of compiled commands, by identity. -/
  caches : SortedMap Nat CommandCache
  repositories : SortedMap Nat RepositoryMemory
  nextId : Nat

namespace Workspace

def empty : Workspace := ⟨∅, ∅, ∅, 0⟩

def cache (workspace : Workspace) (id : Nat) : CommandCache := (workspace.caches.get? id).getD ∅

def withCache (workspace : Workspace) (id : Nat) (cache : CommandCache) : Workspace :=
  { workspace with caches := workspace.caches.insert id cache }

def memory (workspace : Workspace) (id : Nat) : RepositoryMemory :=
  (workspace.repositories.get? id).getD .empty

def withMemory (workspace : Workspace) (id : Nat) (memory : RepositoryMemory) : Workspace :=
  { workspace with repositories := workspace.repositories.insert id memory }

def commands (workspace : Workspace) (id : Nat) : OnceCache RepositoryKey MappedCommand :=
  (workspace.memory id).commands

def withCommands (workspace : Workspace) (id : Nat)
    (commands : OnceCache RepositoryKey MappedCommand) : Workspace :=
  workspace.withMemory id { workspace.memory id with commands := commands }

end Workspace

/-- A step in a workspace that may fail; what it has changed stays. -/
abbrev WorkM := ExceptT Fault (StateM Workspace)

namespace WorkM

def ofStore {α : Type} (act : StoreM α) : WorkM α := ExceptT.mk fun workspace =>
  let (result, store) := act.run.run workspace.store
  (result, { workspace with store := store })

/-- A step whose failure is part of what it yields. -/
def attempt {α : Type} (act : WorkM α) : WorkM (Except Fault α) :=
  ExceptT.mk do return .ok (← act.run)

/-- The value of a key in one of the caches, computed if it is not there. However the computation
ends, the cache is written back. -/
def getOrCompute {κ υ : Type} [DecidableEq κ] (cache : Workspace → OnceCache κ υ)
    (write : Workspace → OnceCache κ υ → Workspace) (key : κ) (compute : WorkM υ) : WorkM υ := do
  let (result, cache) ← (cache (← get)).request key (attempt compute)
  modify (write · cache)
  MonadExcept.ofExcept result

def reading {α : Type} (look : Store → Except Fault α) : WorkM α := do
  MonadExcept.ofExcept (look (← get).store)

def fresh : WorkM Nat := do
  let id := (← get).nextId
  modify fun workspace => { workspace with nextId := id + 1 }
  return id

end WorkM

end RelationGraph
