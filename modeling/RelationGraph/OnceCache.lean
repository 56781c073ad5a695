import RelationGraph.Entries
import RelationGraph.Json.Value

/-!
Caches that compute the value of a key once.

A key that is asked for gets a cell. The value is computed into it, and later requests find it
there; a computation that fails takes its empty cell away again. Nothing else is ever dropped. A
cache counts how often a value was found and how often it had to be computed. Empty cells are no
entries: nothing that looks at a cache sees them.
-/

set_option autoImplicit false

namespace RelationGraph

structure OnceCache (κ υ : Type) where
  /-- The cells by key; empty where the value is still to be computed. -/
  cells : List (κ × Option υ)
  hits : Nat
  misses : Nat

structure CacheCounts where
  hits : Nat
  misses : Nat
  entries : Nat
deriving DecidableEq, Inhabited

/-- The share of requests for which a value was found; zero where there was no request. -/
def CacheCounts.ratio (counts : CacheCounts) : Binary64 :=
  if counts.hits + counts.misses = 0 then ⟨0⟩
  else .ofRatio counts.hits (counts.hits + counts.misses)

namespace OnceCache

variable {κ υ : Type}

def empty : OnceCache κ υ := ⟨[], 0, 0⟩

instance : EmptyCollection (OnceCache κ υ) := ⟨empty⟩

instance : Inhabited (OnceCache κ υ) := ⟨empty⟩

def size (cache : OnceCache κ υ) : Nat := (cache.cells.filter (·.2.isSome)).length

def isEmpty (cache : OnceCache κ υ) : Bool := cache.size == 0

def counts (cache : OnceCache κ υ) : CacheCounts := ⟨cache.hits, cache.misses, cache.size⟩

def countHit (cache : OnceCache κ υ) : OnceCache κ υ :=
  { cache with hits := cache.hits + 1 }

variable [DecidableEq κ]

def get? (cache : OnceCache κ υ) (key : κ) : Option υ := (Entries.get? key cache.cells).join

def contains (cache : OnceCache κ υ) (key : κ) : Bool := (cache.get? key).isSome

def opened (cache : OnceCache κ υ) (key : κ) : OnceCache κ υ :=
  if Entries.contains key cache.cells then cache
  else { cache with cells := (key, none) :: cache.cells }

def filled (cache : OnceCache κ υ) (key : κ) (value : υ) : OnceCache κ υ :=
  { cache with
    cells := (key, some value) :: Entries.erase key cache.cells
    misses := cache.misses + 1 }

/-- The cache without the cell of a key, if that is empty. -/
def abandoned (cache : OnceCache κ υ) (key : κ) : OnceCache κ υ :=
  if cache.contains key then cache else { cache with cells := Entries.erase key cache.cells }

/-- The value of a key, computed if it is not there, and the cache afterwards. -/
def request {m : Type → Type} [Monad m] {ε : Type} (cache : OnceCache κ υ) (key : κ)
    (compute : m (Except ε υ)) : m (Except ε υ × OnceCache κ υ) := do
  let cache := cache.opened key
  match cache.get? key with
  | some value => return (.ok value, cache.countHit)
  | none =>
    match ← compute with
    | .ok value => return (.ok value, cache.filled key value)
    | .error error => return (.error error, cache.abandoned key)

@[simp] theorem get?_empty (key : κ) : (∅ : OnceCache κ υ).get? key = none := rfl

@[simp] theorem get?_countHit (cache : OnceCache κ υ) (key : κ) :
    cache.countHit.get? key = cache.get? key := rfl

/-- An empty cell shows nothing. -/
@[simp] theorem get?_opened (cache : OnceCache κ υ) (key other : κ) :
    (cache.opened key).get? other = cache.get? other := by
  unfold opened
  split
  · rfl
  · rename_i unknown
    have missing : Entries.get? key cache.cells = none := by
      simpa [Entries.contains] using unknown
    rw [get?, get?, Entries.get?_cons]
    split
    · rename_i same
      rw [same, missing]
      rfl
    · rfl

theorem get?_filled (cache : OnceCache κ υ) (key other : κ) (value : υ) :
    (cache.filled key value).get? other = if other = key then some value else cache.get? other := by
  rw [get?, filled, Entries.get?_cons]
  by_cases here : other = key
  · rw [if_pos here, if_pos here, Option.join_some]
  · rw [if_neg here, if_neg here, Entries.get?_erase, if_neg here, get?]

/-- An empty cell can be taken away unseen. -/
@[simp] theorem get?_abandoned (cache : OnceCache κ υ) (key other : κ) :
    (cache.abandoned key).get? other = cache.get? other := by
  unfold abandoned
  split
  · rfl
  · rename_i missing
    rw [get?, Entries.get?_erase]
    split
    · rename_i here
      have none : cache.get? key = none := by simpa [contains] using missing
      rw [here, Option.join_none]
      exact none.symm
    · rfl

end OnceCache

end RelationGraph
