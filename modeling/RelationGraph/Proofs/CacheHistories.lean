import Mathlib.Data.List.Dedup
import RelationGraph.Fault
import RelationGraph.OnceCache
import RelationGraph.Proofs.Tuples

set_option autoImplicit false

namespace RelationGraph

namespace OnceCache

variable {κ υ : Type} [DecidableEq κ] {cache : OnceCache κ υ} {key : κ}

theorem opened_of_get? {value : υ} (found : cache.get? key = some value) :
    cache.opened key = cache := by
  have known : Entries.contains key cache.cells = true := by
    rw [get?] at found
    rw [Entries.contains]
    cases there : Entries.get? key cache.cells with
    | none => simp [there] at found
    | some _ => rfl
  rw [opened, if_pos known]

theorem cells_opened (unknown : Entries.get? key cache.cells = none) :
    (cache.opened key).cells = (key, none) :: cache.cells := by
  rw [opened, if_neg]
  simp [Entries.contains, unknown]

theorem filled_opened (unknown : Entries.get? key cache.cells = none) (value : υ) :
    (cache.opened key).filled key value =
      ⟨(key, some value) :: cache.cells, cache.hits, cache.misses + 1⟩ := by
  have cells := cells_opened unknown
  have erased : Entries.erase key ((key, none) :: cache.cells) = cache.cells := by
    rw [Entries.erase, if_pos rfl, Entries.erase_of_get? unknown]
  rw [filled, cells, erased]
  unfold opened
  split <;> rfl

/-- Opening a cell for a new key and abandoning it leaves the cache as it was. -/
theorem abandoned_opened (unknown : Entries.get? key cache.cells = none) :
    (cache.opened key).abandoned key = cache := by
  have missing : (cache.opened key).contains key = false := by
    rw [contains, get?_opened, get?, unknown]
    rfl
  have erased : Entries.erase key ((key, none) :: cache.cells) = cache.cells := by
    rw [Entries.erase, if_pos rfl, Entries.erase_of_get? unknown]
  rw [abandoned, missing, if_neg (by decide), cells_opened unknown, erased]
  unfold opened
  split <;> rfl

def Full (cache : OnceCache κ υ) : Prop := ∀ cell ∈ cache.cells, cell.2.isSome = true

omit [DecidableEq κ] in
theorem full_empty : (∅ : OnceCache κ υ).Full := fun _ member => (by cases member)

theorem Full.unknown (full : cache.Full) (missing : cache.get? key = none) :
    Entries.get? key cache.cells = none := by
  cases there : Entries.get? key cache.cells with
  | none => rfl
  | some cell =>
    have filled := full _ (Entries.mem_of_get? there)
    rw [get?, there, Option.join_some] at missing
    rw [missing] at filled
    cases filled

theorem Full.countHit_opened (full : cache.Full) {value : υ}
    (found : cache.get? key = some value) : (cache.opened key).countHit.Full := by
  rw [opened_of_get? found]
  exact full

theorem Full.filled_opened (full : cache.Full) (missing : cache.get? key = none) (value : υ) :
    ((cache.opened key).filled key value).Full := by
  rw [OnceCache.filled_opened (full.unknown missing)]
  exact List.forall_mem_cons.mpr ⟨rfl, full⟩

theorem Full.abandoned_opened (full : cache.Full) (missing : cache.get? key = none) :
    (cache.opened key).abandoned key = cache :=
  OnceCache.abandoned_opened (full.unknown missing)

variable {σ ε : Type}

theorem run_request_of_found {value : υ} (found : cache.get? key = some value)
    (compute : StateM σ (Except ε υ)) (world : σ) :
    (cache.request key compute).run world = ((.ok value, cache.countHit), world) := by
  rw [request, get?_opened, found, opened_of_get? found]
  rfl

theorem run_request_of_missing (missing : cache.get? key = none)
    (compute : StateM σ (Except ε υ)) (world : σ) :
    (cache.request key compute).run world =
      (((compute.run world).1, match (compute.run world).1 with
        | .ok value => (cache.opened key).filled key value
        | .error _ => (cache.opened key).abandoned key), (compute.run world).2) := by
  rw [request, get?_opened, missing]
  dsimp only
  rw [StateT.run_bind]
  change (match compute.run world with | (result, after) => _) = _
  rcases compute.run world with ⟨_ | _, after⟩ <;> rfl

end OnceCache

/-! ### Calls -/

inductive CacheCall (σ κ υ : Type) where
  | request (key : κ) (compute : StateM σ (Except Fault υ))
  | get (key : κ)
  | contains (key : κ)
  | size
  | counts

inductive CacheAnswer (υ : Type) where
  | outcome (result : Except Fault υ)
  | value (found : Option υ)
  | truth (found : Bool)
  | number (count : Nat)
  | counts (counts : CacheCounts)

/-- A cache, the state that computations work on, and what was requested so far. -/
structure CacheSession (σ κ υ : Type) where
  cache : OnceCache κ υ
  world : σ
  log : List (κ × Except Fault υ)

namespace CacheSession

variable {σ κ υ : Type}

def fresh (world : σ) : CacheSession σ κ υ := ⟨∅, world, []⟩

def successes (session : CacheSession σ κ υ) : List (κ × υ) :=
  session.log.filterMap fun (key, result) => result.toOption.map (key, ·)

theorem successes_append (log : List (κ × Except Fault υ)) (key : κ) (result : Except Fault υ)
    (cache : OnceCache κ υ) (world : σ) :
    (⟨cache, world, log ++ [(key, result)]⟩ : CacheSession σ κ υ).successes =
      (⟨cache, world, log⟩ : CacheSession σ κ υ).successes ++
        (result.toOption.map (key, ·)).toList := by
  rw [successes, successes, List.filterMap_append]
  cases result <;> rfl

variable [DecidableEq κ]

/-- The value of the first request for a key that succeeded. -/
def first? (session : CacheSession σ κ υ) (key : κ) : Option υ :=
  Entries.get? key session.successes

def keyCount (session : CacheSession σ κ υ) : Nat :=
  (session.successes.map (·.1)).dedup.length

def call (session : CacheSession σ κ υ) :
    CacheCall σ κ υ → CacheAnswer υ × CacheSession σ κ υ
  | .request key compute =>
    let ((result, cache), world) := (session.cache.request key compute).run session.world
    (.outcome result, ⟨cache, world, session.log ++ [(key, result)]⟩)
  | .get key => (.value (session.cache.get? key), session)
  | .contains key => (.truth (session.cache.contains key), session)
  | .size => (.number session.cache.size, session)
  | .counts => (.counts session.cache.counts, session)

def after (session : CacheSession σ κ υ) (calls : List (CacheCall σ κ υ)) :
    CacheSession σ κ υ :=
  calls.foldl (fun session call => (session.call call).2) session

/-- What holds between calls: no cell is empty, each is for another key and holds the first value
of its key, and every success was counted once, as a miss where it made a cell. -/
structure Tight (session : CacheSession σ κ υ) : Prop where
  full : session.cache.Full
  distinct : (session.cache.cells.map (·.1)).Nodup
  shows : ∀ key, session.cache.get? key = session.first? key
  misses : session.cache.misses = session.cache.cells.length
  requests : session.cache.hits + session.cache.misses = session.successes.length

variable {session : CacheSession σ κ υ}

theorem tight_fresh (world : σ) : (fresh world : CacheSession σ κ υ).Tight :=
  ⟨OnceCache.full_empty, List.nodup_nil, fun _ => rfl, rfl, rfl⟩

theorem call_request_of_found {key : κ} {value : υ} (found : session.cache.get? key = some value)
    (compute : StateM σ (Except Fault υ)) :
    session.call (.request key compute) =
      (.outcome (.ok value),
        ⟨session.cache.countHit, session.world, session.log ++ [(key, .ok value)]⟩) := by
  rw [call, OnceCache.run_request_of_found found]

theorem call_request_of_ok (tight : session.Tight) {key : κ}
    (missing : session.cache.get? key = none) {compute : StateM σ (Except Fault υ)} {value : υ}
    {world : σ} (success : compute.run session.world = (.ok value, world)) :
    session.call (.request key compute) =
      (.outcome (.ok value),
        ⟨⟨(key, some value) :: session.cache.cells, session.cache.hits, session.cache.misses + 1⟩,
          world, session.log ++ [(key, .ok value)]⟩) := by
  rw [call, OnceCache.run_request_of_missing missing, success]
  dsimp only
  rw [OnceCache.filled_opened (tight.full.unknown missing)]

theorem call_request_of_error (tight : session.Tight) {key : κ}
    (missing : session.cache.get? key = none) {compute : StateM σ (Except Fault υ)} {error : Fault}
    {world : σ} (failed : compute.run session.world = (.error error, world)) :
    session.call (.request key compute) =
      (.outcome (.error error), ⟨session.cache, world, session.log ++ [(key, .error error)]⟩) := by
  rw [call, OnceCache.run_request_of_missing missing, failed]
  dsimp only
  rw [tight.full.abandoned_opened missing]

theorem Tight.found (tight : session.Tight) {key : κ} {value : υ}
    (found : session.cache.get? key = some value) :
    Tight ⟨session.cache.countHit, session.world, session.log ++ [(key, .ok value)]⟩ := by
  refine ⟨tight.full, tight.distinct, fun other => ?_, tight.misses, ?_⟩
  · rw [OnceCache.get?_countHit, tight.shows, first?, first?, successes_append,
      Entries.get?_append]
    by_cases here : other = key
    · have known := tight.shows key
      rw [found, first?] at known
      rw [here]
      show Entries.get? key session.successes = (Entries.get? key session.successes).or _
      rw [← known, Option.some_or]
    · show _ = (Entries.get? other session.successes).or (Entries.get? other [(key, value)])
      rw [Entries.get?_cons, if_neg here, Entries.get?_nil, Option.or_none]
  · have counted := tight.requests
    rw [successes_append, List.length_append]
    show session.cache.hits + 1 + session.cache.misses = session.successes.length + 1
    omega

theorem Tight.computed (tight : session.Tight) {key : κ} (value : υ)
    (missing : session.cache.get? key = none) (world : σ) :
    Tight ⟨⟨(key, some value) :: session.cache.cells, session.cache.hits, session.cache.misses + 1⟩,
      world, session.log ++ [(key, .ok value)]⟩ := by
  have unknown : key ∉ session.cache.cells.map (·.1) := by
    rw [← Entries.isSome_get?_iff, tight.full.unknown missing]
    simp
  refine ⟨?_, List.nodup_cons.mpr ⟨unknown, tight.distinct⟩, fun other => ?_, ?_, ?_⟩
  · intro cell member
    rcases List.mem_cons.mp member with rfl | inside
    · rfl
    · exact tight.full cell inside
  · have shown := tight.shows other
    rw [OnceCache.get?] at shown
    rw [OnceCache.get?, Entries.get?_cons, first?, successes_append, Entries.get?_append]
    show _ = (Entries.get? other session.successes).or (Entries.get? other [(key, value)])
    rw [Entries.get?_cons]
    by_cases here : other = key
    · have first := tight.shows key
      rw [missing, first?] at first
      rw [here, if_pos rfl, if_pos rfl, ← first, Option.join_some, Option.none_or]
    · rw [if_neg here, if_neg here, Entries.get?_nil, Option.or_none]
      exact shown
  · have counted := tight.misses
    show session.cache.misses + 1 = session.cache.cells.length + 1
    omega
  · have counted := tight.requests
    rw [successes_append, List.length_append]
    show session.cache.hits + (session.cache.misses + 1) = session.successes.length + 1
    omega

theorem Tight.failed (tight : session.Tight) (key : κ) (error : Fault) (world : σ) :
    Tight ⟨session.cache, world, session.log ++ [(key, .error error)]⟩ := by
  have same : (⟨session.cache, world, session.log ++ [(key, .error error)]⟩ :
      CacheSession σ κ υ).successes = session.successes := by
    rw [successes_append]
    exact List.append_nil _
  refine ⟨tight.full, tight.distinct, fun other => ?_, tight.misses, ?_⟩
  · rw [first?, same]
    exact tight.shows other
  · rw [same]
    exact tight.requests

theorem Tight.call (tight : session.Tight) (call : CacheCall σ κ υ) :
    (session.call call).2.Tight := by
  cases call with
  | request key compute =>
    cases there : session.cache.get? key with
    | some value =>
      rw [call_request_of_found there]
      exact tight.found there
    | none =>
      rcases ran : compute.run session.world with ⟨error | value, world⟩
      · rw [call_request_of_error tight there ran]
        exact tight.failed key error world
      · rw [call_request_of_ok tight there ran]
        exact tight.computed value there world
  | get => exact tight
  | contains => exact tight
  | size => exact tight
  | counts => exact tight

theorem Tight.after (tight : session.Tight) (calls : List (CacheCall σ κ υ)) :
    (session.after calls).Tight := by
  induction calls generalizing session with
  | nil => exact tight
  | cons call rest ih => exact ih (tight.call call)

theorem Tight.size (tight : session.Tight) : session.cache.size = session.cache.cells.length := by
  rw [OnceCache.size, List.filter_eq_self.mpr tight.full]

/-- The cells are those of the different keys that were requested with success. -/
theorem Tight.keyCount (tight : session.Tight) :
    session.keyCount = session.cache.cells.length := by
  have same : (session.successes.map (·.1)).dedup.Perm (session.cache.cells.map (·.1)) := by
    refine (List.perm_ext_iff_of_nodup (List.nodup_dedup _) tight.distinct).mpr fun key => ?_
    rw [List.mem_dedup, ← Entries.isSome_get?_iff, ← Entries.isSome_get?_iff]
    have shown := tight.shows key
    rw [first?] at shown
    rw [← shown]
    cases missing : session.cache.get? key with
    | none => simp [tight.full.unknown missing]
    | some value =>
      rw [OnceCache.get?, Option.join_eq_some_iff] at missing
      simp [missing]
  rw [CacheSession.keyCount, same.length_eq, List.length_map]

/-- The cache is the map from each key to the first value that a request for it yielded. -/
structure IsFirstSuccess (session : CacheSession σ κ υ) : Prop where
  get : ∀ key, session.cache.get? key = session.first? key
  contains : ∀ key,
    (session.cache.contains key = true ↔ ∃ value, session.cache.get? key = some value) ∧
    (session.cache.contains key = true ↔ ∃ value, (key, .ok value) ∈ session.log)
  /-- A success is counted as a miss for each different key, and else as a hit. -/
  counts : session.cache.counts =
    ⟨session.cache.hits, session.keyCount, session.keyCount⟩ ∧
    session.cache.size = session.keyCount ∧
    session.cache.hits + session.cache.misses = session.successes.length
  /-- Where there is a value, a request yields it and does not run the computation. -/
  found : ∀ key value, session.first? key = some value → ∀ compute,
    session.call (.request key compute) =
      (.outcome (.ok value),
        ⟨session.cache.countHit, session.world, session.log ++ [(key, .ok value)]⟩)
  /-- Where there is none, it yields what the computation does. -/
  computed : ∀ key, session.first? key = none → ∀ compute,
    (session.call (.request key compute)).1 = .outcome (compute.run session.world).1 ∧
      (session.call (.request key compute)).2.world = (compute.run session.world).2
  failed : ∀ key compute error,
    (session.call (.request key compute)).1 = .outcome (.error error) →
      (session.call (.request key compute)).2.cache = session.cache

theorem Tight.isFirstSuccess (tight : session.Tight) : session.IsFirstSuccess := by
  have shown : ∀ key, session.cache.get? key = session.first? key := tight.shows
  refine ⟨shown, fun key => ⟨Option.isSome_iff_exists, ?_⟩, ⟨?_, ?_, tight.requests⟩, ?_, ?_, ?_⟩
  · rw [OnceCache.contains, shown, first?, Entries.isSome_get?_iff, List.mem_map]
    constructor
    · rintro ⟨⟨other, value⟩, member, rfl⟩
      obtain ⟨⟨known, result⟩, logged, made⟩ := List.mem_filterMap.mp member
      cases result with
      | error _ => cases made
      | ok own =>
        cases made
        exact ⟨value, logged⟩
    · rintro ⟨value, logged⟩
      exact ⟨(key, value), List.mem_filterMap.mpr ⟨(key, .ok value), logged, rfl⟩, rfl⟩
  · rw [OnceCache.counts, tight.size, tight.keyCount, tight.misses]
  · rw [tight.size, tight.keyCount]
  · intro key value first compute
    exact call_request_of_found ((shown key).trans first) compute
  · intro key first compute
    have missing : session.cache.get? key = none := (shown key).trans first
    rcases ran : compute.run session.world with ⟨error | value, world⟩
    · rw [call_request_of_error tight missing ran]
      exact ⟨rfl, rfl⟩
    · rw [call_request_of_ok tight missing ran]
      exact ⟨rfl, rfl⟩
  · intro key compute error refused
    cases there : session.cache.get? key with
    | some value =>
      rw [call_request_of_found there] at refused
      cases refused
    | none =>
      rcases ran : compute.run session.world with ⟨other | value, world⟩
      · rw [call_request_of_error tight there ran]
      · rw [call_request_of_ok tight there ran] at refused
        cases refused

/-- After every history a cache is the map of first successes. -/
theorem isFirstSuccess_after (world : σ) (calls : List (CacheCall σ κ υ)) :
    ((fresh world).after calls).IsFirstSuccess :=
  ((tight_fresh world).after calls).isFirstSuccess

example :
    ((fresh () : CacheSession Unit String Nat).after
      [.request "users" (pure (.error (.invalidInput (.stated "closed")))),
        .request "users" (pure (.ok 7)), .get "tasks", .request "users" (pure (.ok 8))]).cache =
      ⟨[("users", some 7)], 1, 1⟩ := rfl

end CacheSession

end RelationGraph
