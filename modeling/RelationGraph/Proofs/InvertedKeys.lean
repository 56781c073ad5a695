import Mathlib.Data.List.Dedup
import Mathlib.Data.List.Induction
import Mathlib.Data.List.Perm.Basic
import RelationGraph.Proofs.CommandShapes
import RelationGraph.Proofs.RestrictedWrites

set_option autoImplicit false

namespace RelationGraph

open StoreM

/-- Of ordered pairs that are swapped, the last for a value is found. -/
theorem Entries.get?_ofList_swap {pairs : List (String × String)} (sorted : Sorted pairs)
    {left right : String} :
    get? right (ofList (pairs.map Prod.swap)) = some left ↔
      (left, right) ∈ pairs ∧ ∀ other, (other, right) ∈ pairs → other ≤ left := by
  -- The last pair covers what is before it under its value, and its column is the greatest.
  induction pairs using List.reverseRecOn with
  | nil => simp [ofList, insertAll]
  | append_singleton rest last ih =>
    obtain ⟨column, value⟩ := last
    obtain ⟨before, _, above⟩ := List.pairwise_append.mp sorted
    have less : ∀ other, (other, right) ∈ rest → other < column := fun _ member =>
      above _ member _ (List.mem_singleton_self _)
    have one : get? right (ofList ([(column, value)].map Prod.swap)) =
        if right = value then some column else none := rfl
    rw [List.map_append, get?_ofList_append, one]
    by_cases here : right = value
    · subst here
      rw [if_pos rfl, Option.some_or]
      constructor
      · rintro ⟨⟩
        refine ⟨List.mem_append_right _ (List.mem_singleton_self _), fun other member => ?_⟩
        rcases List.mem_append.mp member with earlier | same
        · exact Std.le_of_lt (less other earlier)
        · cases List.mem_singleton.mp same
          exact Std.le_refl _
      · rintro ⟨member, greatest⟩
        rcases List.mem_append.mp member with earlier | same
        · have most := greatest column (List.mem_append_right _ (List.mem_singleton_self _))
          exact absurd (less left earlier) (Std.not_lt.mpr most)
        · cases List.mem_singleton.mp same
          rfl
    · rw [if_neg here, Option.none_or, ih before]
      simp [here]

namespace JoinKeys

/-- Inverting keeps, for a child column, the last of its parent columns. -/
theorem mem_pairs_invert_iff {keys : JoinKeys} {left right : String} :
    (right, left) ∈ keys.invert.pairs ↔
      (left, right) ∈ keys.pairs ∧ ∀ other, (other, right) ∈ keys.pairs → other ≤ left := by
  have found : keys.invert.get? right = some left ↔ _ := Entries.get?_ofList_swap keys.sorted
  exact ⟨fun member => found.mp (Entries.get?_of_mem keys.nodup_keys_invert member),
    fun last => Entries.mem_of_get? (found.mpr last)⟩

/-- The other mapping has exactly the pairs of this one, with both sides swapped. -/
def Swaps (keys other : JoinKeys) : Prop :=
  ∀ left right, (right, left) ∈ other.pairs ↔ (left, right) ∈ keys.pairs

theorem nodup_pairs (keys : JoinKeys) : keys.pairs.Nodup :=
  List.Nodup.of_map _ keys.sorted.nodup

theorem mem_keys_invert_iff {keys : JoinKeys} {right : String} :
    right ∈ keys.invert.keys ↔ right ∈ keys.values := by
  constructor
  · intro member
    obtain ⟨pair, inside, rfl⟩ := List.mem_map.mp member
    exact mem_values_of_mem_pairs (mem_pairs_of_mem_invert inside)
  · intro member
    obtain ⟨pair, inside, rfl⟩ := List.mem_map.mp member
    obtain ⟨column, found⟩ := exists_mem_invert inside
    exact mem_keys_of_mem_pairs found

theorem size_invert (keys : JoinKeys) : keys.invert.size = keys.values.dedup.length := by
  have same : keys.invert.keys.Perm keys.values.dedup :=
    (List.perm_ext_iff_of_nodup keys.nodup_keys_invert keys.values.nodup_dedup).mpr fun _ =>
      mem_keys_invert_iff.trans List.mem_dedup.symm
  rw [← same.length_eq, SortedMap.keys, List.length_map, SortedMap.size]

theorem size_invert_eq_iff (keys : JoinKeys) :
    keys.invert.size = keys.size ↔ keys.values.Nodup := by
  have full : keys.size = keys.values.length := (List.length_map _).symm
  rw [size_invert, full, ← List.dedup_eq_self]
  exact ⟨keys.values.dedup_sublist.eq_of_length, congrArg List.length⟩

theorem size_invert_le (keys : JoinKeys) : keys.invert.size ≤ keys.size := by
  have full : keys.size = keys.values.length := (List.length_map _).symm
  rw [size_invert, full]
  exact keys.values.dedup_sublist.length_le

/-- Nothing is lost exactly if no two parent columns share a child column. -/
theorem swaps_invert_iff (keys : JoinKeys) : keys.Swaps keys.invert ↔ keys.values.Nodup := by
  constructor
  · intro swaps
    refine List.Nodup.map_on ?_ keys.nodup_pairs
    rintro ⟨left, right⟩ member ⟨other, right'⟩ member' same
    obtain rfl : right = right' := same
    have last := mem_pairs_invert_iff.mp ((swaps left right).mpr member)
    have last' := mem_pairs_invert_iff.mp ((swaps other right).mpr member')
    rw [Std.le_antisymm (last'.2 left member) (last.2 other member')]
  · intro differ left right
    rw [mem_pairs_invert_iff]
    refine and_iff_left_of_imp fun member other member' => ?_
    have same : (other, right) = (left, right) :=
      List.inj_on_of_nodup_map differ member' member rfl
    obtain rfl : other = left := (Prod.mk.inj same).1
    exact Std.le_refl _

theorem ext_of_mem {keys other : JoinKeys} (same : ∀ pair, pair ∈ keys.pairs ↔ pair ∈ other.pairs) :
    keys = other := by
  have permuted : keys.pairs.Perm other.pairs :=
    (List.perm_ext_iff_of_nodup keys.nodup_pairs other.nodup_pairs).mpr same
  exact SortedMap.ext (permuted.eq_of_pairwise
    (fun _ _ _ _ less greater => absurd (Std.lt_trans less greater) Std.lt_irrefl)
    keys.sorted other.sorted)

theorem invert_invert_iff (keys : JoinKeys) : keys.invert.invert = keys ↔ keys.values.Nodup := by
  constructor
  · intro same
    have first := keys.size_invert_le
    have second := keys.invert.size_invert_le
    rw [same] at second
    exact (size_invert_eq_iff keys).mp (Nat.le_antisymm first second)
  · intro differ
    have swaps := (swaps_invert_iff keys).mpr differ
    have back : keys.invert.values.Nodup := by
      refine List.Nodup.map_on ?_ keys.invert.nodup_pairs
      rintro ⟨right, left⟩ member ⟨right', left'⟩ member' same
      obtain rfl : left = left' := same
      have one := Entries.get?_of_mem keys.sorted.nodup ((swaps left right).mp member)
      have other := Entries.get?_of_mem keys.sorted.nodup ((swaps left right').mp member')
      rw [show right = right' from Option.some.inj (one.symm.trans other)]
    refine ext_of_mem fun pair => ?_
    exact ((swaps_invert_iff keys.invert).mpr back pair.2 pair.1).trans (swaps pair.1 pair.2)

end JoinKeys

/-- A relation below the root of a plan and the command in its place. -/
inductive InPlace (node : PlanTree) (command : CommandTree) :
    List PlanTree → List CommandTree → Prop
  | here {nodes : List PlanTree} {commands : List CommandTree}
      (paired : (node, command) ∈ nodes.zip commands) : InPlace node command nodes commands
  | within {nodes : List PlanTree} {commands : List CommandTree} {above : PlanTree}
      {tree : CommandTree} (paired : (above, tree) ∈ nodes.zip commands)
      (inside : InPlace node command above.nodes tree.nodes) : InPlace node command nodes commands

namespace CompileRequest

variable {request : CompileRequest}

theorem mirrors_of_inPlace {node : PlanTree} {command : CommandTree} {nodes : List PlanTree}
    {commands : List CommandTree} (mirrors : List.Forall₂ request.Mirrors nodes commands)
    (placed : InPlace node command nodes commands) : request.Mirrors node command := by
  induction placed with
  | here paired => exact List.forall₂_zip mirrors paired
  | within paired _ ih =>
    cases List.forall₂_zip mirrors paired with
    | intro _ _ _ inner => exact ih inner

theorem mirrors_of_run (setup : request.catalog.SetUp) (unhooked : request.catalog.Unhooked)
    (uncustomized : request.customization = none) {plan : Plan} {store after : Store}
    {compiled : Compiled} (success : outcome (request.run plan) store = (.ok compiled, after)) :
    ∃ root, plan.trees = [root] ∧
      List.Forall₂ request.Mirrors root.nodes compiled.tree.nodes := by
  obtain ⟨_, ran, holds⟩ := request.outcome_run plan
  have given : request.result plan = .ok compiled :=
    congrArg Prod.fst ((ran store).symm.trans success)
  obtain ⟨⟨name, base, link, content, tree, rfl, made, rfl⟩, _⟩ := holds compiled given
  refine ⟨_, rfl, ?_⟩
  rw [(Compiled.tree_ofTree tree).2]
  exact made.nodes.imp fun _ _ inner => inner.mirrors setup unhooked uncustomized

end CompileRequest

namespace JoinKeys

/-- Inverting keeps of the pairs that share a child column the last, so the mapping has as many
pairs as there are child columns. It has every pair swapped, is as large as the keys, and gives them
back when it is inverted, exactly if the child columns differ. Compiling a plan without hooks and
customization puts a command in the place of every relation below the root, and the columns that the
command takes from its parent cover the pairs that the relation joins on exactly then. -/
theorem invert_lossless_iff (keys : JoinKeys) :
    (∀ left right, (right, left) ∈ keys.invert.pairs ↔
      (left, right) ∈ keys.pairs ∧ ∀ other, (other, right) ∈ keys.pairs → other ≤ left) ∧
    keys.invert.size = keys.values.dedup.length ∧
    (keys.Swaps keys.invert ↔ keys.values.Nodup) ∧
    (keys.invert.size = keys.size ↔ keys.values.Nodup) ∧
    (keys.invert.invert = keys ↔ keys.values.Nodup) ∧
    ∀ (request : CompileRequest) (plan : Plan) (store after : Store) (compiled : Compiled),
      request.catalog.SetUp → request.catalog.Unhooked → request.customization = none →
        outcome (request.run plan) store = (.ok compiled, after) →
          ∃ root, plan.trees = [root] ∧
            List.Forall₂ request.Mirrors root.nodes compiled.tree.nodes ∧
            ∀ node child, InPlace node child root.nodes compiled.tree.nodes →
              node.link.keys = keys → ∃ copied, child.command.template.parentKeys = some copied ∧
                ((∀ pair ∈ keys.pairs, pair.swap ∈ copied.pairs) ↔ keys.values.Nodup) := by
  refine ⟨fun _ _ => mem_pairs_invert_iff, keys.size_invert, keys.swaps_invert_iff,
    keys.size_invert_eq_iff, keys.invert_invert_iff, ?_⟩
  intro request plan store after compiled setup unhooked uncustomized success
  obtain ⟨root, single, mirrors⟩ :=
    CompileRequest.mirrors_of_run setup unhooked uncustomized success
  refine ⟨root, single, mirrors, ?_⟩
  rintro node child placed rfl
  cases CompileRequest.mirrors_of_inPlace mirrors placed with
  | intro _ command _ _ =>
    refine ⟨_, command.parentKeys, ?_⟩
    rw [← swaps_invert_iff]
    exact ⟨fun covers left right => ⟨mem_pairs_of_mem_invert, covers (left, right)⟩,
      fun swaps pair => (swaps pair.1 pair.2).mpr⟩

/-- Two columns of users are joined with one of tasks. -/
theorem invert_lossless_iff_shared :
    let keys : JoinKeys := .ofList [("code", "owner"), ("id", "owner")]
    let plan : Plan := .relation "users" ⟨"users", "users"⟩ .root
      [.relation "tasks" ⟨"tasks", "tasks"⟩ ⟨keys, some .many, some "tasks"⟩ []]
    keys.invert.pairs = [("owner", "id")] ∧
      (keys.Swaps keys.invert ↔ keys.values.Nodup) ∧
      ∃ compiled after root,
        outcome ((Sample.request .create).run plan) ∅ = (.ok compiled, after) ∧
          plan.trees = [root] ∧
          List.Forall₂ (Sample.request .create).Mirrors root.nodes compiled.tree.nodes ∧
          ∀ node child, InPlace node child root.nodes compiled.tree.nodes →
            node.link.keys = keys → ∃ copied, child.command.template.parentKeys = some copied ∧
              ((∀ pair ∈ keys.pairs, pair.swap ∈ copied.pairs) ↔ keys.values.Nodup) := by
  intro keys plan
  obtain ⟨_, _, swaps, _, _, compiles⟩ := invert_lossless_iff keys
  have ran : outcome ((Sample.request .create).run plan) ∅ = _ := rfl
  obtain ⟨root, rest⟩ := compiles (Sample.request .create) plan ∅ _ _ Sample.overMemory.setUp
    Sample.overMemory.unhooked rfl ran
  exact ⟨rfl, swaps, _, _, root, ran, rest⟩

end JoinKeys

namespace Sample

/-- Two columns share one, of which inverting keeps the last. -/
theorem not_swaps_shared :
    let keys : JoinKeys := .ofList [("a", "x"), ("b", "x")]
    keys.invert.pairs = [("x", "b")] ∧ ¬keys.Swaps keys.invert ∧
      keys.invert.size ≠ keys.size ∧ keys.invert.invert ≠ keys := by
  intro keys
  refine ⟨rfl, fun swaps => ?_, by decide, by decide⟩
  have kept : ("x", "a") ∈ keys.invert.pairs := (swaps "a" "x").mpr List.mem_cons_self
  revert kept
  decide

end Sample

end RelationGraph
