import RelationGraph.Proofs.ValueEquality

set_option autoImplicit false

namespace RelationGraph

theorem Json.isNull_of_beq {value other : Json} (equal : (value == other) = true) :
    value.isNull = other.isNull := by
  change same value other = true at equal
  cases value <;> cases other <;> simp_all [same, isNull]

namespace Entries

variable {κ α : Type} [DecidableEq κ]

theorem mem_of_get? {key : κ} {value : α} {entries : List (κ × α)}
    (found : get? key entries = some value) : (key, value) ∈ entries := by
  induction entries with
  | nil => cases found
  | cons entry rest ih =>
    obtain ⟨head, given⟩ := entry
    rw [get?_cons] at found
    split at found
    · rename_i same
      cases found
      exact same ▸ List.mem_cons_self
    · exact List.mem_cons_of_mem _ (ih found)

theorem erase_eq_filter (key : κ) (entries : List (κ × α)) :
    erase key entries = entries.filter fun entry => entry.1 ≠ key := by
  induction entries with
  | nil => rfl
  | cons entry rest ih =>
    obtain ⟨head, value⟩ := entry
    rw [erase]
    by_cases same : key = head
    · rw [if_pos same, ih, List.filter_cons_of_neg (by simp [same])]
    · rw [if_neg same, ih, List.filter_cons_of_pos (by simp [Ne.symm same])]

theorem get?_append (key : κ) (first second : List (κ × α)) :
    get? key (first ++ second) = (get? key first).or (get? key second) := by
  induction first with
  | nil => rfl
  | cons entry rest ih =>
    obtain ⟨head, value⟩ := entry
    rw [List.cons_append, get?_cons, get?_cons, ih]
    split <;> rfl

theorem isSome_get?_iff {key : κ} {entries : List (κ × α)} :
    (get? key entries).isSome = true ↔ key ∈ entries.map (·.1) := by
  induction entries with
  | nil => simp
  | cons entry rest ih =>
    obtain ⟨head, value⟩ := entry
    rw [get?_cons, List.map_cons, List.mem_cons, ← ih]
    by_cases here : key = head
    · simp [here]
    · simp [here]

theorem get?_filter {key : κ} {keep : κ × α → Bool} (kept : ∀ value, keep (key, value) = true)
    (entries : List (κ × α)) : get? key (entries.filter keep) = get? key entries := by
  induction entries with
  | nil => rfl
  | cons entry rest ih =>
    obtain ⟨head, value⟩ := entry
    by_cases here : keep (head, value) = true
    · rw [List.filter_cons_of_pos here, get?_cons, get?_cons, ih]
    · have other : key ≠ head := by
        rintro rfl
        exact here (kept value)
      rw [List.filter_cons_of_neg here, get?_cons, if_neg other, ih]

theorem erase_of_get? {key : κ} {entries : List (κ × α)} (missing : get? key entries = none) :
    erase key entries = entries := by
  rw [erase_eq_filter, List.filter_eq_self]
  intro entry member
  have known : key ∉ entries.map (·.1) := by
    rw [← isSome_get?_iff, missing]
    simp
  have different : entry.1 ≠ key := fun same => known (same ▸ List.mem_map_of_mem member)
  simpa using different

variable [LT κ] [DecidableLT κ]

theorem mem_of_mem_insertAll {pairs entries : List (κ × α)} {pair : κ × α}
    (member : pair ∈ insertAll pairs entries) : pair ∈ pairs ∨ pair ∈ entries := by
  induction pairs generalizing entries with
  | nil => exact Or.inr member
  | cons first rest ih =>
    rcases ih member with given | earlier
    · exact Or.inl (List.mem_cons_of_mem _ given)
    · rcases mem_insert earlier with same | known
      · exact Or.inl (same ▸ List.mem_cons_self)
      · exact Or.inr known

theorem get?_insertAll_of_fresh {key : κ} {pairs entries : List (κ × α)}
    (fresh : ∀ pair ∈ pairs, pair.1 ≠ key) :
    get? key (insertAll pairs entries) = get? key entries := by
  induction pairs generalizing entries with
  | nil => rfl
  | cons first rest ih =>
    obtain ⟨different, fresh⟩ := List.forall_mem_cons.mp fresh
    rw [insertAll, List.foldl_cons, ← insertAll, ih fresh, get?_insert_of_ne different.symm]

theorem get?_insertAll_of_mem {pairs entries : List (κ × α)} {pair : κ × α}
    (distinct : (pairs.map (·.1)).Nodup) (member : pair ∈ pairs) :
    get? pair.1 (insertAll pairs entries) = some pair.2 := by
  induction pairs generalizing entries with
  | nil => cases member
  | cons first rest ih =>
    obtain ⟨fresh, distinct⟩ := List.nodup_cons.mp distinct
    rw [insertAll, List.foldl_cons, ← insertAll]
    rcases List.mem_cons.mp member with rfl | later
    · rw [get?_insertAll_of_fresh, get?_insert_self]
      rintro other inside same
      exact fresh (List.mem_map.mpr ⟨other, inside, same⟩)
    · exact ih distinct later

theorem exists_get?_insertAll {pairs : List (κ × α)} {pair : κ × α} (member : pair ∈ pairs)
    (entries : List (κ × α)) : ∃ value, get? pair.1 (insertAll pairs entries) = some value := by
  induction pairs generalizing pair entries with
  | nil => cases member
  | cons first rest ih =>
    rw [insertAll, List.foldl_cons, ← insertAll]
    by_cases later : ∃ other ∈ rest, other.1 = pair.1
    · obtain ⟨other, inside, same⟩ := later
      exact same ▸ ih inside _
    · rcases List.mem_cons.mp member with rfl | inside
      · refine ⟨pair.2, ?_⟩
        rw [get?_insertAll_of_fresh, get?_insert_self]
        exact fun other inside same => later ⟨other, inside, same⟩
      · exact absurd ⟨pair, inside, rfl⟩ later

/-- Pairs that are put in cover what was there under their keys. -/
theorem get?_insertAll (key : κ) (pairs entries : List (κ × α)) :
    get? key (insertAll pairs entries) = (get? key (ofList pairs)).or (get? key entries) := by
  induction pairs generalizing entries with
  | nil => rfl
  | cons first rest ih =>
    have later : ∀ known, insertAll (first :: rest) known =
        insertAll rest (insert first.1 first.2 known) := fun _ => rfl
    rw [ofList, later, later, ih, ih (insert first.1 first.2 []), get?_insert, get?_insert]
    by_cases here : key = first.1
    · simp [here]
    · simp [here]

theorem get?_ofList_append (key : κ) (first second : List (κ × α)) :
    get? key (ofList (first ++ second)) =
      (get? key (ofList second)).or (get? key (ofList first)) := by
  rw [ofList, insertAll, List.foldl_append, ← insertAll, ← insertAll, get?_insertAll]
  rfl

theorem get?_ofList_map (value : κ → α) (key : κ) (keys : List κ) :
    get? key (ofList (keys.map fun key => (key, value key))) =
      if key ∈ keys then some (value key) else none := by
  induction keys with
  | nil => rfl
  | cons first rest ih =>
    have split : (first :: rest).map (fun key => (key, value key)) =
        [(first, value first)] ++ rest.map fun key => (key, value key) := rfl
    have one : get? key (ofList [(first, value first)]) =
        if key = first then some (value first) else none := rfl
    rw [split, get?_ofList_append, ih, one]
    by_cases here : key = first
    · subst here
      by_cases later : key ∈ rest <;> simp [later]
    · by_cases later : key ∈ rest <;> simp [later, here]

theorem get?_ofList_of_mem {pairs : List (κ × α)} {pair : κ × α}
    (distinct : (pairs.map (·.1)).Nodup) (member : pair ∈ pairs) :
    get? pair.1 (ofList pairs) = some pair.2 :=
  get?_insertAll_of_mem distinct member

theorem get?_ofList_of_fresh {key : κ} {pairs : List (κ × α)}
    (fresh : ∀ pair ∈ pairs, pair.1 ≠ key) : get? key (ofList pairs) = none := by
  rw [ofList, get?_insertAll_of_fresh fresh, get?_nil]

theorem get?_ofList {pairs : List (κ × α)} (distinct : (pairs.map (·.1)).Nodup) (key : κ) :
    get? key (ofList pairs) = get? key pairs := by
  cases found : get? key pairs with
  | some value => exact get?_ofList_of_mem distinct (mem_of_get? found)
  | none =>
    apply get?_ofList_of_fresh
    rintro pair member rfl
    have known := isSome_get?_iff.mpr (List.mem_map_of_mem member)
    rw [found] at known
    cases known

theorem get?_of_mem {entries : List (κ × α)} (distinct : (entries.map (·.1)).Nodup)
    {entry : κ × α} (member : entry ∈ entries) : get? entry.1 entries = some entry.2 :=
  (get?_ofList distinct entry.1).symm.trans (get?_ofList_of_mem distinct member)

section Order

variable [LE κ] [Std.IsLinearOrder κ] [Std.LawfulOrderLT κ]

omit [DecidableEq κ] [DecidableLT κ] [Std.IsLinearOrder κ] in
theorem Sorted.nodup [Std.IsPreorder κ] {entries : List (κ × α)} (sorted : Sorted entries) :
    (entries.map (·.1)).Nodup := by
  rw [List.Nodup, List.pairwise_map]
  refine List.Pairwise.imp (fun {left right} less same => ?_) sorted
  rw [same] at less
  exact Std.lt_irrefl less

omit [DecidableLT κ] [Std.IsLinearOrder κ] in
theorem get?_of_forall_lt [Std.IsPreorder κ] {key : κ} {entries : List (κ × α)}
    (later : ∀ entry ∈ entries, key < entry.1) : get? key entries = none := by
  cases found : get? key entries with
  | none => rfl
  | some value => exact absurd (later _ (mem_of_get? found)) Std.lt_irrefl

omit [DecidableLT κ] in
/-- Ordered lists in which the same is found are the same. -/
theorem Sorted.ext {first second : List (κ × α)} (ordered : Sorted first)
    (ordered' : Sorted second) (same : ∀ key, get? key first = get? key second) :
    first = second := by
  induction first generalizing second with
  | nil =>
    cases second with
    | nil => rfl
    | cons other others =>
      have found := same other.1
      rw [get?_nil, get?_cons, if_pos rfl] at found
      cases found
  | cons pair rest ih =>
    cases second with
    | nil =>
      have found := same pair.1
      rw [get?_nil, get?_cons, if_pos rfl] at found
      cases found
    | cons other others =>
      obtain ⟨least, tail⟩ := List.pairwise_cons.mp ordered
      obtain ⟨least', tail'⟩ := List.pairwise_cons.mp ordered'
      have here := same pair.1
      have there := same other.1
      rw [get?_cons, if_pos rfl] at here
      rw [get?_cons other.1 other.1, if_pos rfl] at there
      rcases Std.lt_trichotomy pair.1 other.1 with less | equal | greater
      · have missing : get? pair.1 (other :: others) = none :=
          get?_of_forall_lt <| List.forall_mem_cons.mpr
            ⟨less, fun entry member => Std.lt_trans less (least' entry member)⟩
        rw [missing] at here
        cases here
      · have tails : rest = others := by
          refine ih tail tail' fun key => ?_
          by_cases head : key = pair.1
          · rw [head, get?_of_forall_lt least, equal, get?_of_forall_lt least']
          · have found := same key
            rwa [get?_cons, if_neg head, get?_cons, if_neg (equal ▸ head)] at found
        rw [get?_cons, if_pos equal] at here
        rw [tails, Prod.ext equal (Option.some.inj here)]
      · have missing : get? other.1 (pair :: rest) = none :=
          get?_of_forall_lt <| List.forall_mem_cons.mpr
            ⟨greater, fun entry member => Std.lt_trans greater (least entry member)⟩
        rw [missing] at there
        cases there

end Order

end Entries

namespace Tuple

theorem get?_insert_of_ne {tuple : Tuple} {column other : String} (different : other ≠ column)
    (value : Json) : (tuple.insert column value).get? other = tuple.get? other := by
  rw [get?_insert, if_neg different]

theorem read_of_get? {tuple : Tuple} {column : String} {value : Json}
    (found : tuple.get? column = some value) : tuple.read column = value := by
  rw [read, found, Option.getD_some]

theorem get?_of_isNull_read {tuple : Tuple} {column : String}
    (present : (tuple.read column).isNull = false) :
    tuple.get? column = some (tuple.read column) := by
  unfold read at present ⊢
  cases found : tuple.get? column with
  | none =>
    rw [found] at present
    cases present
  | some value => rfl

def without (tuple : Tuple) (columns : List String) : Tuple :=
  tuple.filter fun column => column.1 ∉ columns

end Tuple

end RelationGraph
