set_option autoImplicit false

namespace RelationGraph.Entries

variable {κ α : Type}

/-- The keys increase strictly, so each occurs once. -/
def Sorted [LT κ] (entries : List (κ × α)) : Prop :=
  entries.Pairwise fun left right => left.1 < right.1

instance [LT κ] [DecidableLT κ] (entries : List (κ × α)) : Decidable (Sorted entries) :=
  inferInstanceAs (Decidable (entries.Pairwise fun left right => left.1 < right.1))

section Operations

variable [DecidableEq κ]

/-- The value of the first pair with the given key. -/
def get? (key : κ) : List (κ × α) → Option α
  | [] => none
  | (other, value) :: rest => if key = other then some value else get? key rest

def contains (key : κ) (entries : List (κ × α)) : Bool := (get? key entries).isSome

def erase (key : κ) : List (κ × α) → List (κ × α)
  | [] => []
  | (other, value) :: rest =>
    if key = other then erase key rest else (other, value) :: erase key rest

variable [LT κ] [DecidableLT κ]

def insert (key : κ) (value : α) : List (κ × α) → List (κ × α)
  | [] => [(key, value)]
  | (other, previous) :: rest =>
    if key = other then (key, value) :: rest
    else if key < other then (key, value) :: (other, previous) :: rest
    else (other, previous) :: insert key value rest

/-- Puts pairs in, first to last; of pairs with one key the last stays. -/
def insertAll (pairs entries : List (κ × α)) : List (κ × α) :=
  pairs.foldl (fun acc pair => insert pair.1 pair.2 acc) entries

def ofList (pairs : List (κ × α)) : List (κ × α) := insertAll pairs []

end Operations

section Lookup

variable [DecidableEq κ]

@[simp] theorem get?_nil (key : κ) : get? key ([] : List (κ × α)) = none := rfl

theorem get?_cons (key other : κ) (value : α) (rest : List (κ × α)) :
    get? key ((other, value) :: rest) = if key = other then some value else get? key rest := rfl

theorem get?_erase (key other : κ) (entries : List (κ × α)) :
    get? other (erase key entries) = if other = key then none else get? other entries := by
  induction entries with
  | nil => simp [erase]
  | cons entry rest ih =>
    obtain ⟨head, value⟩ := entry
    by_cases found : key = head
    · subst found
      by_cases same : other = key <;> simp_all [erase, get?]
    · by_cases same : other = head
      · subst same
        simp [erase, get?, found, Ne.symm found]
      · simp [erase, get?, found, same, ih]

theorem mem_of_mem_erase {key : κ} {entries : List (κ × α)} {pair : κ × α}
    (member : pair ∈ erase key entries) : pair ∈ entries := by
  induction entries with
  | nil => simp [erase] at member
  | cons entry rest ih =>
    obtain ⟨head, value⟩ := entry
    unfold erase at member
    split at member
    · exact List.mem_cons_of_mem _ (ih member)
    · rcases List.mem_cons.1 member with here | later
      · exact here ▸ List.mem_cons_self
      · exact List.mem_cons_of_mem _ (ih later)

variable [LT κ] [DecidableLT κ]

theorem get?_insert (key other : κ) (value : α) (entries : List (κ × α)) :
    get? other (insert key value entries) =
      if other = key then some value else get? other entries := by
  induction entries with
  | nil => simp [insert, get?]
  | cons entry rest ih =>
    obtain ⟨head, previous⟩ := entry
    by_cases found : key = head
    · subst found
      by_cases same : other = key <;> simp [insert, get?, same]
    · by_cases less : key < head
      · simp [insert, found, less, get?]
      · by_cases same : other = head
        · subst same
          simp [insert, found, less, get?, Ne.symm found]
        · simp [insert, found, less, get?, same, ih]

@[simp] theorem get?_insert_self (key : κ) (value : α) (entries : List (κ × α)) :
    get? key (insert key value entries) = some value := by
  simp [get?_insert]

theorem get?_insert_of_ne {key other : κ} (different : other ≠ key) (value : α)
    (entries : List (κ × α)) :
    get? other (insert key value entries) = get? other entries := by
  simp [get?_insert, different]

end Lookup

section Order

variable [DecidableEq κ] [LT κ] [DecidableLT κ]

theorem mem_insert {key : κ} {value : α} {entries : List (κ × α)} {pair : κ × α}
    (member : pair ∈ insert key value entries) : pair = (key, value) ∨ pair ∈ entries := by
  induction entries with
  | nil => simpa [insert] using member
  | cons entry rest ih =>
    obtain ⟨head, previous⟩ := entry
    unfold insert at member
    split at member
    · rcases List.mem_cons.1 member with here | later
      · exact Or.inl here
      · exact Or.inr (List.mem_cons_of_mem _ later)
    · split at member
      · rcases List.mem_cons.1 member with here | later
        · exact Or.inl here
        · exact Or.inr later
      · rcases List.mem_cons.1 member with here | later
        · exact Or.inr (here ▸ List.mem_cons_self)
        · rcases ih later with found | found
          · exact Or.inl found
          · exact Or.inr (List.mem_cons_of_mem _ found)

omit [DecidableLT κ] in
theorem Sorted.erase {entries : List (κ × α)} (sorted : Sorted entries) (key : κ) :
    Sorted (erase key entries) := by
  induction entries with
  | nil => exact List.Pairwise.nil
  | cons entry rest ih =>
    obtain ⟨head, value⟩ := entry
    obtain ⟨least, tail⟩ := List.pairwise_cons.1 sorted
    unfold Entries.erase
    split
    · exact ih tail
    · exact List.pairwise_cons.2 ⟨fun pair member => least pair (mem_of_mem_erase member), ih tail⟩

variable [LE κ] [Std.IsLinearOrder κ] [Std.LawfulOrderLT κ]

theorem Sorted.insert {entries : List (κ × α)} (sorted : Sorted entries) (key : κ) (value : α) :
    Sorted (insert key value entries) := by
  induction entries with
  | nil => exact List.pairwise_singleton _ _
  | cons entry rest ih =>
    obtain ⟨head, previous⟩ := entry
    obtain ⟨least, tail⟩ := List.pairwise_cons.1 sorted
    unfold Entries.insert
    split
    · next found => subst found; exact List.pairwise_cons.2 ⟨least, tail⟩
    · split
      · next less =>
        refine List.pairwise_cons.2 ⟨fun pair member => ?_, sorted⟩
        rcases List.mem_cons.1 member with here | later
        · exact here ▸ less
        · exact Std.lt_trans less (least pair later)
      · next different notLess =>
        refine List.pairwise_cons.2 ⟨fun pair member => ?_, ih tail⟩
        rcases mem_insert member with here | later
        · subst here
          rcases Std.lt_trichotomy key head with less | equal | greater
          · exact absurd less notLess
          · exact absurd equal different
          · exact greater
        · exact least pair later

theorem Sorted.insertAll (pairs : List (κ × α)) {entries : List (κ × α)}
    (sorted : Sorted entries) : Sorted (insertAll pairs entries) := by
  induction pairs generalizing entries with
  | nil => exact sorted
  | cons pair rest ih => exact ih (sorted.insert pair.1 pair.2)

theorem sorted_ofList (pairs : List (κ × α)) : Sorted (ofList pairs) :=
  Sorted.insertAll pairs List.Pairwise.nil

end Order

end RelationGraph.Entries
