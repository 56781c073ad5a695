import Mathlib.Data.List.Forall2
import RelationGraph.Proofs.NestedSteps

set_option autoImplicit false

namespace RelationGraph

open StoreM

theorem List.exists_mem_zip_of_forall₂ {α β : Type} {related : α → β → Prop} {items : List α}
    {results : List β} (pairs : List.Forall₂ related items results) {result : β}
    (member : result ∈ results) :
    ∃ item, (item, result) ∈ items.zip results ∧ related item result := by
  induction pairs with
  | nil => cases member
  | @cons item other items results here _ ih =>
    rw [List.zip_cons_cons]
    rcases List.mem_cons.mp member with rfl | later
    · exact ⟨item, List.mem_cons_self, here⟩
    · obtain ⟨found, paired, holds⟩ := ih later
      exact ⟨found, List.mem_cons_of_mem _ paired, holds⟩

namespace CommandTree

variable {all : List Step} {tree : CommandTree}

/-- A step of the tree has returned the row. -/
def Returns (all : List Step) (tree : CommandTree) (row : Tuple) : Prop :=
  ∃ step ∈ all, step.node = tree ∧ ∃ rows after, step.outcome = (.ok rows, after) ∧ row ∈ rows

/-- Among the steps, the tree is run for the payload and answers with the output. -/
def Gives (all : List Step) (tree : CommandTree) (payload output : Json) : Prop :=
  ∃ parent start after, (∀ step ∈ steps parent tree payload start, step ∈ all) ∧
    outcome (execute (parent.map (·.seen)) tree payload) start = (.ok output, after)

/-- A row of an answer: what is stored, but for the answers of nodes that there is a payload for. -/
structure Builds (all : List Step) (nodes : List CommandTree) (columns stored row : Tuple) :
    Prop where
  kept : ∀ column, (∀ node ∈ nodes, node.key = column → columns.get? column = none) →
    row.get? column = stored.get? column
  given : ∀ node ∈ nodes, ∀ payload, columns.get? node.key = some payload →
    ∃ nested, node.Gives all payload nested ∧ row.get? node.key = some nested

/-- The nodes below a row build it, each with its payload among the columns of the entry. -/
theorem builds_of_executeChildren {nodes : List CommandTree}
    (distinct : (nodes.map (·.key)).Nodup) {columns returned seen final : Tuple}
    {start after : Store}
    (subset : ∀ step ∈ childSteps (nodes.map fun node => columns.get? node.key) returned seen nodes
      start, step ∈ all)
    (success : outcome (executeChildren (nodes.map fun node => columns.get? node.key) seen nodes)
      start = (.ok final, after)) : Builds all nodes columns seen final := by
  induction nodes generalizing seen start with
  | nil =>
    cases success
    exact ⟨fun _ _ => rfl, fun _ member => (by cases member)⟩
  | cons node rest ih =>
    obtain ⟨fresh, distinct⟩ := List.nodup_cons.mp distinct
    rw [List.map_cons] at subset success
    cases found : columns.get? node.key with
    | none =>
      rw [found, childSteps_absent] at subset
      rw [found, executeChildren_absent] at success
      have inner := ih distinct subset success
      refine ⟨fun column clear => inner.kept column fun other member =>
        clear other (List.mem_cons_of_mem _ member), ?_⟩
      refine List.forall_mem_cons.mpr ⟨fun payload given => ?_, inner.given⟩
      rw [found] at given
      cases given
    | some payload =>
      rw [found, childSteps_present] at subset
      rw [found, executeChildren_present] at success
      obtain ⟨nested, middle, executed, success⟩ := outcome_bind_eq_ok.mp success
      have within : ∀ step ∈ steps (some ⟨returned, seen⟩) node payload start, step ∈ all :=
        fun step member => subset step (Step.mem_followedBy.mpr (Or.inl member))
      have later := fun step member => subset step
        (Step.mem_followedBy.mpr (Or.inr ⟨nested, middle, executed, member⟩))
      have inner := ih distinct later success
      have answered : final.get? node.key = some nested := by
        -- No node after this one has its key.
        have others : ∀ other ∈ rest, other.key = node.key → columns.get? node.key = none :=
          fun other member same => absurd (List.mem_map.mpr ⟨other, member, same⟩) fresh
        rw [inner.kept node.key others, Tuple.get?_insert, if_pos rfl]
      refine ⟨fun column clear => ?_, List.forall_mem_cons.mpr ⟨fun other given => ?_, inner.given⟩⟩
      · have apart : column ≠ node.key := by
          rintro rfl
          rw [clear node List.mem_cons_self rfl] at found
          cases found
        rw [inner.kept column fun other member => clear other (List.mem_cons_of_mem _ member),
          Tuple.get?_insert_of_ne apart]
      · rw [found] at given
        cases given
        exact ⟨nested, ⟨some ⟨returned, seen⟩, start, middle, within, executed⟩, answered⟩

theorem forall₂_collect {α β : Type} {act : α → StoreM (List β)}
    {steps : α → Store → List Step} {related : α → β → Prop} {items : List α}
    (each : ∀ item ∈ items, ∀ start after made, (∀ step ∈ steps item start, step ∈ all) →
      outcome (act item) start = (.ok made, after) →
        ∃ result, made = [result] ∧ related item result)
    {start after : Store} {results : List β}
    (subset : ∀ step ∈ Step.ofCollect act steps items start, step ∈ all)
    (success : outcome (collect act items) start = (.ok results, after)) :
    List.Forall₂ related items results := by
  induction items generalizing start results with
  | nil =>
    cases success
    exact .nil
  | cons item rest ih =>
    obtain ⟨here, others⟩ := List.forall_mem_cons.mp each
    obtain ⟨made, middle, ran, success⟩ := outcome_bind_eq_ok.mp success
    obtain ⟨later, _, collected, success⟩ := outcome_bind_eq_ok.mp success
    cases success
    obtain ⟨result, rfl, holds⟩ := here start middle made
      (fun step member => subset step (Step.mem_followedBy.mpr (Or.inl member))) ran
    refine .cons holds (ih others (fun step member => subset step ?_) collected)
    exact Step.mem_followedBy.mpr (Or.inr ⟨_, middle, ran, member⟩)

/-- The rows for an entry are built from rows that a step of the tree has returned. -/
theorem builds_of_runEntry (distinct : (tree.nodes.map (·.key)).Nodup) {parent : Option Parent}
    {entry : Json} {rows : List Tuple} {start after : Store}
    (subset : ∀ step ∈ Step.ofEntry tree parent
      (fun payloads row => childSteps payloads row row tree.nodes) entry start, step ∈ all)
    (success : outcome (runEntry tree.command tree.nodes (parent.map (·.seen)) (fun payloads row =>
      executeChildren payloads row tree.nodes) entry) start = (.ok rows, after)) :
    ∃ columns, entry.toTuple = .ok columns ∧ ∀ row ∈ rows, ∃ stored,
      tree.Returns all stored ∧ Builds all tree.nodes columns stored row := by
  simp only [runEntry, outcome_ofExcept_bind] at success
  simp only [Step.ofEntry] at subset
  cases object : entry.toTuple with
  | error error =>
    rw [object] at success
    cases success
  | ok columns =>
    rw [object] at success subset
    dsimp only at success subset
    rw [takePayloads_eq distinct] at success subset
    dsimp only at success subset
    obtain ⟨returned, middle, ran, success⟩ := outcome_bind_eq_ok.mp success
    generalize own : (⟨tree, parent, columns.without (tree.nodes.map (·.key)), start⟩ : Step) = step
      at subset
    have node : step.node = tree := by rw [← own]
    have outcome : step.outcome = (.ok returned, middle) := by
      rw [← own]
      exact ran
    have among : step ∈ all :=
      subset step (Step.mem_followedBy.mpr (Or.inl List.mem_cons_self))
    have built : List.Forall₂ (Builds all tree.nodes columns) returned rows := by
      refine forall₂_collect (fun row _ start after made within executed => ?_)
        (fun step member => subset step
          (Step.mem_followedBy.mpr (Or.inr ⟨returned, middle, outcome, member⟩))) success
      obtain ⟨final, _, executed, single⟩ := outcome_bind_eq_ok.mp executed
      cases single
      exact ⟨final, rfl, builds_of_executeChildren distinct within executed⟩
    refine ⟨columns, rfl, fun row member => ?_⟩
    obtain ⟨stored, paired, builds⟩ := List.exists_mem_zip_of_forall₂ built member
    refine ⟨stored, ⟨step, among, node, returned, middle, outcome, ?_⟩, builds⟩
    exact (List.of_mem_zip paired).1

theorem exists_single_of_runEntry (creates : tree.command.type = .create) {parent : Option Tuple}
    {entry : Json} {rows : List Tuple} {start after : Store}
    (success : outcome (runEntry tree.command tree.nodes parent (fun payloads row =>
      executeChildren payloads row tree.nodes) entry) start = (.ok rows, after)) :
    ∃ row, rows = [row] := by
  obtain ⟨columns, _, _, success⟩ := outcome_bind_eq_ok.mp success
  obtain ⟨returned, _, ran, success⟩ := outcome_bind_eq_ok.mp success
  simp only [Command.run, creates] at ran
  obtain ⟨_, _, _, ran⟩ := outcome_bind_eq_ok.mp ran
  obtain ⟨row, _, _, ran⟩ := outcome_bind_eq_ok.mp ran
  cases ran
  obtain ⟨made, _, executed, success⟩ := outcome_bind_eq_ok.mp success
  cases success
  obtain ⟨final, _, _, single⟩ := outcome_bind_eq_ok.mp executed
  cases single
  exact ⟨final, rfl⟩

end CommandTree

end RelationGraph
