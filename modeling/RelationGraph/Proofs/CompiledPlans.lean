import Mathlib.Data.List.Forall2
import RelationGraph.Compiler
import RelationGraph.Proofs.Combining
import RelationGraph.Proofs.PlanTrees

/-!
What compiling a plan depends on, and what it changes.

Whatever gateways and customizations do to a command, they do it to its template alone. So compiling
yields the same in every store, and all that it leaves behind is that the gateways of the compiled
relations have configured one template more for each.
-/

set_option autoImplicit false

namespace RelationGraph

open StoreM

namespace Store

/-- The store after a gateway has configured one template more. -/
def register (store : Store) (gateway : Nat) : Store :=
  store.insert gateway
    { store.storage gateway with registrations := (store.storage gateway).registrations + 1 }

def registerAll (store : Store) (gateways : List Nat) : Store := gateways.foldl register store

def registrations (store : Store) (gateway : Nat) : Nat := (store.storage gateway).registrations

theorem registrations_register (store : Store) (gateway other : Nat) :
    (store.register gateway).registrations other =
      store.registrations other + if gateway = other then 1 else 0 := by
  rw [registrations, storage, register, SortedMap.get?_insert]
  by_cases same : other = gateway
  · rw [if_pos same, if_pos same.symm, same]
    rfl
  · rw [if_neg same, if_neg (Ne.symm same)]
    rfl

theorem registrations_registerAll (store : Store) (gateways : List Nat) (gateway : Nat) :
    (store.registerAll gateways).registrations gateway =
      store.registrations gateway + gateways.count gateway := by
  induction gateways generalizing store with
  | nil => rfl
  | cons first rest ih =>
    rw [registerAll, List.foldl_cons, ← registerAll, ih, registrations_register, List.count_cons]
    simp only [beq_iff_eq]
    omega

theorem registerAll_append (store : Store) (first second : List Nat) :
    store.registerAll (first ++ second) = (store.registerAll first).registerAll second :=
  List.foldl_append

end Store

namespace StoreM

variable {α β : Type}

/-- Whatever the store, the step yields the same, and all that it changes is that gateways have
configured templates; what it yields and these gateways satisfy `post`. -/
def Registers (act : StoreM α) (post : α → List Nat → Prop) : Prop :=
  ∃ result gateways, (∀ store, outcome act store = (result, store.registerAll gateways)) ∧
    ∀ value, result = .ok value → post value gateways

theorem registers_ofExcept (result : Except Fault α) :
    Registers (MonadExcept.ofExcept result) fun value gateways =>
      result = .ok value ∧ gateways = [] :=
  ⟨result, [], outcome_ofExcept result, fun _ success => ⟨success, rfl⟩⟩

theorem registers_pure (value : α) :
    Registers (pure value) fun given gateways => given = value ∧ gateways = [] :=
  ⟨.ok value, [], outcome_pure value, fun _ success => ⟨(Except.ok.inj success).symm, rfl⟩⟩

theorem Registers.bind {act : StoreM α} {next : α → StoreM β} {middle : α → List Nat → Prop}
    {post : β → List Nat → Prop} (first : Registers act middle)
    (second : ∀ value before, middle value before →
      Registers (next value) fun result after => post result (before ++ after)) :
    Registers (act >>= next) post := by
  obtain ⟨result, before, ran, holds⟩ := first
  cases result with
  | error error =>
    refine ⟨.error error, before, fun store => ?_, fun _ success => by cases success⟩
    rw [outcome_bind, ran]
  | ok value =>
    obtain ⟨result, after, continued, ensured⟩ := second value before (holds value rfl)
    refine ⟨result, before ++ after, fun store => ?_, ensured⟩
    rw [outcome_bind_of_ok (ran store), continued, Store.registerAll_append]

theorem Registers.weaken {act : StoreM α} {pre post : α → List Nat → Prop}
    (registers : Registers act pre)
    (implies : ∀ value gateways, pre value gateways → post value gateways) :
    Registers act post := by
  obtain ⟨result, gateways, ran, holds⟩ := registers
  exact ⟨result, gateways, ran, fun value success => implies value gateways (holds value success)⟩

end StoreM

def Catalog.gatewayOf? (catalog : Catalog) (base : RelationName) : Option Nat :=
  match catalog.relation base.relation with
  | .ok relation => some relation.gateway.id
  | .error _ => none

namespace CompileRequest

/-- The template of the command for a relation, as its gateway and the customization leave it. -/
def template (request : CompileRequest) (relation : Relation) (link : Link) (depth : Nat) :
    Except Fault CommandTemplate :=
  let configured :=
    (relation.gateway.configure (request.initialTemplate relation link depth)).withResult
      (link.cardinality.getD .one)
  match request.customization with
  | some customization => customization.configure.apply configured
  | none => .ok configured

theorem checkNode_succ {request : CompileRequest} {name : String} {link : Link} {depth : Nat}
    (checked : request.checkNode name link (depth + 1) = .ok ()) :
    link.cardinality.isSome = true ∧ link.keys.isEmpty = false := by
  unfold checkNode at checked
  rw [if_neg (Nat.succ_ne_zero depth)] at checked
  split at checked
  · cases checked
  · split at checked
    · cases checked
    · rename_i annotated
      split at checked
      · cases checked
      · rename_i keyed
        exact ⟨Option.isSome_iff_ne_none.mpr (by simpa using annotated), by simpa using keyed⟩

/-- The command for a relation of a plan. -/
structure Binds (request : CompileRequest) (base : RelationName) (link : Link) (depth : Nat)
    (command : Command) : Prop where
  relation : request.catalog.relation base.relation = .ok command.relation
  template : request.template command.relation link depth = .ok command.template
  outputs : command.outputs = []

/-- The commands for a relation below the root and for those below it. -/
inductive Makes (request : CompileRequest) : PlanTree → CommandTree → Prop
  | intro {node : PlanTree} {tree : CommandTree} (key : tree.key = node.name)
      (annotated : node.link.cardinality.isSome = true) (keyed : node.link.keys.isEmpty = false)
      (binds : request.Binds node.base node.link 1 tree.command)
      (nodes : List.Forall₂ (Makes request) node.nodes tree.nodes) : Makes request node tree

/-- The commands for a relation at a depth and for those below it. -/
structure MakesAt (request : CompileRequest) (depth : Nat) (node : PlanTree)
    (tree : CommandTree) : Prop where
  checked : request.checkNode node.name node.link depth = .ok ()
  key : tree.key = if depth = 0 then node.base.relation else node.name
  binds : request.Binds node.base node.link depth tree.command
  nodes : List.Forall₂ request.Makes node.nodes tree.nodes

theorem MakesAt.makes {request : CompileRequest} {depth : Nat} {node : PlanTree}
    {tree : CommandTree} (made : request.MakesAt (depth + 1) node tree) :
    request.Makes node tree :=
  .intro made.key (checkNode_succ made.checked).1 (checkNode_succ made.checked).2
    ⟨made.binds.relation, made.binds.template, made.binds.outputs⟩
    made.nodes

theorem registers_command (request : CompileRequest) (base : RelationName) (link : Link)
    (depth : Nat) :
    Registers (request.command base link depth) fun command gateways =>
      request.Binds base link depth command ∧
        gateways.map some = [request.catalog.gatewayOf? base] := by
  refine (registers_ofExcept _).bind ?_
  rintro relation _ ⟨found, rfl⟩
  have configured : Registers
      (relation.gateway.register (request.initialTemplate relation link depth))
      fun template gateways =>
        template = relation.gateway.configure (request.initialTemplate relation link depth) ∧
          gateways = [relation.gateway.id] :=
    ⟨_, _, fun _ => rfl, fun _ success => ⟨(Except.ok.inj success).symm, rfl⟩⟩
  have gateway : request.catalog.gatewayOf? base = some relation.gateway.id := by
    rw [Catalog.gatewayOf?, found]
  refine configured.bind ?_
  rintro _ _ ⟨rfl, rfl⟩
  cases custom : request.customization with
  | none =>
    refine (registers_pure _).weaken ?_
    rintro _ _ ⟨rfl, rfl⟩
    refine ⟨⟨found, ?_, rfl⟩, by rw [gateway]; rfl⟩
    rw [template, custom]
    rfl
  | some customization =>
    refine (registers_ofExcept _).bind ?_
    rintro configured _ ⟨applied, rfl⟩
    refine (registers_pure _).weaken ?_
    rintro _ _ ⟨rfl, rfl⟩
    refine ⟨⟨found, ?_, rfl⟩, by rw [gateway]; rfl⟩
    rw [template, custom]
    exact applied

theorem registers_visitAll {request : CompileRequest} {depth : Nat} {nodes : List PlanTree}
    (each : ∀ node ∈ nodes, Registers (node.visit request.visitor (depth + 1)) fun tree gateways =>
      request.MakesAt (depth + 1) node tree ∧
        gateways.map some = node.bases.map request.catalog.gatewayOf?) :
    Registers (PlanTree.visitAll request.visitor (depth + 1) nodes) fun trees gateways =>
      List.Forall₂ request.Makes nodes trees ∧
        gateways.map some = (PlanTree.basesIn nodes).map request.catalog.gatewayOf? := by
  induction nodes with
  | nil =>
    refine (registers_pure _).weaken ?_
    rintro _ _ ⟨rfl, rfl⟩
    exact ⟨.nil, rfl⟩
  | cons node rest ih =>
    obtain ⟨here, others⟩ := List.forall_mem_cons.mp each
    refine here.bind ?_
    rintro first before ⟨made, asked⟩
    refine (ih others).bind ?_
    rintro trees later ⟨remaining, askedLater⟩
    refine (registers_pure _).weaken ?_
    rintro _ _ ⟨rfl, rfl⟩
    refine ⟨.cons made.makes remaining, ?_⟩
    rw [List.append_nil, List.map_append, asked, askedLater, PlanTree.basesIn, List.map_append]

theorem registers_visit (request : CompileRequest) (node : PlanTree) (depth : Nat) :
    Registers (node.visit request.visitor depth) fun tree gateways =>
      request.MakesAt depth node tree ∧
        gateways.map some = node.bases.map request.catalog.gatewayOf? := by
  induction node using PlanTree.induction generalizing depth with
  | step node ih =>
    rw [PlanTree.visit_eq]
    refine (registers_ofExcept _).bind ?_
    rintro _ _ ⟨checked, rfl⟩
    refine (request.registers_command node.base node.link depth).bind ?_
    rintro command before ⟨bound, asked⟩
    refine (registers_visitAll fun child member => ih child member (depth + 1)).bind ?_
    rintro trees later ⟨made, askedLater⟩
    refine (registers_pure _).weaken ?_
    rintro _ _ ⟨rfl, rfl⟩
    refine ⟨⟨checked, rfl, bound, made⟩, ?_⟩
    rw [List.nil_append, List.append_nil, List.map_append, asked, askedLater, PlanTree.bases_eq]
    rfl

theorem walk_relation (request : CompileRequest) (name : String) (base : RelationName)
    (link : Link) (content : List Plan) :
    (Plan.relation name base link content).walk request.visitor =
      PlanTree.visit request.visitor 0 ⟨name, base, link, Plan.treesIn content⟩ := by
  rw [Plan.walk, Plan.visitAll_eq (fun _ => rfl), PlanTree.visit_eq]

def Compiles (request : CompileRequest) (plan : Plan) (compiled : Compiled) : Prop :=
  ∃ name base link content tree, plan = .relation name base link content ∧
    request.MakesAt 0 ⟨name, base, link, Plan.treesIn content⟩ tree ∧ compiled = .ofTree tree

/-- Compiling has the gateway of every relation of a plan configure one template, in pre-order. -/
theorem registers_run (request : CompileRequest) (plan : Plan) :
    Registers (request.run plan) fun compiled gateways =>
      request.Compiles plan compiled ∧
        gateways.map some = plan.bases.map request.catalog.gatewayOf? := by
  cases plan with
  | relation name base link content =>
    rw [run, walk_relation]
    refine (request.registers_visit ⟨name, base, link, Plan.treesIn content⟩ 0).bind ?_
    rintro tree gateways ⟨made, asked⟩
    refine (registers_pure _).weaken ?_
    rintro _ _ ⟨rfl, rfl⟩
    refine ⟨⟨name, base, link, content, tree, rfl, made, rfl⟩, ?_⟩
    rw [List.append_nil, asked, PlanTree.bases_eq, Plan.basesIn_treesIn, Plan.bases]
  | _ => exact ⟨_, [], fun _ => rfl, fun _ success => by cases success⟩

/-- What compiling a plan yields, in whichever store. -/
def result (request : CompileRequest) (plan : Plan) : Except Fault Compiled :=
  (outcome (request.run plan) ∅).1

theorem outcome_run (request : CompileRequest) (plan : Plan) :
    ∃ gateways, (∀ store, outcome (request.run plan) store =
        (request.result plan, store.registerAll gateways)) ∧
      ∀ compiled, request.result plan = .ok compiled →
        request.Compiles plan compiled ∧
          gateways.map some = plan.bases.map request.catalog.gatewayOf? := by
  obtain ⟨result, gateways, ran, holds⟩ := request.registers_run plan
  have same : request.result plan = result := congrArg Prod.fst (ran ∅)
  exact ⟨gateways, fun store => same ▸ ran store, fun compiled success =>
    holds compiled (same ▸ success)⟩

end CompileRequest

end RelationGraph
