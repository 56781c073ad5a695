import RelationGraph.Proofs.CacheTransparency
import RelationGraph.Proofs.CommandShapes

set_option autoImplicit false

namespace RelationGraph

open StoreM

/-- A relation where it stands in a plan. -/
structure Place where
  depth : Nat
  name : String
  base : RelationName
  link : Link

namespace Plan

mutual

/-- The relations of a plan in pre-order, headers opened; those at the top are at `depth`. -/
def places (depth : Nat) : Plan → List Place
  | .relation name base link content => ⟨depth, name, base, link⟩ :: placesIn (depth + 1) content
  | .header nodes => placesIn depth nodes
  | .attribute _ => []

def placesIn (depth : Nat) : List Plan → List Place
  | [] => []
  | plan :: rest => places depth plan ++ placesIn depth rest

end

mutual

theorem depth_places_le_iff (plan : Plan) (depth limit : Nat) :
    (∀ place ∈ plan.places depth, place.depth ≤ limit) ↔
      plan.depth = 0 ∨ depth + plan.depth ≤ limit + 1 := by
  match plan with
  | .relation name base link content =>
    rw [places, List.forall_mem_cons, depth_placesIn_le_iff content, Plan.depth]
    dsimp only
    omega
  | .header nodes =>
    rw [places, Plan.depth]
    exact depth_placesIn_le_iff nodes depth limit
  | .attribute name =>
    rw [places, Plan.depth]
    simp

theorem depth_placesIn_le_iff (plans : List Plan) (depth limit : Nat) :
    (∀ place ∈ placesIn depth plans, place.depth ≤ limit) ↔
      maxDepth plans = 0 ∨ depth + maxDepth plans ≤ limit + 1 := by
  match plans with
  | [] =>
    rw [placesIn, maxDepth]
    simp
  | plan :: rest =>
    rw [placesIn, List.forall_mem_append, depth_places_le_iff plan, depth_placesIn_le_iff rest,
      maxDepth]
    omega

end

end Plan

namespace Place

/-- A relation that stands where it may. -/
structure Sound (catalog : Catalog) (place : Place) : Prop where
  shallow : place.depth ≤ catalog.settings.maxPlanDepth
  annotated : 0 < place.depth → place.link.cardinality.isSome = true
  keyed : 0 < place.depth → place.link.keys.isEmpty = false
  registered : ∃ relation, catalog.relation place.base.relation = .ok relation

/-- What is wrong with a relation: the first of the conditions that it does not meet. -/
inductive Offends (catalog : Catalog) (place : Place) : Fault → Prop
  | tooDeep (deep : catalog.settings.maxPlanDepth < place.depth) :
      Offends catalog place (.malformedPlan (.tooDeep catalog.settings.maxPlanDepth))
  | noCombineType (shallow : place.depth ≤ catalog.settings.maxPlanDepth)
      (nested : 0 < place.depth) (bare : place.link.cardinality = none) :
      Offends catalog place (.malformedPlan (.noCombineType place.name))
  | noCombineKeys (shallow : place.depth ≤ catalog.settings.maxPlanDepth)
      (nested : 0 < place.depth) (annotated : place.link.cardinality.isSome = true)
      (keyless : place.link.keys.isEmpty = true) :
      Offends catalog place (.malformedPlan (.noCombineKeys place.name))
  | unknownRelation (shallow : place.depth ≤ catalog.settings.maxPlanDepth)
      (annotated : 0 < place.depth → place.link.cardinality.isSome = true)
      (keyed : 0 < place.depth → place.link.keys.isEmpty = false)
      (unknown : ∀ relation, catalog.relation place.base.relation ≠ .ok relation) :
      Offends catalog place (.unknownRelation place.base.relation)

theorem exists_offends {catalog : Catalog} {place : Place} (unsound : ¬ place.Sound catalog) :
    ∃ fault, place.Offends catalog fault := by
  rcases Nat.lt_or_ge catalog.settings.maxPlanDepth place.depth with deep | shallow
  · exact ⟨_, .tooDeep deep⟩
  by_cases annotated : 0 < place.depth → place.link.cardinality.isSome = true
  case neg =>
    obtain ⟨nested, bare⟩ := Classical.not_imp.mp annotated
    exact ⟨_, .noCombineType shallow nested (Option.not_isSome_iff_eq_none.mp bare)⟩
  by_cases keyed : 0 < place.depth → place.link.keys.isEmpty = false
  case neg =>
    obtain ⟨nested, keyless⟩ := Classical.not_imp.mp keyed
    exact ⟨_, .noCombineKeys shallow nested (annotated nested) (eq_true_of_ne_false keyless)⟩
  refine ⟨_, .unknownRelation shallow annotated keyed fun relation found => ?_⟩
  exact unsound ⟨shallow, annotated, keyed, relation, found⟩

theorem Offends.eq_tooDeep {catalog : Catalog} {place : Place} {fault : Fault}
    (offends : Offends catalog place fault)
    (unlessDeep : place.depth ≤ catalog.settings.maxPlanDepth → place.Sound catalog) :
    fault = .malformedPlan (.tooDeep catalog.settings.maxPlanDepth) := by
  cases offends with
  | tooDeep => rfl
  | noCombineType shallow nested bare =>
    have annotated := (unlessDeep shallow).annotated nested
    rw [bare] at annotated
    cases annotated
  | noCombineKeys shallow nested _ keyless =>
    have keyed := (unlessDeep shallow).keyed nested
    rw [keyless] at keyed
    cases keyed
  | unknownRelation shallow _ _ unknown =>
    obtain ⟨relation, known⟩ := (unlessDeep shallow).registered
    exact absurd known (unknown relation)

end Place

namespace Plan

/-- The root is a relation, and every relation stands where it may. -/
structure WellFormed (catalog : Catalog) (plan : Plan) : Prop where
  root : ∃ name base link content, plan = .relation name base link content
  places : ∀ place ∈ plan.places 0, place.Sound catalog

/-- What is wrong with a plan: its root, or else the first relation, in pre-order, with which
something is wrong. -/
inductive Refused (catalog : Catalog) : Plan → Fault → Prop
  | header (nodes : List Plan) : Refused catalog (.header nodes) (.malformedPlan .rootIsHeader)
  | attribute (name : String) :
      Refused catalog (.attribute name) (.malformedPlan (.rootIsAttribute name))
  | relation {name : String} {base : RelationName} {link : Link} {content : List Plan}
      {before after : List Place} {place : Place} {fault : Fault}
      (split : (Plan.relation name base link content).places 0 = before ++ place :: after)
      (sound : ∀ other ∈ before, other.Sound catalog) (offends : place.Offends catalog fault) :
      Refused catalog (.relation name base link content) fault

end Plan

/-! ### The checks of a compilation -/

theorem Except.map_unit_eq_ok {α : Type} {result : Except Fault α} :
    result.map (fun _ => ()) = .ok () ↔ ∃ value, result = .ok value := by
  cases result <;> simp [Except.map]

theorem Except.map_unit_eq_error {α : Type} {result : Except Fault α} {fault : Fault} :
    result.map (fun _ => ()) = .error fault ↔ result = .error fault := by
  cases result <;> simp [Except.map]

theorem Catalog.relation_eq_error {catalog : Catalog} {name : String} {fault : Fault} :
    catalog.relation name = .error fault ↔
      fault = .unknownRelation name ∧ ∀ relation, catalog.relation name ≠ .ok relation := by
  unfold Catalog.relation
  split
  · simp
  · simpa using eq_comm

namespace StoreM

variable {α β : Type}

/-- Whatever the store, the step fails if the verdict does, and with the same fault. -/
def Decides (act : StoreM α) (verdict : Except Fault Unit) : Prop :=
  ∀ store, (outcome act store).1.map (fun _ => ()) = verdict

theorem decides_pure (value : α) : Decides (pure value) (.ok ()) := fun _ => rfl

theorem decides_ofExcept (result : Except Fault α) :
    Decides (MonadExcept.ofExcept result) (result.map fun _ => ()) := by
  intro store
  rw [outcome_ofExcept]

theorem decides_check (verdict : Except Fault Unit) :
    Decides (MonadExcept.ofExcept verdict) verdict := by
  intro store
  rw [outcome_ofExcept]
  cases verdict <;> rfl

theorem Decides.bind {act : StoreM α} {next : α → StoreM β} {first second : Except Fault Unit}
    (here : Decides act first) (later : ∀ value, Decides (next value) second) :
    Decides (act >>= next) (first >>= fun _ => second) := by
  intro store
  rw [outcome_bind, ← here store]
  rcases outcome act store with ⟨error | value, after⟩
  · rfl
  · exact later value after

theorem Decides.followed {act : StoreM α} {next : α → StoreM β} {verdict : Except Fault Unit}
    (here : Decides act verdict) (later : ∀ value, Decides (next value) (.ok ())) :
    Decides (act >>= next) verdict := by
  have both := here.bind later
  cases verdict <;> exact both

end StoreM

namespace CompileRequest

def checkPlace (request : CompileRequest) (place : Place) : Except Fault Unit := do
  request.checkNode place.name place.link place.depth
  (request.catalog.relation place.base.relation).map fun _ => ()

variable {request : CompileRequest}

theorem checkNode_eq_ok {name : String} {link : Link} {depth : Nat} :
    request.checkNode name link depth = .ok () ↔
      depth ≤ request.catalog.settings.maxPlanDepth ∧
        (0 < depth → link.cardinality.isSome = true) ∧
          (0 < depth → link.keys.isEmpty = false) := by
  unfold checkNode
  by_cases deep : request.catalog.settings.maxPlanDepth < depth
  · simp [deep, Nat.not_le.mpr deep]
  · by_cases root : depth = 0
    · simp [root]
    · cases given : link.cardinality <;> cases keyed : link.keys.isEmpty <;>
        simp [deep, root, Nat.pos_of_ne_zero root, Nat.not_lt.mp deep]

theorem checkPlace_eq_ok {place : Place} :
    request.checkPlace place = .ok () ↔ place.Sound request.catalog := by
  rw [checkPlace, Except.bind_eq_ok]
  constructor
  · rintro ⟨_, checked, found⟩
    obtain ⟨shallow, annotated, keyed⟩ := checkNode_eq_ok.mp checked
    refine ⟨shallow, annotated, keyed, ?_⟩
    cases known : request.catalog.relation place.base.relation with
    | error fault =>
      rw [known] at found
      cases found
    | ok relation => exact ⟨relation, rfl⟩
  · rintro ⟨shallow, annotated, keyed, relation, known⟩
    exact ⟨(), checkNode_eq_ok.mpr ⟨shallow, annotated, keyed⟩, by rw [known]; rfl⟩

theorem checkPlace_of_offends {place : Place} {fault : Fault}
    (offends : place.Offends request.catalog fault) : request.checkPlace place = .error fault := by
  cases offends with
  | tooDeep deep =>
    rw [checkPlace, checkNode, if_pos deep]
    rfl
  | noCombineType shallow nested bare =>
    rw [checkPlace, checkNode, if_neg (Nat.not_lt.mpr shallow), if_neg (Nat.ne_of_gt nested), bare]
    rfl
  | noCombineKeys shallow nested annotated keyless =>
    rw [checkPlace, checkNode, if_neg (Nat.not_lt.mpr shallow), if_neg (Nat.ne_of_gt nested),
      Option.isNone_eq_false_iff.mpr annotated, keyless]
    rfl
  | unknownRelation shallow annotated keyed unknown =>
    rw [checkPlace, checkNode_eq_ok.mpr ⟨shallow, annotated, keyed⟩]
    cases found : request.catalog.relation place.base.relation with
    | ok relation => exact absurd found (unknown relation)
    | error fault =>
      rw [(Catalog.relation_eq_error.mp found).1]
      rfl

theorem checkPlace_eq_error {place : Place} {fault : Fault} :
    request.checkPlace place = .error fault ↔ place.Offends request.catalog fault := by
  refine ⟨fun failed => ?_, checkPlace_of_offends⟩
  have unsound : ¬ place.Sound request.catalog := by
    intro sound
    rw [checkPlace_eq_ok.mpr sound] at failed
    cases failed
  obtain ⟨other, offends⟩ := Place.exists_offends unsound
  rw [checkPlace_of_offends offends] at failed
  exact Except.error.inj failed ▸ offends

theorem decides_command (plain : request.customization = none) (base : RelationName) (link : Link)
    (depth : Nat) :
    Decides (request.command base link depth)
      ((request.catalog.relation base.relation).map fun _ => ()) := by
  refine (decides_ofExcept _).followed fun relation => ?_
  have configured : Decides
      (relation.gateway.register (request.initialTemplate relation link depth)) (.ok ()) :=
    fun _ => rfl
  refine configured.followed fun template => ?_
  rw [plain]
  exact decides_pure _

theorem decides_onRelation (plain : request.customization = none) (place : Place)
    {children : StoreM (List CommandTree)} {verdict : Except Fault Unit}
    (below : Decides children verdict) :
    Decides (request.visitor.onRelation place.name place.base place.link place.depth children)
      (request.checkPlace place >>= fun _ => verdict) := by
  rw [checkPlace, bind_assoc]
  refine (decides_check _).bind fun _ => (decides_command plain _ _ _).bind fun command => ?_
  exact below.followed fun _ => decides_pure _

mutual

theorem decides_visit (plain : request.customization = none) (depth : Nat) (plan : Plan) :
    Decides (plan.visit request.visitor depth) ((plan.places depth).forM request.checkPlace) := by
  match plan with
  | .relation name base link content =>
    exact (decides_onRelation plain ⟨depth, name, base, link⟩
      (decides_visitAll plain (depth + 1) content)).followed fun _ => decides_pure _
  | .header nodes => exact decides_visitAll plain depth nodes
  | .attribute name => exact decides_pure _

theorem decides_visitAll (plain : request.customization = none) (depth : Nat) (plans : List Plan) :
    Decides (Plan.visitAll request.visitor depth plans)
      ((Plan.placesIn depth plans).forM request.checkPlace) := by
  match plans with
  | [] => exact decides_pure _
  | plan :: rest =>
    rw [Plan.placesIn, List.forM_eq_forM, List.forM_append]
    refine (decides_visit plain depth plan).bind fun first => ?_
    exact (decides_visitAll plain depth rest).followed fun _ => decides_pure _

end

theorem verdict_relation (plain : request.customization = none) (name : String)
    (base : RelationName) (link : Link) (content : List Plan) :
    (request.result (.relation name base link content)).map (fun _ => ()) =
      ((Plan.relation name base link content).places 0).forM request.checkPlace := by
  have decided := (decides_onRelation plain ⟨0, name, base, link⟩
    (decides_visitAll plain 1 content)).followed fun tree => decides_pure (Compiled.ofTree tree)
  exact decided ∅

variable (request)

theorem exists_result_iff (plain : request.customization = none) (plan : Plan) :
    (∃ compiled, request.result plan = .ok compiled) ↔ plan.WellFormed request.catalog := by
  rw [← Except.map_unit_eq_ok]
  cases plan with
  | relation name base link content =>
    rw [verdict_relation plain, Except.forM_eq_ok]
    constructor
    · intro passed
      exact ⟨⟨name, base, link, content, rfl⟩,
        fun place member => checkPlace_eq_ok.mp (passed place member)⟩
    · intro formed place member
      exact checkPlace_eq_ok.mpr (formed.places place member)
  | _ =>
    refine ⟨fun success => (by cases success), fun formed => ?_⟩
    obtain ⟨_, _, _, _, same⟩ := formed.root
    cases same

theorem result_eq_error_iff (plain : request.customization = none) (plan : Plan) (fault : Fault) :
    request.result plan = .error fault ↔ plan.Refused request.catalog fault := by
  match plan with
  | .relation name base link content =>
    rw [← Except.map_unit_eq_error, verdict_relation plain, Except.forM_eq_error]
    constructor
    · rintro ⟨before, place, after, split, passed, failed⟩
      exact .relation split (fun other member => checkPlace_eq_ok.mp (passed other member))
        (checkPlace_eq_error.mp failed)
    · intro refused
      cases refused with
      | relation split sound offends =>
        exact ⟨_, _, _, split, fun other member => checkPlace_eq_ok.mpr (sound other member),
          checkPlace_eq_error.mpr offends⟩
  | .header nodes =>
    refine ⟨fun failed => ?_, fun refused => ?_⟩
    · cases failed
      exact .header nodes
    · cases refused
      rfl
  | .attribute name =>
    refine ⟨fun failed => ?_, fun refused => ?_⟩
    · cases failed
      exact .attribute name
    · cases refused
      rfl

/-- Of two relations that are linked to nothing, the first in pre-order is named. -/
example : (Sample.request .create).result (.relation "users" ⟨"users", "users"⟩ .root
    [.header [.relation "tasks" ⟨"tasks", "tasks"⟩ .root []],
      .relation "posts" ⟨"posts", "posts"⟩ .root []]) =
    .error (.malformedPlan (.noCombineType "tasks")) := rfl

end CompileRequest

/-! ### Compilers with caches -/

/-- A refusal does not change the caches: where the command would have gone, no cell stays. -/
theorem Order.cache_of_error {order : Order} {workspace after : Workspace}
    (full : workspace.Full) {fault : Fault}
    (failed : WorkM.outcome order.run workspace = (.error fault, after)) :
    after.cache = workspace.cache := by
  have anew {left : Workspace} {error : Fault}
      (ran : WorkM.outcome order.anew workspace = (.error error, left)) :
      left.cache = workspace.cache := by
    cases made : order.result with
    | ok compiled =>
      rw [outcome_anew_of_ok made] at ran
      cases ran
    | error own =>
      rw [outcome_anew_of_error made] at ran
      cases ran
      rfl
  cases caching : order.caches with
  | false =>
    rw [run_of_uncached caching] at failed
    exact anew failed
  | true =>
    cases there : workspace.compiled? order.compiler.cache order.key with
    | some found =>
      rw [outcome_run_of_found caching there] at failed
      cases failed
    | none =>
      rcases ran : WorkM.outcome order.anew workspace with ⟨error | made, left⟩
      · rw [outcome_run_of_error caching there ran,
          (full order.compiler.cache).abandoned_opened there] at failed
        cases failed
        funext id
        rw [Workspace.cache_withCache, anew ran]
        split
        · rename_i here
          rw [here]
        · rfl
      · rw [outcome_run_of_ok caching there ran] at failed
        cases failed

namespace Compiler

variable {directory : Directory} {workspace : Workspace} {compiler : Compiler}

/-- Wherever requests have led, a compiler accepts a plan or refuses it for what is in the plan
alone, and a refusal does not change the caches. -/
theorem outcome_compile (reached : directory.Reached workspace)
    (listed : directory.catalogs compiler.catalog.id = compiler.catalog) (type : CommandType)
    (adapter : String) (plan : Plan) :
    ∃ answer after,
      WorkM.outcome (compiler.compile type.name adapter plan none) workspace = (answer, after) ∧
      ((∃ made, answer = .ok made) ↔ plan.WellFormed compiler.catalog) ∧
      (∀ fault, answer = .error fault ↔ plan.Refused compiler.catalog fault) ∧
      ∀ fault, answer = .error fault → after.cache = workspace.cache := by
  let order : Order := ⟨compiler, type, adapter, plan, none⟩
  have typed : CommandType.ofName type.name = .ok type := by
    rw [CommandType.ofName, CommandType.ofName?_name]
  have ran : WorkM.outcome (compiler.compile type.name adapter plan none) workspace =
      WorkM.outcome order.run workspace := by
    rw [compile, typed, WorkM.outcome_bind_of_ok (WorkM.outcome_ofExcept _ _)]
    rfl
  have named : directory.request order.key = order.request :=
    Directory.request_key
      (Directory.lists_compile listed (fun _ given => (by cases given)) type.name adapter plan)
      (Except.bind_eq_ok.mpr ⟨type, typed, rfl⟩)
  obtain ⟨after, served, _⟩ := order.outcome_run workspace
  have same := (reached.sound.2.serve named).1
  have accepted : (∃ made, (order.serve workspace.shelf).1 = .ok made) ↔
      ∃ compiled, order.result = .ok compiled := by
    rw [← same]
    cases (order.serve workspace.shelf).1 <;> simp [Except.map]
  have refused (fault : Fault) : (order.serve workspace.shelf).1 = .error fault ↔
      order.result = .error fault := by
    rw [← same]
    cases (order.serve workspace.shelf).1 <;> simp [Except.map]
  exact ⟨_, after, ran.trans served, accepted.trans (order.request.exists_result_iff rfl plan),
    fun fault => (refused fault).trans (order.request.result_eq_error_iff rfl plan fault),
    fun fault failed =>
      Order.cache_of_error reached.full (served.trans (congrArg (·, after) failed))⟩

/-- Wherever requests have led, a compiler accepts exactly the well-formed plans. Any other it
refuses for the first relation, in pre-order, that is not where it may be, and its caches stay as
they are. How deep the relations may stand is how deep the plan may be. -/
theorem compiles_iff_wellFormed (reached : directory.Reached workspace)
    (listed : directory.catalogs compiler.catalog.id = compiler.catalog) (type : CommandType)
    (adapter : String) (plan : Plan) :
    let catalog := compiler.catalog
    let outcome := WorkM.outcome (compiler.compile type.name adapter plan none) workspace
    ((∃ made, outcome.1 = .ok made) ↔ plan.WellFormed catalog) ∧
      (∀ fault, outcome.1 = .error fault ↔ plan.Refused catalog fault) ∧
      (∀ fault, outcome.1 = .error fault → outcome.2.cache = workspace.cache) ∧
      ((∀ place ∈ plan.places 0, place.depth ≤ catalog.settings.maxPlanDepth) ↔
        plan.depth ≤ catalog.settings.maxPlanDepth + 1) := by
  obtain ⟨answer, after, ran, accepted, refused, unchanged⟩ :=
    outcome_compile reached listed type adapter plan
  rw [ran]
  refine ⟨accepted, refused, unchanged, ?_⟩
  rw [Plan.depth_places_le_iff]
  omega

end Compiler

namespace Sample

def visited : Workspace :=
  ((Inquiry.compile ⟨catalog, 0⟩ "create" "memory" users.toPlan none).event .empty).after

theorem reached_visited : directory.Reached visited :=
  .answered (.fresh ∅ 0)
    (Directory.lists_compile rfl (fun _ given => (by cases given)) "create" "memory" users.toPlan)

end Sample

/-- A plan with headers inside headers, where users with their tasks have been compiled before. -/
theorem Compiler.compiles_iff_wellFormed_grouped :
    Sample.directory.Reached Sample.visited ∧ Sample.directory.catalogs 0 = Sample.catalog ∧
      let outcome := WorkM.outcome
        (Compiler.compile ⟨Sample.catalog, 0⟩ "update" "memory" Sample.grouped none) Sample.visited
      ((∃ made, outcome.1 = .ok made) ↔ Sample.grouped.WellFormed Sample.catalog) ∧
        (∀ fault, outcome.1 = .error fault ↔ Sample.grouped.Refused Sample.catalog fault) ∧
        (∀ fault, outcome.1 = .error fault → outcome.2.cache = Sample.visited.cache) ∧
        ((∀ place ∈ Sample.grouped.places 0,
            place.depth ≤ Sample.catalog.settings.maxPlanDepth) ↔
          Sample.grouped.depth ≤ Sample.catalog.settings.maxPlanDepth + 1) :=
  ⟨Sample.reached_visited, rfl,
    compiles_iff_wellFormed Sample.reached_visited rfl .update "memory" Sample.grouped⟩

end RelationGraph
