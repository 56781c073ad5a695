import RelationGraph.Proofs.Combining
import RelationGraph.Proofs.Tuples

set_option autoImplicit false

namespace RelationGraph

theorem SortedMap.mem_values_iff {κ α : Type} [DecidableEq κ] [LT κ] [DecidableLT κ] [LE κ]
    [Std.IsLinearOrder κ] [Std.LawfulOrderLT κ] {map : SortedMap κ α} {value : α} :
    value ∈ map.values ↔ ∃ key, map.get? key = some value := by
  have distinct := Entries.Sorted.nodup map.sorted
  constructor
  · intro member
    obtain ⟨pair, inside, rfl⟩ := List.mem_map.mp member
    exact ⟨pair.1, (Entries.get?_ofList distinct pair.1).symm.trans
      (Entries.get?_ofList_of_mem distinct inside)⟩
  · rintro ⟨key, found⟩
    exact List.mem_map.mpr ⟨(key, value), Entries.mem_of_get? found, rfl⟩

/-- Each association has the relation as its source and is found under its own name. -/
def Schema.OwnsAssociations (schema : Schema) : Prop :=
  ∀ name association, schema.associations.get? name = some association →
    association.name = name ∧ association.source = schema.name.relation

theorem Schema.ownsAssociations_of_empty {schema : Schema} (empty : schema.associations = ∅) :
    schema.OwnsAssociations := by
  intro name association found
  rw [empty] at found
  cases found

theorem Schema.OwnsAssociations.withAssociation {schema : Schema}
    (owns : schema.OwnsAssociations) (association : Association) :
    (schema.withAssociation association).OwnsAssociations := by
  intro name found given
  rw [Schema.withAssociation, SortedMap.get?_insert] at given
  split at given
  · rename_i same
    cases given
    exact ⟨same.symm, rfl⟩
  · exact owns name found given

namespace Catalog

variable {settings : Settings} {gateways : SortedMap String Gateway} {schemas : List Schema}
  {before after : SortedMap String Relation}

def Registration (settings : Settings) (gateways : SortedMap String Gateway) (schema : Schema)
    (relation : Relation) : Prop :=
  ∃ gateway, gateways.get? schema.gateway = some gateway ∧
    relation = ⟨withDefaults settings schema, gateway, ∅⟩

/-- What is registered can be looked up, beside what was there. -/
theorem get?_register (registered : register settings gateways schemas before = .ok after)
    {name : String} {relation : Relation} :
    after.get? name = some relation ↔ before.get? name = some relation ∨
      ∃ schema ∈ schemas, schema.name.relation = name ∧
        Registration settings gateways schema relation := by
  induction schemas generalizing before with
  | nil =>
    cases registered
    simp
  | cons schema rest ih =>
    unfold register at registered
    split at registered
    · cases registered
    · rename_i gateway found
      split at registered
      · cases registered
      · rename_i fresh
        have missing : before.get? schema.name.relation = none := by
          simpa [SortedMap.contains] using fresh
        have own : Registration settings gateways schema relation ↔
            relation = ⟨withDefaults settings schema, gateway, ∅⟩ := by
          constructor
          · rintro ⟨other, given, made⟩
            cases found.symm.trans given
            exact made
          · exact fun made => ⟨gateway, found, made⟩
        simp only [ih registered, SortedMap.get?_insert, List.mem_cons, or_and_right, exists_or,
          exists_eq_left, own]
        by_cases here : name = schema.name.relation
        · rw [if_pos here, here, missing, Option.some.injEq]
          simp [eq_comm]
        · rw [if_neg here]
          simp [Ne.symm here]

/-- Schemas can be registered exactly if their gateways are there and their names are new. -/
theorem exists_register_iff :
    (∃ after, register settings gateways schemas before = .ok after) ↔
      (∀ schema ∈ schemas, ∃ gateway, gateways.get? schema.gateway = some gateway) ∧
        (schemas.map (·.name.relation)).Nodup ∧
        ∀ schema ∈ schemas, before.get? schema.name.relation = none := by
  induction schemas generalizing before with
  | nil => simp [register]
  | cons schema rest ih =>
    rw [List.forall_mem_cons, List.map_cons, List.nodup_cons, List.forall_mem_cons]
    unfold register
    split
    · rename_i missing
      simp [missing]
    · rename_i gateway found
      split
      · rename_i taken
        have present : before.get? schema.name.relation ≠ none := by
          simpa [SortedMap.contains, Option.isSome_iff_ne_none] using taken
        simp [present]
      · rename_i fresh
        have missing : before.get? schema.name.relation = none := by
          simpa [SortedMap.contains] using fresh
        have apart : (∀ other ∈ rest, (before.insert schema.name.relation
              ⟨withDefaults settings schema, gateway, ∅⟩).get? other.name.relation = none) ↔
            schema.name.relation ∉ rest.map (·.name.relation) ∧
              ∀ other ∈ rest, before.get? other.name.relation = none := by
          rw [List.mem_map, not_exists, ← forall_and]
          refine forall_congr' fun other => ?_
          rw [SortedMap.get?_insert]
          by_cases same : other.name.relation = schema.name.relation <;> simp [same, missing]
        have present : ∃ gateway, gateways.get? schema.gateway = some gateway := ⟨gateway, found⟩
        rw [ih, apart, and_iff_right present, and_iff_right missing]
        exact and_congr_right fun _ => and_left_comm.trans and_assoc.symm

theorem danglingAssociation?_eq_none {relations : SortedMap String Relation} :
    danglingAssociation? relations = none ↔
      ∀ name relation, relations.get? name = some relation →
        ∀ label association, relation.schema.associations.get? label = some association →
          ∃ target, relations.get? association.target = some target := by
  simp only [danglingAssociation?, List.findSome?_eq_none_iff, List.find?_eq_none,
    SortedMap.mem_values_iff, SortedMap.contains, Bool.not_eq_true', Bool.not_eq_false,
    Option.isSome_iff_exists]
  constructor
  · intro all name relation found label association given
    exact all relation ⟨name, found⟩ association ⟨label, given⟩
  · rintro all relation ⟨name, found⟩ association ⟨label, given⟩
    exact all name relation found label association given

variable {id : Nat} {plugins : Plugins} {catalog : Catalog}

theorem build_eq_ok :
    build id settings gateways schemas plugins = .ok catalog ↔
      ∃ relations, register settings gateways schemas ∅ = .ok relations ∧
        danglingAssociation? relations = none ∧
        catalog = ⟨id, settings, relations, gateways, plugins⟩ := by
  unfold build
  rw [Except.bind_eq_ok]
  refine exists_congr fun relations => and_congr_right fun _ => ?_
  cases danglingAssociation? relations with
  | none =>
    constructor
    · intro made
      cases made
      exact ⟨rfl, rfl⟩
    · rintro ⟨_, rfl⟩
      rfl
  | some association =>
    constructor
    · intro made
      cases made
    · rintro ⟨none, _⟩
      cases none

/-- The catalog holds the relation of each schema and no other. -/
theorem relation_of_build (built : build id settings gateways schemas plugins = .ok catalog)
    {name : String} {relation : Relation} :
    catalog.relation name = .ok relation ↔
      ∃ schema ∈ schemas, schema.name.relation = name ∧
        Registration settings gateways schema relation := by
  obtain ⟨relations, registered, _, rfl⟩ := build_eq_ok.mp built
  have known : relations.get? name = some relation ↔ ∃ schema ∈ schemas,
      schema.name.relation = name ∧ Registration settings gateways schema relation := by
    rw [get?_register registered, SortedMap.get?_empty]
    simp
  rw [← known, Catalog.relation]
  cases relations.get? name <;> simp

theorem exists_relation_of_mem (built : build id settings gateways schemas plugins = .ok catalog)
    {schema : Schema} (member : schema ∈ schemas) :
    ∃ gateway, gateways.get? schema.gateway = some gateway ∧
      catalog.relation schema.name.relation =
        .ok ⟨withDefaults settings schema, gateway, ∅⟩ := by
  obtain ⟨gateway, found⟩ :=
    (exists_register_iff.mp ((build_eq_ok.mp built).imp fun _ made => made.1)).1 schema member
  exact ⟨gateway, found, (relation_of_build built).mpr ⟨schema, member, rfl, gateway, found, rfl⟩⟩

/-- Schemas make a catalog exactly if the gateway of each is there, no two have one name and every
association leads to one of them. -/
theorem exists_build_iff :
    (∃ catalog, build id settings gateways schemas plugins = .ok catalog) ↔
      (∀ schema ∈ schemas, ∃ gateway, gateways.get? schema.gateway = some gateway) ∧
        (schemas.map (·.name.relation)).Nodup ∧
        ∀ schema ∈ schemas, ∀ label association,
          schema.associations.get? label = some association →
            ∃ target ∈ schemas, target.name.relation = association.target := by
  have known {relations : SortedMap String Relation}
      (registered : register settings gateways schemas ∅ = .ok relations) {name : String}
      {relation : Relation} : relations.get? name = some relation ↔
        ∃ schema ∈ schemas, schema.name.relation = name ∧
          Registration settings gateways schema relation := by
    rw [get?_register registered, SortedMap.get?_empty]
    simp
  constructor
  · rintro ⟨catalog, built⟩
    obtain ⟨relations, registered, closed, -⟩ := build_eq_ok.mp built
    obtain ⟨present, distinct, -⟩ := exists_register_iff.mp ⟨relations, registered⟩
    refine ⟨present, distinct, fun schema member label association given => ?_⟩
    obtain ⟨gateway, found⟩ := present schema member
    obtain ⟨target, there⟩ := danglingAssociation?_eq_none.mp closed schema.name.relation _
      ((known registered).mpr ⟨schema, member, rfl, gateway, found, rfl⟩) label association given
    obtain ⟨other, inside, named, -⟩ := (known registered).mp there
    exact ⟨other, inside, named⟩
  · rintro ⟨present, distinct, closed⟩
    obtain ⟨relations, registered⟩ := exists_register_iff.mpr
      ⟨present, distinct, fun _ _ => SortedMap.get?_empty _⟩
    refine ⟨_, build_eq_ok.mpr ⟨relations, registered, danglingAssociation?_eq_none.mpr ?_, rfl⟩⟩
    intro name relation found label association given
    obtain ⟨schema, member, -, gateway, -, rfl⟩ := (known registered).mp found
    obtain ⟨target, inside, named⟩ := closed schema member label association given
    obtain ⟨gateway, there⟩ := present target inside
    exact ⟨_, (known registered).mpr ⟨target, inside, named, gateway, there, rfl⟩⟩

/-- The catalog was set up from schemas that own their associations. -/
def Declared (catalog : Catalog) : Prop :=
  ∃ settings gateways schemas plugins,
    build catalog.id settings gateways schemas plugins = .ok catalog ∧
      ∀ schema ∈ schemas, schema.OwnsAssociations

theorem Declared.setUp (declared : catalog.Declared) : catalog.SetUp := by
  obtain ⟨settings, gateways, schemas, plugins, built, _⟩ := declared
  exact ⟨settings, gateways, schemas, plugins, built⟩

/-- The associations of a relation lead from it to a relation that the catalog knows. -/
theorem Declared.association (declared : catalog.Declared) {name label : String}
    {relation : Relation} (found : catalog.relation name = .ok relation)
    {association : Association} (given : relation.association? label = some association) :
    association.name = label ∧ association.source = name ∧
      ∃ target, catalog.relation association.target = .ok target := by
  obtain ⟨settings, gateways, schemas, plugins, built, owns⟩ := declared
  obtain ⟨schema, member, rfl, gateway, -, rfl⟩ := (relation_of_build built).mp found
  obtain ⟨own, source⟩ := owns schema member label association given
  obtain ⟨target, inside, named⟩ :=
    (exists_build_iff.mp ⟨catalog, built⟩).2.2 schema member label association given
  obtain ⟨gateway, -, there⟩ := exists_relation_of_mem built inside
  exact ⟨own, source, _, named ▸ there⟩

end Catalog

theorem RelationTree.Built.registered {catalog : Catalog} (declared : catalog.Declared)
    {tree : RelationTree} (built : tree.Built catalog) :
    catalog.relation tree.relation.name.relation = .ok tree.relation.unrestricted :=
  (built.sound_of_setUp declared.setUp).registered

/-! ### Catalogs over one gateway -/

namespace Sample

def gateways : SortedMap String Gateway := .ofList [("default", .plain 0 "memory")]

def registered (schema : Schema) : Relation :=
  ⟨Catalog.withDefaults .standard schema, .plain 0 "memory", ∅⟩

def leaf (schema : Schema) : RelationTree := .ofRelation (registered schema)

def catalogOf (schemas : List Schema) : Catalog where
  id := 0
  settings := .standard
  relations := .ofList (schemas.map fun schema => (schema.name.relation, registered schema))
  gateways := gateways
  plugins := ∅

theorem declared_catalogOf {schemas : List Schema}
    (built : Catalog.build 0 .standard gateways schemas ∅ = .ok (catalogOf schemas))
    (owns : ∀ schema ∈ schemas, schema.OwnsAssociations) : (catalogOf schemas).Declared :=
  ⟨_, _, schemas, _, built, owns⟩

def refers (name target : String) (kind : AssociationKind) (column : String) : Association :=
  ⟨name, "", target, kind, some column, none⟩

end Sample

end RelationGraph
