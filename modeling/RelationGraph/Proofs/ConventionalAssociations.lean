import RelationGraph.Proofs.KeyInference

set_option autoImplicit false

namespace RelationGraph

/-- Two requests for keys come to the same: the same keys, or none to be found. -/
def SameKeys : Except Fault JoinKeys → Except Fault JoinKeys → Prop
  | .ok keys, .ok keys' => keys = keys'
  | .error fault, .error fault' => fault.isUnjoinable ∧ fault'.isUnjoinable
  | _, _ => False

/-- An association to many, without a foreign key of its own, knows the columns of convention. It
also takes the column without a name. -/
theorem sameKeys_iff {catalog extended : Catalog} {source target source' target' : Relation}
    {association : Association} (missing : source.association? target.name.relation = none)
    (found : source'.association? target'.name.relation = some association)
    (many : association.kind = .oneToMany) (plain : association.foreignKey = none)
    (known : extended.relation association.source = .ok source')
    (reached : extended.relation association.target = .ok target')
    (key : source'.primaryKey = source.primaryKey)
    (column : target'.foreignKeyFor source'.name = target.foreignKeyFor source.name)
    (direction : JoinDirection) :
    SameKeys (keysBetween catalog source target direction)
        (keysBetween extended source' target' direction) ↔
      source.primaryKey = none ∨ target.foreignKeyFor source.name ≠ "" := by
  have pair : association.pair? source' target' =
      source.primaryKey.map fun key => (key, target.foreignKeyFor source.name) := by
    simp [Association.pair?, many, plain, key, column]
  rw [keysBetween_of_missing missing, conventionalKeys_eq, conventionalPair?,
    keysBetween_of_found found (Association.keys_eq known reached), pair]
  cases source.primaryKey with
  | none => simp [JoinDirection.keysOf, SameKeys, conventionalFault, Association.fault,
      Fault.isUnjoinable]
  | some key =>
    by_cases unnamed : target.foreignKeyFor source.name = "" <;>
      simp [unnamed, JoinDirection.keysOf, SameKeys]

section Extension

variable {id : Nat} {settings : Settings} {gateways : SortedMap String Gateway}
  {before after : List Schema} {schema : Schema} {plugins : Plugins} {catalog : Catalog}
  {name : String}

theorem mem_of_mem_hasMany {other : Schema}
    (member : other ∈ before ++ schema.hasMany name :: after) :
    other = schema.hasMany name ∨ other ∈ before ++ schema :: after := by
  rcases List.mem_append.mp member with inside | inside
  · exact Or.inr (List.mem_append_left _ inside)
  · rcases List.mem_cons.mp inside with rfl | inside
    · exact Or.inl rfl
    · exact Or.inr (List.mem_append_right _ (List.mem_cons_of_mem _ inside))

/-- An association more, to a relation that is there, lets the catalog be set up as before. -/
theorem exists_build_hasMany
    (built : Catalog.build id settings gateways (before ++ schema :: after) plugins = .ok catalog)
    {target : Relation} (reached : catalog.relation name = .ok target) :
    ∃ extended, Catalog.build id settings gateways
      (before ++ schema.hasMany name :: after) plugins = .ok extended := by
  have own : schema ∈ before ++ schema :: after := List.mem_append_right _ List.mem_cons_self
  obtain ⟨present, distinct, closed⟩ := Catalog.exists_build_iff.mp ⟨catalog, built⟩
  have names : (before ++ schema.hasMany name :: after).map (·.name.relation) =
      (before ++ schema :: after).map (·.name.relation) := by
    simp [Schema.hasMany, Schema.withAssociation]
  have there {label : String} (old : ∃ target ∈ before ++ schema :: after,
      target.name.relation = label) :
      ∃ target ∈ before ++ schema.hasMany name :: after, target.name.relation = label := by
    rw [← List.mem_map, names]
    exact List.mem_map.mpr old
  refine Catalog.exists_build_iff.mpr ⟨?_, names ▸ distinct, ?_⟩
  · intro other member
    rcases mem_of_mem_hasMany member with rfl | old
    · exact present schema own
    · exact present other old
  · intro other member label association given
    rcases mem_of_mem_hasMany member with rfl | old
    · rw [Schema.hasMany, Schema.withAssociation, SortedMap.get?_insert] at given
      split at given
      · cases given
        obtain ⟨other, inside, named, -⟩ := (Catalog.relation_of_build built).mp reached
        exact there ⟨other, inside, named⟩
      · exact there (closed schema own label association given)
    · exact there (closed other old label association given)

theorem exists_relation_hasMany {extended : Catalog}
    (built : Catalog.build id settings gateways (before ++ schema :: after) plugins = .ok catalog)
    (built' : Catalog.build id settings gateways
      (before ++ schema.hasMany name :: after) plugins = .ok extended)
    {label : String} {relation : Relation} (reached : catalog.relation label = .ok relation) :
    ∃ relation' associations, extended.relation label = .ok relation' ∧
      relation'.schema = { relation.schema with associations := associations } := by
  obtain ⟨other, inside, rfl, gateway, -, rfl⟩ := (Catalog.relation_of_build built).mp reached
  have kept : ∃ associations, { other with associations := associations } ∈
      before ++ schema.hasMany name :: after := by
    rcases List.mem_append.mp inside with member | member
    · exact ⟨_, List.mem_append_left _ member⟩
    · rcases List.mem_cons.mp member with rfl | member
      · exact ⟨_, List.mem_append_right _ List.mem_cons_self⟩
      · exact ⟨_, List.mem_append_right _ (List.mem_cons_of_mem _ member)⟩
  obtain ⟨associations, member⟩ := kept
  obtain ⟨gateway', -, reached'⟩ := Catalog.exists_relation_of_mem built' member
  exact ⟨_, associations, reached', rfl⟩

/-- An explicit association of convention leaves the keys that are found as they are, unless the
source has a primary key and the foreign key column no name: the association has keys there, and
convention has none. -/
theorem keysBetween_hasMany_iff {source target : Relation}
    (built : Catalog.build id settings gateways (before ++ schema :: after) plugins = .ok catalog)
    (known : catalog.relation schema.name.relation = .ok source)
    (reached : catalog.relation name = .ok target)
    (undeclared : schema.associations.get? name = none) :
    ∃ extended source' target',
      Catalog.build id settings gateways (before ++ schema.hasMany name :: after) plugins =
        .ok extended ∧
      extended.relation schema.name.relation = .ok source' ∧
      extended.relation name = .ok target' ∧
      ∀ direction, SameKeys (keysBetween catalog source target direction)
          (keysBetween extended source' target' direction) ↔
        source.primaryKey = none ∨ target.foreignKeyFor source.name ≠ "" := by
  obtain ⟨extended, built'⟩ := exists_build_hasMany built reached
  obtain ⟨target', _, reached', columns⟩ := exists_relation_hasMany built built' reached
  have own : schema ∈ before ++ schema :: after := List.mem_append_right _ List.mem_cons_self
  have own' : schema.hasMany name ∈ before ++ schema.hasMany name :: after :=
    List.mem_append_right _ List.mem_cons_self
  obtain ⟨gateway, -, there⟩ := Catalog.exists_relation_of_mem built own
  obtain ⟨gateway', -, known'⟩ := Catalog.exists_relation_of_mem built' own'
  cases known.symm.trans there
  have named : target.name.relation = name := (Catalog.registers_of_build built reached).named
  have named' : target'.name.relation = name := (Catalog.registers_of_build built' reached').named
  have missing : Relation.association? ⟨Catalog.withDefaults settings schema, gateway, ∅⟩
      target.name.relation = none := by
    rw [named]
    exact undeclared
  have found : Relation.association?
      ⟨Catalog.withDefaults settings (schema.hasMany name), gateway', ∅⟩ target'.name.relation =
        some ⟨name, schema.name.relation, name, .oneToMany, none, none⟩ := by
    rw [named', Relation.association?, Catalog.withDefaults, Schema.hasMany,
      Schema.withAssociation, SortedMap.get?_insert, if_pos rfl]
  have column : target'.foreignKeyFor = target.foreignKeyFor := by
    unfold Relation.foreignKeyFor
    rw [columns]
    rfl
  refine ⟨extended, _, target', built', known', reached', fun direction => ?_⟩
  exact sameKeys_iff missing found rfl rfl known' reached' rfl (congrFun column _) direction

end Extension

/-- Users are declared to have many tasks, which refer to them by convention. -/
theorem keysBetween_hasMany_iff_users :
    let plain := Sample.catalogOf [.named "users", .named "tasks"]
    ∃ extended users tasks,
      Catalog.build 0 .standard Sample.gateways
        ([] ++ (Schema.named "users").hasMany "tasks" :: [.named "tasks"]) ∅ = .ok extended ∧
      extended.relation "users" = .ok users ∧ extended.relation "tasks" = .ok tasks ∧
      ∀ direction, SameKeys
        (keysBetween plain (Sample.relation "users") (Sample.relation "tasks") direction)
        (keysBetween extended users tasks direction) := by
  intro plain
  have set : Catalog.build 0 .standard Sample.gateways
      ([] ++ .named "users" :: [.named "tasks"]) ∅ = .ok plain := rfl
  have known : plain.relation "users" = .ok (Sample.relation "users") := rfl
  have reached : plain.relation "tasks" = .ok (Sample.relation "tasks") := rfl
  obtain ⟨extended, users, tasks, built, known', reached', same⟩ :=
    keysBetween_hasMany_iff set known reached rfl
  exact ⟨extended, users, tasks, built, known', reached', fun direction =>
    (same direction).mpr (Or.inr (by decide))⟩

namespace Sample

/-- Tasks whose column for users is declared without a name. -/
def unnamed : Schema := (Schema.named "tasks").withForeignKey "users" ""

/-- A column without a name is refused by convention and taken by an association that adds nothing
to it. -/
theorem not_sameKeys_unnamed :
    let plain := [.named "users", unnamed]
    let declared := [(Schema.named "users").hasMany "tasks", unnamed]
    Catalog.build 0 .standard gateways plain ∅ = .ok (catalogOf plain) ∧
      Catalog.build 0 .standard gateways declared ∅ = .ok (catalogOf declared) ∧
      keysBetween (catalogOf plain) (registered (.named "users")) (registered unnamed) .children =
        .error (.unjoinable "users" "tasks" .noForeignKey) ∧
      keysBetween (catalogOf declared) (registered ((Schema.named "users").hasMany "tasks"))
        (registered unnamed) .children = .ok (.single "id" "") ∧
      ¬SameKeys
        (keysBetween (catalogOf plain) (registered (.named "users")) (registered unnamed) .children)
        (keysBetween (catalogOf declared) (registered ((Schema.named "users").hasMany "tasks"))
          (registered unnamed) .children) :=
  ⟨rfl, rfl, rfl, rfl, id⟩

end Sample

end RelationGraph
