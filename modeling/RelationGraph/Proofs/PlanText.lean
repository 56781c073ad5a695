import RelationGraph.Plan.Encoding
import RelationGraph.Proofs.DocumentText

set_option autoImplicit false

namespace RelationGraph

open Json (Document)

/-! ### Maps -/

namespace Entries

variable {κ α : Type} [DecidableEq κ] [LT κ] [DecidableLT κ] [LE κ] [Std.IsLinearOrder κ]
  [Std.LawfulOrderLT κ]

theorem insert_of_forall_lt {key : κ} {entries : List (κ × α)}
    (last : ∀ entry ∈ entries, entry.1 < key) (value : α) :
    insert key value entries = entries ++ [(key, value)] := by
  induction entries with
  | nil => rfl
  | cons entry rest ih =>
    obtain ⟨before, others⟩ := List.forall_mem_cons.mp last
    have other : key ≠ entry.1 := fun same => Std.lt_irrefl (same ▸ before)
    have notBefore : ¬ key < entry.1 := fun after => Std.lt_irrefl (Std.lt_trans before after)
    rw [insert, if_neg other, if_neg notBefore, ih others]
    rfl

theorem insertAll_of_sorted {pairs entries : List (κ × α)} (sorted : Sorted (entries ++ pairs)) :
    insertAll pairs entries = entries ++ pairs := by
  induction pairs generalizing entries with
  | nil => exact (List.append_nil _).symm
  | cons pair rest ih =>
    obtain ⟨_, _, before⟩ := List.pairwise_append.mp sorted
    have last : ∀ entry ∈ entries, entry.1 < pair.1 :=
      fun entry member => before entry member pair List.mem_cons_self
    rw [insertAll, List.foldl_cons, ← insertAll, insert_of_forall_lt last, ih, List.append_assoc]
    · rfl
    · rwa [List.append_assoc]

end Entries

theorem SortedMap.ofList_entries {κ α : Type} [DecidableEq κ] [LT κ] [DecidableLT κ] [LE κ]
    [Std.IsLinearOrder κ] [Std.LawfulOrderLT κ] (map : SortedMap κ α) :
    SortedMap.ofList map.entries = map :=
  SortedMap.ext (Entries.insertAll_of_sorted map.sorted)

/-! ### Parts of plans -/

theorem RelationName.ofDocument?_toDocument (name : RelationName) :
    ofDocument? name.toDocument = some name := rfl

theorem JoinKeys.ofDocument?_toDocument (keys : JoinKeys) :
    ofDocument? keys.toDocument = some keys := by
  have read (pairs : List (String × String)) :
      (pairs.map fun pair => (pair.1, Document.string pair.2)).mapM
        (fun member => do return (member.1, ← member.2.string?)) = some pairs := by
    induction pairs with
    | nil => rfl
    | cons pair rest ih =>
      rw [List.map_cons, List.mapM_cons, ih]
      rfl
  change (do
    let pairs ← (keys.pairs.map fun pair => (pair.1, Document.string pair.2)).mapM
      fun member => do return (member.1, ← member.2.string?)
    return SortedMap.ofList pairs) = some keys
  rw [read]
  exact congrArg some keys.ofList_entries

theorem Cardinality.ofDocument?_toDocument (cardinality : Cardinality) :
    ofDocument? true cardinality.toDocument = some cardinality := by
  cases cardinality <;> rfl

theorem Json.Document.optional_ofOption {α : Type} (write : α → Document)
    {read : Document → Option α} (back : ∀ value, read (write value) = some value)
    (present : ∀ value, write value ≠ .null) (value : Option α) :
    optional read (some (ofOption write value)) = some value := by
  cases value with
  | none => rfl
  | some value =>
    have written : optional read (some (write value)) = (read (write value)).map some := by
      unfold optional
      split
      · rename_i absent
        cases absent
      · rename_i same
        exact absurd (Option.some.inj same) (present value)
      · rename_i same
        rw [Option.some.inj same]
    rw [ofOption, written, back]
    rfl

namespace Plan

theorem metaOf?_metaDocument (base : RelationName) (link : Link) :
    metaOf? (metaDocument base link) = some (base, link) := by
  have fields : Document.fields? ["keys", "combine_type", "combine_name"] (metaDocument base link) =
      some [some link.keys.toDocument,
        some (.ofOption Cardinality.toDocument link.cardinality),
        some (.ofOption .string link.name)] := rfl
  have cardinality : Document.optional (Cardinality.ofDocument? true)
      (some (.ofOption Cardinality.toDocument link.cardinality)) = some link.cardinality :=
    Document.optional_ofOption _ Cardinality.ofDocument?_toDocument
      (fun _ same => by cases same) link.cardinality
  have name : Document.optional Document.string? (some (.ofOption .string link.name)) =
      some link.name :=
    Document.optional_ofOption Document.string (fun _ => rfl) (fun _ same => by cases same)
      link.name
  have linked : Link.ofDocument? true (metaDocument base link) = some link := by
    simp only [Link.ofDocument?, fields, Option.bind_eq_bind, Option.bind_some, Document.required,
      JoinKeys.ofDocument?_toDocument, cardinality, name]
    rfl
  have named : Document.member? (("base_name", base.toDocument) :: link.members) "base_name" =
      some (some base.toDocument) := rfl
  change (do
    let found ← Document.required RelationName.ofDocument?
      (← Document.member? (("base_name", base.toDocument) :: link.members) "base_name")
    return (found, ← Link.ofDocument? true (metaDocument base link))) = _
  rw [named, linked]
  rfl

/-! ### Writing and reading -/

theorem textual_metaDocument (base : RelationName) (link : Link) :
    (metaDocument base link).Textual := by
  refine .object ?_
  simp only [Link.members, List.forall_mem_cons]
  refine ⟨.object ?_, .object ?_, ?_, ?_, fun _ member => by cases member⟩
  · simp only [List.forall_mem_cons]
    exact ⟨.string _, .string _, fun _ member => by cases member⟩
  · intro member inside
    obtain ⟨pair, _, rfl⟩ := List.mem_map.mp inside
    exact .string pair.2
  · cases link.cardinality with
    | none => exact .null
    | some cardinality => exact .string _
  · cases link.name with
    | none => exact .null
    | some name => exact .string name

mutual

theorem textual_toDocument (plan : Plan) : plan.toDocument.Textual := by
  match plan with
  | .relation name base link content =>
    refine .object ?_
    simp only [List.forall_mem_cons]
    exact ⟨.string _, .string name, textual_metaDocument base link,
      .array (textual_toDocuments content), fun _ member => by cases member⟩
  | .header nodes =>
    refine .object ?_
    simp only [List.forall_mem_cons]
    exact ⟨.string _, .array (textual_toDocuments nodes), fun _ member => by cases member⟩
  | .attribute name =>
    refine .object ?_
    simp only [List.forall_mem_cons]
    exact ⟨.string _, .string name, fun _ member => by cases member⟩

theorem textual_toDocuments (plans : List Plan) :
    ∀ document ∈ toDocuments plans, document.Textual := by
  match plans with
  | [] => exact fun _ member => by cases member
  | plan :: rest =>
    rw [toDocuments, List.forall_mem_cons]
    exact ⟨textual_toDocument plan, textual_toDocuments rest⟩

end

theorem nesting_metaDocument (base : RelationName) (link : Link) :
    (metaDocument base link).nesting = 2 := by
  have keys : link.keys.toDocument.nesting = 1 := by
    rw [JoinKeys.toDocument, Document.nesting, Nat.add_eq_left, ← Nat.le_zero,
      Document.membersNesting_le]
    intro member inside
    obtain ⟨pair, _, rfl⟩ := List.mem_map.mp inside
    exact Nat.le_refl _
  have cardinality : (Document.ofOption Cardinality.toDocument link.cardinality).nesting = 0 := by
    cases link.cardinality <;> rfl
  have name : (Document.ofOption Document.string link.name).nesting = 0 := by
    cases link.name <;> rfl
  simp [metaDocument, Link.members, Document.nesting, Document.membersNesting,
    RelationName.toDocument, keys, cardinality, name]

theorem nesting_relation (name : String) (base : RelationName) (link : Link)
    (content : List Plan) :
    (relation name base link content).toDocument.nesting =
      1 + max 2 (1 + Document.itemsNesting (toDocuments content)) := by
  simp [toDocument, Document.nesting, Document.membersNesting, nesting_metaDocument]

theorem nesting_header (nodes : List Plan) :
    (header nodes).toDocument.nesting = 2 + Document.itemsNesting (toDocuments nodes) := by
  simp [toDocument, Document.nesting, Document.membersNesting]
  omega

theorem nesting_attribute (name : String) : (Plan.attribute name).toDocument.nesting = 1 := rfl

mutual

/-- What is written of a plan is read as it, at any depth that its nesting allows. -/
theorem ofDocument?_toDocument (plan : Plan) {belowRoot : Bool} {depth : Nat}
    (within : plan.toDocument.nesting ≤ depth) :
    ofDocument? belowRoot depth plan.toDocument = some plan := by
  match plan with
  | .relation name base link content =>
    rw [nesting_relation] at within
    obtain ⟨depth, rfl⟩ : ∃ less, depth = less + 1 := ⟨depth - 1, by omega⟩
    have kind : kindOf? belowRoot (relation name base link content).toDocument =
        some (.relation, .object
          [("name", .string name), ("meta", metaDocument base link),
            ("header", .array (toDocuments content))]) := rfl
    have fields : Document.fields? ["name", "meta", "header"] (.object
          [("name", .string name), ("meta", metaDocument base link),
            ("header", .array (toDocuments content))]) =
        some [some (.string name), some (metaDocument base link),
          some (.array (toDocuments content))] := rfl
    have inner : (toDocuments content).mapM (ofDocument? true depth) = some content :=
      ofDocument?_toDocuments content (by omega)
    simp only [ofDocument?, kind, fields, Option.bind_eq_bind, Option.bind_some, Document.required,
      Document.string?, metaOf?_metaDocument, Document.items?, inner]
    rfl
  | .header nodes =>
    rw [nesting_header] at within
    obtain ⟨depth, rfl⟩ : ∃ less, depth = less + 1 := ⟨depth - 1, by omega⟩
    have kind : kindOf? belowRoot (header nodes).toDocument =
        some (.header, .object [("nodes", .array (toDocuments nodes))]) := rfl
    have fields : Document.fields? ["nodes"] (.object [("nodes", .array (toDocuments nodes))]) =
        some [some (.array (toDocuments nodes))] := rfl
    have inner : (toDocuments nodes).mapM (ofDocument? true depth) = some nodes :=
      ofDocument?_toDocuments nodes (by omega)
    simp only [ofDocument?, kind, fields, Option.bind_eq_bind, Option.bind_some, Document.required,
      Document.items?, inner]
    rfl
  | .attribute name =>
    rw [nesting_attribute] at within
    obtain ⟨depth, rfl⟩ : ∃ less, depth = less + 1 := ⟨depth - 1, by omega⟩
    rfl

theorem ofDocument?_toDocuments (plans : List Plan) {depth : Nat}
    (within : Document.itemsNesting (toDocuments plans) ≤ depth) :
    (toDocuments plans).mapM (ofDocument? true depth) = some plans := by
  match plans with
  | [] => rfl
  | plan :: rest =>
    obtain ⟨first, others⟩ := Nat.max_le.mp within
    rw [toDocuments, List.mapM_cons, ofDocument?_toDocument plan first,
      ofDocument?_toDocuments rest others]
    rfl

end

/-- The text of a plan is read as the plan exactly if it is not nested too deep. -/
theorem ofText?_text_iff (plan : Plan) :
    ofText? plan.text = some plan ↔ plan.toDocument.nesting ≤ Json.depthLimit := by
  have written : Document.ofChars? plan.text.toList = some plan.toDocument := by
    rw [text, String.toList_ofList, Document.ofChars?_chars (textual_toDocument plan)]
  rw [ofText?, written, Option.bind_some]
  constructor
  · intro read
    obtain ⟨value, sound, _⟩ := Option.bind_eq_some_iff.mp read
    exact Document.nesting_le_of_toJson? _ sound
  · intro within
    obtain ⟨value, sound⟩ := Document.exists_toJson? (textual_toDocument plan) within
    rw [read?, sound, Option.bind_eq_bind, Option.bind_some, ofDocument?_toDocument plan within]

end Plan

/-! ### Reading and writing -/

theorem Option.mem_of_mapM {α β : Type} {make : α → Option β} {items : List α} {results : List β}
    (made : items.mapM make = some results) {result : β} (member : result ∈ results) :
    ∃ item ∈ items, make item = some result := by
  induction items generalizing results with
  | nil =>
    cases made
    cases member
  | cons item rest ih =>
    rw [List.mapM_cons] at made
    obtain ⟨first, here, made⟩ := Option.bind_eq_some_iff.mp made
    obtain ⟨others, later, made⟩ := Option.bind_eq_some_iff.mp made
    cases made
    rcases List.mem_cons.mp member with rfl | inside
    · exact ⟨item, List.mem_cons_self, here⟩
    · obtain ⟨other, among, same⟩ := ih later inside
      exact ⟨other, List.mem_cons_of_mem _ among, same⟩

namespace Json.Document

theorem nesting_le_of_member? {members : List (String × Document)} {key : String}
    {value : Document} (found : member? members key = some (some value)) :
    value.nesting ≤ membersNesting members := by
  unfold member? at found
  split at found
  · cases found
  · rename_i name only alone
    cases found
    have inside : (name, value) ∈ members := (List.mem_filter.mp (alone ▸ List.mem_cons_self)).1
    exact membersNesting_le.mp (Nat.le_refl _) _ inside
  · cases found

theorem nesting_lt_of_fields? {document value : Document} {names : List String}
    {fields : List (Option Document)} (read : document.fields? names = some fields)
    (member : some value ∈ fields) : value.nesting < document.nesting := by
  cases document with
  | object members =>
    obtain ⟨name, _, found⟩ := Option.mem_of_mapM read member
    rw [nesting]
    have within := nesting_le_of_member? found
    omega
  | array items =>
    rw [fields?] at read
    split at read
    · cases read
      obtain ⟨item, inside, same⟩ := List.mem_map.mp member
      cases same
      have within := itemsNesting_le.mp (Nat.le_refl (itemsNesting items)) value inside
      rw [nesting]
      omega
    · cases read
  | _ => cases read

end Json.Document

namespace Plan

theorem nesting_le_of_kindOf? {belowRoot : Bool} {document fields : Document} {kind : Kind}
    (read : kindOf? belowRoot document = some (kind, fields)) :
    fields.nesting ≤ document.nesting := by
  cases document with
  | object members =>
    obtain ⟨field, _, read⟩ := Option.bind_eq_some_iff.mp read
    obtain ⟨kind, _, read⟩ := Option.bind_eq_some_iff.mp read
    cases read
    have within := Document.membersNesting_le.mp (Nat.le_refl (Document.membersNesting members))
    have fewer : Document.membersNesting (members.filter (·.1 ≠ "kind")) ≤
        Document.membersNesting members :=
      Document.membersNesting_le.mpr fun member inside =>
        within member (List.mem_filter.mp inside).1
    rw [Document.nesting, Document.nesting]
    omega
  | array items =>
    cases items with
    | nil => cases read
    | cons first rest =>
      obtain ⟨kind, _, read⟩ := Option.bind_eq_some_iff.mp read
      cases read
      rw [Document.nesting, Document.nesting, Document.itemsNesting]
      omega
  | _ => cases read

/-- What a relation is backed by and linked with holds a name and keys, which are containers. -/
theorem two_le_of_metaOf? {document : Document} {base : RelationName} {link : Link}
    (read : metaOf? document = some (base, link)) : 2 ≤ document.nesting := by
  cases document with
  | object members =>
    obtain ⟨field, found, read⟩ := Option.bind_eq_some_iff.mp read
    obtain ⟨name, named, _⟩ := Option.bind_eq_some_iff.mp read
    obtain ⟨value, rfl, readName⟩ := Option.bind_eq_some_iff.mp named
    have container : 1 ≤ value.nesting := by
      cases value with
      | object _ => exact Nat.le_add_right 1 _
      | array _ => exact Nat.le_add_right 1 _
      | _ => cases readName
    have within := Document.nesting_le_of_member? found
    rw [Document.nesting]
    omega
  | _ => cases read

theorem itemsNesting_toDocuments_le {plans : List Plan} {bound : Nat} :
    Document.itemsNesting (toDocuments plans) ≤ bound ↔
      ∀ plan ∈ plans, plan.toDocument.nesting ≤ bound := by
  induction plans with
  | nil => simp [toDocuments, Document.itemsNesting]
  | cons plan rest ih =>
    rw [toDocuments, Document.itemsNesting, Nat.max_le, ih, List.forall_mem_cons]

/-- Plans that are read are nested no deeper than what they are read from. -/
theorem itemsNesting_le_of_mapM {depth : Nat} {content : Document} {items : List Document}
    {plans : List Plan}
    (each : ∀ document plan, ofDocument? true depth document = some plan →
      plan.toDocument.nesting ≤ document.nesting)
    (listed : content.items? = some items)
    (read : items.mapM (ofDocument? true depth) = some plans) :
    1 + Document.itemsNesting (toDocuments plans) ≤ content.nesting := by
  cases content with
  | array own =>
    cases listed
    have within := Document.itemsNesting_le.mp (Nat.le_refl (Document.itemsNesting items))
    have inner : Document.itemsNesting (toDocuments plans) ≤ Document.itemsNesting items := by
      refine itemsNesting_toDocuments_le.mpr fun plan member => ?_
      obtain ⟨item, inside, made⟩ := Option.mem_of_mapM read member
      exact Nat.le_trans (each item plan made) (within item inside)
    rw [Document.nesting]
    omega
  | _ => cases listed

/-- A plan is nested no deeper than the document that it is read from. -/
theorem nesting_le_of_ofDocument? {belowRoot : Bool} {depth : Nat} {document : Document}
    {plan : Plan} (read : ofDocument? belowRoot depth document = some plan) :
    plan.toDocument.nesting ≤ document.nesting := by
  induction depth generalizing belowRoot document plan with
  | zero => cases read
  | succ depth ih =>
    obtain ⟨⟨kind, fields⟩, kinded, read⟩ := Option.bind_eq_some_iff.mp read
    have smaller := nesting_le_of_kindOf? kinded
    cases kind with
    | relation =>
      obtain ⟨found, parts, read⟩ := Option.bind_eq_some_iff.mp read
      dsimp only at read
      split at read
      · rename_i name data content
        obtain ⟨name, _, read⟩ := Option.bind_eq_some_iff.mp read
        obtain ⟨⟨base, link⟩, linked, read⟩ := Option.bind_eq_some_iff.mp read
        obtain ⟨items, listed, read⟩ := Option.bind_eq_some_iff.mp read
        obtain ⟨plans, made, read⟩ := Option.bind_eq_some_iff.mp read
        cases read
        obtain ⟨data, rfl, linked⟩ := Option.bind_eq_some_iff.mp linked
        obtain ⟨content, rfl, listed⟩ := Option.bind_eq_some_iff.mp listed
        have dataBelow : data.nesting < fields.nesting :=
          Document.nesting_lt_of_fields? parts (by simp)
        have contentBelow : content.nesting < fields.nesting :=
          Document.nesting_lt_of_fields? parts (by simp)
        have dataDeep := two_le_of_metaOf? linked
        have inner := itemsNesting_le_of_mapM (fun _ _ => ih) listed made
        rw [nesting_relation]
        omega
      · cases read
    | header =>
      obtain ⟨found, parts, read⟩ := Option.bind_eq_some_iff.mp read
      split at read
      · rename_i nodes
        obtain ⟨items, listed, read⟩ := Option.bind_eq_some_iff.mp read
        obtain ⟨plans, made, read⟩ := Option.bind_eq_some_iff.mp read
        cases read
        obtain ⟨content, rfl, listed⟩ := Option.bind_eq_some_iff.mp listed
        have contentBelow : content.nesting < fields.nesting :=
          Document.nesting_lt_of_fields? parts (by simp)
        have inner := itemsNesting_le_of_mapM (fun _ _ => ih) listed made
        rw [nesting_header]
        omega
      · cases read
    | «attribute» =>
      obtain ⟨found, parts, read⟩ := Option.bind_eq_some_iff.mp read
      split at read
      · rename_i name
        obtain ⟨name, named, read⟩ := Option.bind_eq_some_iff.mp read
        cases read
        obtain ⟨value, rfl, _⟩ := Option.bind_eq_some_iff.mp named
        have below : value.nesting < fields.nesting :=
          Document.nesting_lt_of_fields? parts (by simp)
        rw [nesting_attribute]
        omega
      · cases read

/-- The text of a plan is read as this plan if and only if it is nested no deeper than the reader
goes. Whatever text a plan is read from, with unknown members, in another order or as sequences, its
own text is read as the same plan and is written again in the same way. -/
theorem ofText?_text :
    (∀ plan : Plan, ofText? plan.text = some plan ↔ plan.toDocument.nesting ≤ Json.depthLimit) ∧
      ∀ source plan, ofText? source = some plan →
        ofText? plan.text = some plan ∧ (ofText? plan.text).map text = some plan.text := by
  refine ⟨ofText?_text_iff, fun source plan given => ?_⟩
  obtain ⟨document, _, given⟩ := Option.bind_eq_some_iff.mp given
  obtain ⟨value, sound, read⟩ := Option.bind_eq_some_iff.mp given
  have within : plan.toDocument.nesting ≤ Json.depthLimit :=
    Nat.le_trans (nesting_le_of_ofDocument? read) (Document.nesting_le_of_toJson? document sound)
  have again := (ofText?_text_iff plan).mpr within
  exact ⟨again, by rw [again]; rfl⟩

/-- A relation in an order of its own, with blanks, an escape, a member that plans do not have, and
a name and an attribute as sequences. -/
theorem ofText?_text_users :
    let source := "\x7b \"meta\": \x7b\"keys\":\x7b\"id\":\"\\u00e9\"\x7d," ++
      "\"base_name\":[\"users\",\"people\"]\x7d,\n\"header\":[[\"attribute\",\"id\"]]," ++
      "\"more\":[null],\"name\":\"users\",\"kind\":\"relation\"\x7d"
    let plan : Plan := .relation "users" ⟨"users", "people"⟩ ⟨.ofList [("id", "é")], none, none⟩
      [.attribute "id"]
    ofText? source = some plan ∧ plan.toDocument.nesting ≤ Json.depthLimit ∧
      ofText? plan.text = some plan ∧ (ofText? plan.text).map text = some plan.text := by
  intro source plan
  have given : ofText? source = some plan := by decide +kernel
  have within : plan.toDocument.nesting ≤ Json.depthLimit := by decide
  exact ⟨given, within, (ofText?_text.1 plan).mpr within, (ofText?_text.2 source plan given).2⟩

end Plan

end RelationGraph
