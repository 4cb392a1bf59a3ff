import ApiScreens.Proofs.Document.Once
import ApiScreens.Proofs.Module.Built
import ApiScreens.Proofs.Pattern.Spelling

/-! Which properties stand in the tables, searches and forms of a module. Each list names the properties of one schema
that resolve, less those that it hides, in the order of the schema. -/
namespace ApiScreens
open Json (Value Members)

def propertiesOf (schema : Option Value) : Members :=
  ((schema.bind (·.get? "properties")).bind Value.members?).getD []

/-- The names are those of the properties that resolve and are not hidden, each once, in the order of the schema. -/
structure Selects (doc : Document) (schema : Option Value) (hidden names : List String) : Prop where
  exactly : ∀ name, name ∈ names ↔
    (∃ property, (name, property) ∈ propertiesOf schema ∧ doc.resolveSchema property ≠ none) ∧ name ∉ hidden
  ordered : names.Sublist (propertiesOf schema).keys
  once : names.Nodup

namespace Field

theorem ofSchemaNames (doc : Document) (schema : Option Value) :
    (Entity.fieldsOf doc schema).map (·.name) =
      ((propertiesOf schema).filter fun p => (doc.resolveSchema p.2).isSome).map (·.1) := by
  cases schema with
  | none => rfl
  | some s =>
    rw [Entity.fieldsOf, Option.map_some, Option.getD_some, ofSchema, propertiesOf, Option.bind_some]
    induction ((s.get? "properties").bind Value.members?).getD [] with
    | nil => rfl
    | cons p rest ih =>
      cases resolves : doc.resolveSchema p.2 with
      | none => simpa [resolves] using ih
      | some w => simpa [resolves, ofProperty] using ih

theorem selects {doc : Document} {schema : Option Value} (distinct : (propertiesOf schema).keys.Nodup)
    {hidden : List String} {shown : String → Bool} (shows : ∀ name, shown name = true ↔ name ∉ hidden) :
    Selects doc schema hidden (((Entity.fieldsOf doc schema).map (·.name)).filter shown) := by
  have part : (((Entity.fieldsOf doc schema).map (·.name)).filter shown).Sublist (propertiesOf schema).keys := by
    rw [ofSchemaNames]
    exact List.filter_sublist.trans (List.filter_sublist.map _)
  refine ⟨fun name => ?_, part, distinct.sublist part⟩
  rw [List.mem_filter, shows, ofSchemaNames]
  simp [Option.isSome_iff_ne_none]

theorem columnNames (fields : List Field) :
    (columns fields).map (·.accessorKey) = (fields.map (·.name)).filter fun name => !isSystem name := by
  have shown (name : String) : (name = "id" || !isSystem name) = !isSystem name := by
    by_cases key : name = "id"
    · subst key
      decide
    · simp [key]
  rw [columns, List.map_map, List.filter_map]
  simp only [shown]
  rfl

theorem formNames (h : Heuristics) (fields : List Field) :
    (formFields h fields).map (·.name) =
      (fields.map (·.name)).filter fun name => !isSystem name && !isReadOnly name := by
  rw [formFields, List.map_map, List.filter_map]
  rfl

theorem slotNames (fields : List Field) :
    (searchSlot fields).map (·.name) = (fields.map (·.name)).filter fun name => !isSystem name := by
  rw [searchSlot, List.map_map, List.filter_map]
  rfl

theorem notSystem (name : String) : (!isSystem name) = true ↔ name ∉ systemNames := by
  simp [isSystem]

theorem notFilled (name : String) : (!isSystem name && !isReadOnly name) = true ↔ name ∉ "id" :: systemNames := by
  have covered : ∀ other ∈ readOnlyNames, other ∈ "id" :: systemNames := by decide
  have keyed : "id" ∈ readOnlyNames := by decide
  simp only [isSystem, isReadOnly, Bool.and_eq_true, Bool.not_eq_true', decide_eq_false_iff_not]
  constructor
  · rintro ⟨system, fixed⟩ inside
    rcases List.mem_cons.mp inside with rfl | there
    · exact fixed keyed
    · exact system there
  · intro outside
    exact ⟨fun there => outside (List.mem_cons_of_mem _ there), fun there => outside (covered name there)⟩

theorem quickListed (h : Heuristics) (fields : List Field) :
    (quickSearch h fields).length ≤ h.searchFieldCap ∧
      (quickSearch h fields).Sublist ((columns fields).map (·.accessorKey)) := by
  constructor
  · simp [quickSearch]
  · have narrower : (fields.filter isSearchable).Sublist (fields.filter fun f => !isSystem f.name) := by
      refine List.monotone_filter_right fields fun f searchable => ?_
      rw [isSearchable, Bool.and_eq_true] at searchable
      exact searchable.1
    rw [columnNames, List.filter_map]
    exact ((List.take_sublist _ _).trans narrower).map _

end Field

theorem propertiesDistinct {schema : Option Value} (once : Document.Once schema) :
    (propertiesOf schema).keys.Nodup := by
  unfold propertiesOf
  cases found : (schema.bind (·.get? "properties")).bind Value.members? with
  | none => exact List.nodup_nil
  | some ms =>
    obtain ⟨table, here, members⟩ := Option.bind_eq_some_iff.mp found
    exact (Value.onceMembers (once.bind (fun _ there => .get there _) table here) members).1

namespace Entity
variable {doc : Document} {n : Entity}

theorem onceRecordOf (root : doc.root.NamesOnce) (e : Option Endpoint) : Document.Once (e.bind (recordOf doc)) := by
  cases e with
  | none => exact .nothing
  | some e => exact (Document.Once.descend root _).bind fun _ here => Document.onceRecord root here

variable (root : doc.root.NamesOnce) (extracted : n ∈ doc.entities)
include root extracted

theorem onceEndpoint {e : Endpoint} (listed : e ∈ n.endpoints) : e.operation.NamesOnce := by
  rw [(Document.entitiesMem.mp extracted).1] at listed
  exact Document.onceListed root (Document.entityMem.mp listed).1

theorem onceCreateRequest : Document.Once (n.createRequest doc) := by
  rw [createRequest]
  cases create : n.createEndpoint with
  | none => exact .nothing
  | some e =>
    have listed : e ∈ n.endpoints := List.mem_of_mem_filter (List.mem_of_find?_eq_some create)
    exact Document.onceRequest root (onceEndpoint root extracted listed)

theorem onceSearchSchema : Document.Once n.searchSchema := by
  intro schema found
  have whole := (Document.entitiesMem.mp extracted).1
  rw [whole] at found
  obtain ⟨e, listed, answer⟩ := List.exists_of_findSome?_eq_some found
  split at answer
  · exact Document.onceSearch root (onceEndpoint root extracted (whole ▸ listed)) schema answer
  · contradiction

end Entity

def TabRole.id : TabRole → String
  | .list => "list"
  | .relatedList => "related-list"
  | .analyze => "analyze"

theorem Pattern.tabRoles (p : Pattern) (analyze : Bool) : ∀ t ∈ p.tabs analyze, t.id = t.role.id := by
  cases p <;> cases analyze <;> decide

theorem Pattern.tabsList (p : Pattern) (analyze : Bool) : ∃ t ∈ p.tabs analyze, t.id = "list" := by
  cases p <;> cases analyze <;> decide

def TabLayout.masterColumns : TabLayout → List Column
  | .masterDetail master _ _ _ => master
  | .single columns _ => columns

namespace Blueprint

structure Shows (b : Blueprint) (t : Tab) : Prop where
  list : t.id = "list" → ∃ columns hook, t.layout = .single columns hook ∧
    Selects b.doc (b.entity.masterSchema b.doc) Field.systemNames (columns.map (·.accessorKey))
  related : t.id = "related-list" → ∃ master detail hook other, t.layout = .masterDetail master detail hook other ∧
    Selects b.doc (b.entity.masterSchema b.doc) Field.systemNames (master.map (·.accessorKey)) ∧
    Selects b.doc (b.entity.detailSchema b.doc) Field.systemNames (detail.map (·.accessorKey))
  slot : t.id ≠ "analyze" → Selects b.doc b.entity.searchSchema Field.systemNames (t.searchSlot.map (·.name))
  analyze : t.id = "analyze" → (∃ hook, t.layout = .single [] hook) ∧ t.searchSlot = []
  bounded : t.searchFields.length ≤ b.heuristics.searchFieldCap
  ordered : t.searchFields.Sublist (t.layout.masterColumns.map (·.accessorKey))
  once : t.searchFields.Nodup

structure Selected (b : Blueprint) (m : Module) : Prop where
  listed : ∃ t ∈ m.tabs, t.id = "list"
  tabs : ∀ t ∈ m.tabs, b.Shows t
  form : ∀ a ∈ m.actions,
    Selects b.doc (b.entity.createRequest b.doc) ("id" :: Field.systemNames) (a.formFields.map (·.name))

variable {b : Blueprint}

theorem columnsSelected {schema : Option Value} (once : Document.Once schema) :
    Selects b.doc schema Field.systemNames
      ((Field.columns (Entity.fieldsOf b.doc schema)).map (·.accessorKey)) := by
  rw [Field.columnNames]
  exact Field.selects (propertiesDistinct once) Field.notSystem

theorem slotSelected {schema : Option Value} (once : Document.Once schema) :
    Selects b.doc schema Field.systemNames ((Field.searchSlot (Entity.fieldsOf b.doc schema)).map (·.name)) := by
  rw [Field.slotNames]
  exact Field.selects (propertiesDistinct once) Field.notSystem

theorem tabShows (root : b.doc.root.NamesOnce) (extracted : b.entity ∈ b.doc.entities) {t : TabTemplate}
    (named : t.id = t.role.id) : b.Shows (b.tab t) := by
  have master := columnsSelected (b := b) (Entity.onceRecordOf root b.entity.masterEndpoint)
  have detail := columnsSelected (b := b) (Entity.onceRecordOf root b.entity.detailEndpoint)
  have slot := slotSelected (b := b) (Entity.onceSearchSchema root extracted)
  obtain ⟨bounded, ordered⟩ := Field.quickListed b.heuristics b.masterFields
  have once := master.once.sublist ordered
  obtain ⟨role, id, _, _, _, _⟩ := t
  obtain rfl : id = role.id := named
  cases role with
  | list =>
    have others : "list" ≠ "related-list" ∧ "list" ≠ "analyze" := by decide
    exact ⟨fun _ => ⟨_, _, rfl, master⟩, fun same => absurd same others.1, fun _ => slot,
      fun same => absurd same others.2, bounded, ordered, once⟩
  | relatedList =>
    have others : "related-list" ≠ "list" ∧ "related-list" ≠ "analyze" := by decide
    exact ⟨fun same => absurd same others.1, fun _ => ⟨_, _, _, _, rfl, master, detail⟩, fun _ => slot,
      fun same => absurd same others.2, bounded, ordered, once⟩
  | analyze =>
    have others : "analyze" ≠ "list" ∧ "analyze" ≠ "related-list" := by decide
    exact ⟨fun same => absurd same others.1, fun same => absurd same others.2, fun differs => absurd rfl differs,
      fun _ => ⟨⟨_, rfl⟩, rfl⟩, Nat.zero_le _, List.nil_sublist _, List.nodup_nil⟩

theorem formSelected (root : b.doc.root.NamesOnce) (extracted : b.entity ∈ b.doc.entities) {a : Action}
    (made : b.createAction = some a) :
    Selects b.doc (b.entity.createRequest b.doc) ("id" :: Field.systemNames) (a.formFields.map (·.name)) := by
  have distinct := propertiesDistinct (Entity.onceCreateRequest root extracted)
  unfold createAction at made
  split at made
  · contradiction
  · obtain ⟨e, create, rfl⟩ := Option.map_eq_some_iff.mp made
    have request : b.entity.createRequest b.doc = b.doc.requestSchema e.operation := by
      rw [Entity.createRequest, create, Option.bind_some]
    rw [request] at distinct ⊢
    rw [Field.formNames]
    exact Field.selects distinct Field.notFilled

theorem selected (root : b.doc.root.NamesOnce) (extracted : b.entity ∈ b.doc.entities) : b.Selected b.build where
  listed := by
    obtain ⟨t, inside, named⟩ := b.pattern.tabsList b.heuristics.analyzeTab
    exact ⟨b.tab t, List.mem_map_of_mem inside, named⟩
  tabs t inside := by
    obtain ⟨template, listed, rfl⟩ := List.mem_map.mp inside
    exact tabShows root extracted (b.pattern.tabRoles _ template listed)
  form a inside := formSelected root extracted (Option.mem_toList.mp inside)

theorem propertiesSelected (b : Blueprint) (root : b.doc.root.NamesOnce) (extracted : b.entity ∈ b.doc.entities) :
    b.Selected b.build := selected root extracted

theorem readSelected {text origin : String} (read : Document.parse text origin = .ok b.doc)
    (extracted : b.entity ∈ b.doc.entities) : b.Selected b.build := selected (Document.readOnce read) extracted

def itemScreens : Blueprint :=
  let text : Value := .object [("type", .string "string")]
  let record (properties : Members) : Value := .object [("properties", .object properties)]
  let content (schema : Value) : Value :=
    .object [("content", .object [("application/json", .object [("schema", schema)])])]
  let answering (schema : Value) : String × Value := ("responses", .object [("200", content schema)])
  let search : Value := .object [("name", .string "searchRequest"),
    ("schema", record [("name", text), ("page", .object [("type", .string "integer")])])]
  let listing := record [("id", text), ("lost", Document.component "Lost"), ("code", text), ("createdAt", text),
    ("maker", Document.component "Maker")]
  let form := record [("id", text), ("code", text), ("version", text),
    ("parts", .object [("type", .string "array")])]
  let doc : Document := ⟨.object
    [("components", .object [("schemas", .object [("Maker", text)])]),
     ("paths", .object
      [("/item/master", .object [("get", .object [("parameters", .array [search]), answering listing])]),
       ("/item/detail", .object [("get", .object [answering (record [("size", text), ("note", text)])])]),
       ("/item", .object [("post", .object [("requestBody", content form)])])])]⟩
  ⟨doc, { analyzeTab := true, searchFieldCap := 2 }, "shop", doc.entity "item"⟩

theorem itemPropertiesSelected :
    itemScreens.doc.root.NamesOnce ∧ itemScreens.entity ∈ itemScreens.doc.entities ∧
      itemScreens.Selected itemScreens.build ∧
      itemScreens.build.tabs.map (fun t => (t.id, t.layout.masterColumns.map (·.accessorKey),
          t.searchSlot.map (·.name), t.searchFields)) =
        [("related-list", ["id", "code", "maker"], ["name"], ["id", "code"]),
         ("list", ["id", "code", "maker"], ["name"], ["id", "code"]), ("analyze", [], [], [])] ∧
      itemScreens.build.actions.map (·.formFields.map (·.name)) = [["code", "parts"]] := by
  have root : itemScreens.doc.root.NamesOnce :=
    ⟨12, Value.readFits (.ofValue itemScreens.doc.root) (by decide +kernel)⟩
  have extracted : itemScreens.entity ∈ itemScreens.doc.entities := by decide +kernel
  exact ⟨root, extracted, propertiesSelected itemScreens root extracted, by decide +kernel, by decide +kernel⟩

end Blueprint
end ApiScreens
