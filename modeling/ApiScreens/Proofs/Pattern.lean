import ApiScreens.Pattern
import ApiScreens.Proofs.Entity

/-! The pattern of an entity in terms of its description. Which screens an entity gets depends on three facts
about the operations whose paths name it first: whether one of them is a detail, which one creates, and
whether one updates. -/
namespace ApiScreens
open Endpoint
open Json (Value Members)

/-- A schema that a dialog has no room for: with many properties, or with one that is nested or long. -/
inductive Complex (h : Heuristics) (schema : Value) : Prop where
  | many {properties : Members} (fields : schema.get? "properties" = some (.object properties))
      (count : h.complexFieldCount ≤ properties.length)
  | nested {properties : Members} {p : String × Value} {kind : String}
      (fields : schema.get? "properties" = some (.object properties)) (inside : p ∈ properties)
      (typed : p.2.get? "type" = some (.string kind)) (structured : kind = "array" ∨ kind = "object")
  | long {properties : Members} {p : String × Value} {limit : Nat}
      (fields : schema.get? "properties" = some (.object properties)) (inside : p ∈ properties)
      (limited : (p.2.get? "maxLength").bind Value.natural? = some limit) (beyond : h.longTextMaxLength < limit)

theorem kindText {v : Option Value} {kind : String} :
    v.bind Value.string? = some kind ↔ v = some (.string kind) := by
  cases v with
  | none => simp
  | some w => cases w <;> simp [Value.string?]

theorem propertyExactly {h : Heuristics} {property : Value} :
    isComplexProperty h property = true ↔
      (∃ kind, property.get? "type" = some (.string kind) ∧ (kind = "array" ∨ kind = "object")) ∨
        ∃ limit, (property.get? "maxLength").bind Value.natural? = some limit ∧ h.longTextMaxLength < limit := by
  have nested : (∃ kind, property.get? "type" = some (.string kind) ∧ (kind = "array" ∨ kind = "object")) ↔
      (property.get? "type").bind Value.string? = some "array" ∨
        (property.get? "type").bind Value.string? = some "object" := by
    rw [kindText, kindText]
    constructor
    · rintro ⟨_, typed, rfl | rfl⟩
      · exact .inl typed
      · exact .inr typed
    · rintro (typed | typed)
      · exact ⟨_, typed, .inl rfl⟩
      · exact ⟨_, typed, .inr rfl⟩
  rw [nested]
  unfold isComplexProperty
  cases (property.get? "maxLength").bind Value.natural? <;> simp

theorem complexExactly {h : Heuristics} {schema : Value} : isComplexSchema h schema = true ↔ Complex h schema := by
  have members {v : Option Value} {ms : Members} : v.bind Value.members? = some ms ↔ v = some (.object ms) := by
    cases v with
    | none => simp
    | some w => cases w <;> simp [Value.members?]
  unfold isComplexSchema
  constructor
  · intro complex
    split at complex
    · contradiction
    · rename_i properties found
      have fields := members.mp found
      rcases Bool.or_eq_true_iff.mp complex with count | some
      · exact .many fields (by simpa using count)
      · obtain ⟨p, inside, property⟩ := List.any_eq_true.mp some
        rcases propertyExactly.mp property with ⟨kind, typed, structured⟩ | ⟨limit, limited, beyond⟩
        · exact .nested fields inside typed structured
        · exact .long fields inside limited beyond
  · intro complex
    cases complex with
    | many fields count => simp [members.mpr fields, count]
    | nested fields inside typed structured =>
      have property := (propertyExactly (h := h)).mpr (.inl ⟨_, typed, structured⟩)
      rw [members.mpr fields]
      exact Bool.or_eq_true_iff.mpr (.inr (List.any_eq_true.mpr ⟨_, inside, property⟩))
    | long fields inside limited beyond =>
      have property := propertyExactly.mpr (.inr ⟨_, limited, beyond⟩)
      rw [members.mpr fields]
      exact Bool.or_eq_true_iff.mpr (.inr (List.any_eq_true.mpr ⟨_, inside, property⟩))

theorem patternCases (doc : Document) (h : Heuristics) (n : Entity) :
    Pattern.of doc h n =
      if n.hasDetail then if createsComplex doc h n then .masterDetailFull else .masterDetailSimple
      else if n.writable then .singleWithRegister
      else .singleOnly := by
  have writes (complex : createsComplex doc h n = true) : n.writable = true := by
    cases create : n.createEndpoint with
    | none => simp [createsComplex, create] at complex
    | some e => simp [Entity.writable, Entity.hasCreate, create]
  unfold Pattern.of
  cases complex : createsComplex doc h n with
  | true => rw [writes complex, Bool.true_and]
  | false => rw [Bool.and_false]

namespace Document

def Serves (doc : Document) (name : String) (e : Endpoint) : Prop := doc.Has e ∧ FirstSegment e.path name

def Details (doc : Document) (name : String) : Prop :=
  ∃ e, doc.Serves name e ∧ "/detail".toList <:+: e.path.toList

def Updates (doc : Document) (name : String) : Prop := ∃ e, doc.Serves name e ∧ e.method = .put

structure Creates (name : String) (e : Endpoint) : Prop where
  named : FirstSegment e.path name
  method : e.method = .post
  path : "/master".toList <:+: e.path.toList ∨ e.path = "/" ++ name

def FirstCreate (doc : Document) (name : String) (e : Endpoint) : Prop :=
  ∃ before after, doc.endpoints = before ++ e :: after ∧ Creates name e ∧ ∀ x ∈ before, ¬Creates name x

def CreatesComplex (doc : Document) (h : Heuristics) (name : String) : Prop :=
  ∃ e schema, doc.FirstCreate name e ∧ doc.requestSchema e.operation = some schema ∧ Complex h schema

variable {doc : Document} {name : String}

instance (name : String) (e : Endpoint) : Decidable (Creates name e) :=
  decidable_of_iff (FirstSegment e.path name ∧ e.method = .post ∧
      ("/master".toList <:+: e.path.toList ∨ e.path = "/" ++ name))
    ⟨fun ⟨named, method, path⟩ => ⟨named, method, path⟩, fun ⟨named, method, path⟩ => ⟨named, method, path⟩⟩

theorem createSearch (doc : Document) (name : String) :
    (doc.entity name).createEndpoint = doc.endpoints.find? fun e => Creates name e := by
  have listed : (doc.entity name).endpoints = doc.endpoints.filter (·.resource = some name) := rfl
  have own : (doc.entity name).ownPath = "/" ++ name := rfl
  rw [Entity.createEndpoint, Entity.having, listed, List.find?_filter, List.find?_filter]
  refine List.find?_congr fun e _ => ?_
  have spelled : Creates name e ↔ e.resource = some name ∧ e.method = .post ∧
      (Text.has e.path "/master" = true ∨ e.path = "/" ++ name) := by
    rw [Endpoint.resource, resourceExactly, Text.hasExactly]
    exact ⟨fun ⟨named, method, path⟩ => ⟨named, method, path⟩,
      fun ⟨named, method, path⟩ => ⟨named, method, path⟩⟩
  rw [Bool.eq_iff_iff, decide_eq_true_eq (p := Creates name e), spelled]
  simp only [decide_eq_true_eq, Bool.or_eq_true]
  rw [own]

theorem createExactly {e : Endpoint} : (doc.entity name).createEndpoint = some e ↔ doc.FirstCreate name e := by
  rw [createSearch, List.find?_eq_some_iff_append]
  simp only [decide_eq_true_eq, Bool.not_eq_true', decide_eq_false_iff_not]
  constructor
  · rintro ⟨creates, before, after, shape, earlier⟩
    exact ⟨before, after, shape, creates, earlier⟩
  · rintro ⟨before, after, shape, creates, earlier⟩
    exact ⟨creates, before, after, shape, earlier⟩

theorem hasCreateExactly : (doc.entity name).hasCreate = true ↔ ∃ e, doc.FirstCreate name e := by
  rw [Entity.hasCreate, Option.isSome_iff_exists]
  exact exists_congr fun _ => createExactly

theorem ownPathInside {path : String} (first : FirstSegment path name) (rooted : path.toList.head? = some '/') :
    ("/" ++ name).toList <:+: path.toList := by
  obtain ⟨segment, slashes, rest, shape, _⟩ := first
  rw [String.toList_append, shape]
  cases slashes with
  | zero =>
    -- without a slash in front the name would begin with one
    obtain ⟨c, more, begins⟩ := List.exists_cons_of_ne_nil (mt String.toList_eq_nil_iff.mp segment.nonempty)
    have slash : c = '/' := by simpa [shape, begins] using rooted
    exact absurd (slash ▸ begins ▸ List.mem_cons_self) segment.whole
  | succ n => exact ⟨List.replicate n '/', rest, by simp [List.replicate_succ']⟩

theorem hasUpdateExactly (rooted : ∀ path ∈ Members.keys doc.paths, path.toList.head? = some '/') :
    (doc.entity name).hasUpdate = true ↔ doc.Updates name := by
  unfold Entity.hasUpdate Entity.having
  simp only [List.any_filter, List.any_eq_true, Bool.and_eq_true, Bool.or_eq_true, decide_eq_true_eq,
    Text.hasExactly]
  constructor
  · rintro ⟨e, inside, put, _⟩
    exact ⟨e, entityMem.mp inside, put⟩
  · rintro ⟨e, serves, put⟩
    obtain ⟨item, listed, _⟩ := serves.1
    have own := ownPathInside serves.2 (rooted e.path (List.mem_map.mpr ⟨_, listed, rfl⟩))
    exact ⟨e, entityMem.mpr serves, put, .inr own⟩

theorem hasDetailExactly : (doc.entity name).hasDetail = true ↔ doc.Details name := by
  rw [entityDetail]
  constructor
  · rintro ⟨e, inside, detail⟩
    exact ⟨e, entityMem.mp inside, detail⟩
  · rintro ⟨e, serves, detail⟩
    exact ⟨e, entityMem.mpr serves, detail⟩

theorem createsComplexExactly {h : Heuristics} :
    createsComplex doc h (doc.entity name) = true ↔ doc.CreatesComplex h name := by
  unfold createsComplex CreatesComplex
  constructor
  · intro complex
    split at complex
    · rename_i schema found
      obtain ⟨e, create, resolved⟩ := Option.bind_eq_some_iff.mp found
      exact ⟨e, schema, createExactly.mp create, resolved, complexExactly.mp complex⟩
    · contradiction
  · rintro ⟨e, schema, create, resolved, complex⟩
    rw [createExactly.mpr create, Option.bind_some, resolved]
    exact complexExactly.mpr complex

theorem patternExactly (doc : Document) (h : Heuristics)
    (rooted : ∀ path ∈ Members.keys doc.paths, path.toList.head? = some '/') {n : Entity}
    (inside : n ∈ doc.entities) :
    let created := ∃ e, doc.FirstCreate n.name e
    (Pattern.of doc h n = .masterDetailFull ↔ doc.Details n.name ∧ doc.CreatesComplex h n.name) ∧
      (Pattern.of doc h n = .masterDetailSimple ↔ doc.Details n.name ∧ ¬doc.CreatesComplex h n.name) ∧
      (Pattern.of doc h n = .singleWithRegister ↔ ¬doc.Details n.name ∧ (created ∨ doc.Updates n.name)) ∧
      (Pattern.of doc h n = .singleOnly ↔ ¬doc.Details n.name ∧ ¬created ∧ ¬doc.Updates n.name) := by
  intro created
  obtain ⟨whole, _⟩ := entitiesMem.mp inside
  have detail : n.hasDetail = true ↔ doc.Details n.name := by
    rw [whole]
    exact hasDetailExactly
  have create : n.hasCreate = true ↔ created := by
    rw [whole]
    exact hasCreateExactly
  have update : n.hasUpdate = true ↔ doc.Updates n.name := by
    rw [whole]
    exact hasUpdateExactly rooted
  have complex : createsComplex doc h n = true ↔ doc.CreatesComplex h n.name := by
    rw [whole]
    exact createsComplexExactly
  have writes : doc.CreatesComplex h n.name → created := fun ⟨e, _, first, _⟩ => ⟨e, first⟩
  rw [← complex, ← create] at writes
  rw [← detail, ← create, ← update, ← complex]
  unfold Pattern.of Entity.writable
  cases large : createsComplex doc h n with
  | true =>
    -- a complex request is one that creates
    have made : n.hasCreate = true := writes large
    cases n.hasDetail <;> simp [made]
  | false => cases n.hasDetail <;> cases n.hasCreate <;> cases n.hasUpdate <;> simp

def nestedOrders : Document :=
  let schema : Value := .object [("properties", .object [("lines", .object [("type", .string "array")])])]
  let body : Value := .object [("content", .object [("application/json", .object [("schema", schema)])])]
  ⟨.object [("paths", .object
    [("/order/search", .object [("post", .null)]),
     ("/order/detail/{id}", .object [("get", .null)]),
     ("/order/master", .object [("post", .object [("requestBody", body)])]),
     ("/order", .object [("post", .null), ("put", .null)])])]⟩

theorem nestedOrdersFull :
    (∀ path ∈ Members.keys nestedOrders.paths, path.toList.head? = some '/') ∧
      nestedOrders.entity "order" ∈ nestedOrders.entities ∧
      nestedOrders.Details "order" ∧ nestedOrders.CreatesComplex {} "order" := by
  have rooted : ∀ path ∈ Members.keys nestedOrders.paths, path.toList.head? = some '/' := by decide
  have inside : nestedOrders.entity "order" ∈ nestedOrders.entities := by decide
  exact ⟨rooted, inside, (patternExactly nestedOrders {} rooted inside).1.mp (by decide)⟩

end Document
end ApiScreens
