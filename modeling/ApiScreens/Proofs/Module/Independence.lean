import ApiScreens.Module.Build
import ApiScreens.Proofs.Document.References
import ApiScreens.Proofs.Entity

/-! A module depends on its own resource. What else a description has paths for, and in which order, changes
neither the entity of a resource nor the screens that are built for it. -/
namespace ApiScreens
open Json (Value Members)

namespace Document

def itemsOf (doc : Document) (name : String) : Members :=
  doc.paths.filter fun p => Endpoint.resourceOf p.1 = some name

/-- The descriptions differ at most in the paths of other resources, and one of them refers to no path. -/
structure Agree (d e : Document) (name : String) : Prop extends Outside d e where
  items : d.itemsOf name = e.itemsOf name

theorem itemResource {path name : String} (item : Value) :
    (itemEndpoints path item).filter (·.resource = some name) =
      if Endpoint.resourceOf path = some name then itemEndpoints path item else [] := by
  have own : ∀ x ∈ itemEndpoints path item, x.resource = Endpoint.resourceOf path := fun x inside =>
    congrArg Endpoint.resourceOf (itemMem.mp inside).1
  split
  · rename_i named
    exact List.filter_eq_self.mpr fun x inside => by simpa [own x inside] using named
  · rename_i other
    exact List.filter_eq_nil_iff.mpr fun x inside => by simpa [own x inside] using other

theorem endpointsOf (doc : Document) (name : String) :
    doc.endpoints.filter (·.resource = some name) =
      (doc.itemsOf name).flatMap fun (path, item) => itemEndpoints path item := by
  rw [endpoints, itemsOf, List.filter_flatMap]
  induction doc.paths with
  | nil => rfl
  | cons p rest ih =>
    rw [List.flatMap_cons, ih, itemResource, List.filter_cons]
    by_cases named : Endpoint.resourceOf p.1 = some name <;> simp [named]

theorem operationPaths (doc : Document) (path method : String) :
    doc.operation path method = (doc.paths.get? path).bind (·.get? method) := by
  unfold operation paths
  simp only [descend]
  cases doc.root.get? "paths" with
  | none => rfl
  | some table =>
    have stops : ∀ v : Option Value, (v.bind fun w => some w) = v := fun v => by cases v <;> rfl
    cases table <;> simp [Value.get?, Value.members?, Members.get?, stops]

theorem getFilter (ms : Members) (keep : String → Bool) {key : String} (kept : keep key = true) :
    Members.get? (ms.filter fun m => keep m.1) key = ms.get? key := by
  induction ms with
  | nil => rfl
  | cons m rest ih =>
    obtain ⟨name, w⟩ := m
    rw [List.filter_cons, Members.getCons]
    by_cases same : name = key
    · subst same
      simp [kept, Members.getCons]
    · cases keep name <;> simp [Members.getCons, same, ih]

theorem operationOf (doc : Document) {path name : String} (named : Endpoint.resourceOf path = some name)
    (method : String) : doc.operation path method = ((doc.itemsOf name).get? path).bind (·.get? method) := by
  have found : (doc.itemsOf name).get? path = doc.paths.get? path :=
    getFilter doc.paths (fun p => Endpoint.resourceOf p = some name) (by simpa using named)
  rw [operationPaths, found]

end Document

theorem findSomeCongr {α β : Type} {f g : α → Option β} {l : List α} (same : ∀ x ∈ l, f x = g x) :
    l.findSome? f = l.findSome? g := by
  induction l with
  | nil => rfl
  | cons x rest ih =>
    obtain ⟨here, later⟩ := List.forall_mem_cons.mp same
    rw [List.findSome?_cons, List.findSome?_cons, here, ih later]

namespace Entity

theorem ofEndpointsSame {d e : Document} {name : String} {xs : List Endpoint}
    (search : ∀ x ∈ xs, x.searchSchema d = x.searchSchema e) : ofEndpoints d name xs = ofEndpoints e name xs := by
  unfold ofEndpoints
  refine congrArg (Entity.mk _ _ _ _) (findSomeCongr fun x listed => ?_)
  rw [search x listed]

theorem hintedMem {n : Entity} {hints : List String} {meets : String → String → Bool}
    {admissible : String → Bool} {x : Endpoint} (found : n.byHints hints meets admissible = some x) :
    x ∈ n.endpoints := by
  obtain ⟨hint, _, here⟩ := List.exists_of_findSome?_eq_some found
  exact List.mem_of_mem_filter (List.mem_of_find?_eq_some here)

theorem createMem {n : Entity} {x : Endpoint} (found : n.createEndpoint = some x) : x ∈ n.endpoints :=
  List.mem_of_mem_filter (List.mem_of_find?_eq_some found)

end Entity

namespace Document.Agree
open Document
variable {d e : Document} {name : String} (agree : d.Agree e name)
include agree

theorem endpoints : (d.entity name).endpoints = (e.entity name).endpoints := by
  simp only [entity, Entity.ofEndpoints, endpointsOf, agree.items]

theorem pathsPathless {p : String × Value} (listed : p ∈ d.paths) : p.2.Pathless := by
  unfold paths at listed
  cases root : (d.root.get? "paths").bind Value.members? with
  | none => simp [root] at listed
  | some ms =>
    obtain ⟨table, found, members⟩ := Option.bind_eq_some_iff.mp root
    rw [root] at listed
    exact Value.pathlessMember (Value.pathlessGet agree.pathless found) members listed

theorem operationPathless {x : Endpoint} (inside : x ∈ (d.entity name).endpoints) : x.operation.Pathless := by
  obtain ⟨item, listed, found⟩ := (entityMem.mp inside).1
  exact Value.pathlessGet (agree.pathsPathless listed) found

theorem searchSchema {x : Endpoint} (inside : x ∈ (d.entity name).endpoints) :
    Shared (x.searchSchema d) (x.searchSchema e) := by
  unfold Endpoint.searchSchema
  cases parameters : (x.operation.get? "parameters").bind Value.items? with
  | none => exact .nothing
  | some ps =>
    obtain ⟨list, found, items⟩ := Option.bind_eq_some_iff.mp parameters
    have each : ∀ p ∈ ps, p.Pathless := fun p listed =>
      Value.pathlessItem (Value.pathlessGet (agree.operationPathless inside) found) items listed
    simp only [Option.bind_eq_bind, Option.bind_some]
    have first (test : Value → Bool) : Shared (ps.find? test) (ps.find? test) :=
      ⟨rfl, fun p here => each p (List.mem_of_find?_eq_some here)⟩
    refine Shared.bind (first _) fun parameter pathless => ?_
    exact (Shared.get pathless "schema").bind fun _ within => agree.resolveSchema within

theorem entity : d.entity name = e.entity name := by
  have listed : d.endpoints.filter (·.resource = some name) = e.endpoints.filter (·.resource = some name) :=
    agree.endpoints
  have search : ∀ x ∈ (d.entity name).endpoints, x.searchSchema d = x.searchSchema e := fun x inside =>
    (agree.searchSchema inside).same
  have whole (doc : Document) :
      doc.entity name = .ofEndpoints doc name (doc.endpoints.filter (·.resource = some name)) := rfl
  rw [whole d, whole e, ← listed]
  exact Entity.ofEndpointsSame search

theorem record {x : Endpoint} (inside : x ∈ (d.entity name).endpoints) :
    Shared (Entity.recordOf d x) (Entity.recordOf e x) := by
  have named := Endpoint.resourceExactly.mpr (entityMem.mp inside).2
  have same : d.operation x.path x.method.key = e.operation x.path x.method.key := by
    rw [operationOf d named, operationOf e named, agree.items]
  have operation : Shared (d.operation x.path x.method.key) (e.operation x.path x.method.key) := by
    refine ⟨same, fun o found => ?_⟩
    rw [operationPaths] at found
    obtain ⟨item, listed, here⟩ := Option.bind_eq_some_iff.mp found
    exact Value.pathlessGet (agree.pathsPathless (Members.memberGet listed)) here
  exact operation.bind fun _ pathless => agree.recordSchema pathless

theorem schemaFields {schema : Value} (pathless : schema.Pathless) :
    Field.ofSchema d schema = Field.ofSchema e schema := by
  unfold Field.ofSchema
  cases properties : (schema.get? "properties").bind Value.members? with
  | none => rw [Option.getD_none, List.filterMap_nil, List.filterMap_nil]
  | some ms =>
    obtain ⟨table, found, members⟩ := Option.bind_eq_some_iff.mp properties
    refine List.filterMap_congr fun ⟨key, property⟩ listed => ?_
    have inner : property.Pathless := Value.pathlessMember (Value.pathlessGet pathless found) members listed
    dsimp only
    rw [(agree.resolveSchema inner).same]

theorem fields {x y : Option Value} (shared : Shared x y) : Entity.fieldsOf d x = Entity.fieldsOf e y := by
  cases shared.same
  cases x with
  | none => simp only [Entity.fieldsOf, Option.map_none]
  | some schema => simp only [Entity.fieldsOf, Option.map_some, agree.schemaFields (shared.pathless schema rfl)]

theorem masterFields : Entity.fieldsOf d ((d.entity name).masterSchema d) =
    Entity.fieldsOf e ((d.entity name).masterSchema e) := by
  refine agree.fields ?_
  unfold Entity.masterSchema
  cases found : (d.entity name).masterEndpoint with
  | none => exact .nothing
  | some x => exact agree.record (Entity.hintedMem found)

theorem detailFields : Entity.fieldsOf d ((d.entity name).detailSchema d) =
    Entity.fieldsOf e ((d.entity name).detailSchema e) := by
  refine agree.fields ?_
  unfold Entity.detailSchema
  cases found : (d.entity name).detailEndpoint with
  | none => exact .nothing
  | some x => exact agree.record (Entity.hintedMem found)

theorem request {x : Endpoint} (inside : x ∈ (d.entity name).endpoints) :
    Shared (d.requestSchema x.operation) (e.requestSchema x.operation) :=
  agree.requestSchema (agree.operationPathless inside)

theorem complex (h : Heuristics) : createsComplex d h (d.entity name) = createsComplex e h (d.entity name) := by
  unfold createsComplex
  cases create : (d.entity name).createEndpoint with
  | none => simp only [Option.bind_none]
  | some x => simp only [Option.bind_some, (agree.request (Entity.createMem create)).same]

theorem searchPathless : ∀ v, (d.entity name).searchSchema = some v → v.Pathless := by
  intro v found
  obtain ⟨x, listed, here⟩ := List.exists_of_findSome?_eq_some found
  split at here
  · exact (agree.searchSchema listed).pathless v here
  · contradiction

end Document.Agree

namespace Blueprint

structure Alike (b c : Blueprint) : Prop where
  heuristics : b.heuristics = c.heuristics
  solution : b.solution = c.solution
  entity : b.entity = c.entity
  pattern : b.pattern = c.pattern
  master : b.masterFields = c.masterFields
  detail : b.detailFields = c.detailFields
  search : b.searchFields = c.searchFields
  create : ∀ x, b.entity.createEndpoint = some x →
    Entity.fieldsOf b.doc (b.doc.requestSchema x.operation) = Entity.fieldsOf c.doc (c.doc.requestSchema x.operation)

namespace Alike
variable {b c : Blueprint} (alike : b.Alike c)
include alike

theorem layout (role : TabRole) : b.layout role = c.layout role := by
  cases role <;> simp only [Blueprint.layout, alike.master, alike.detail, alike.entity]

theorem tab (t : TabTemplate) : b.tab t = c.tab t := by
  simp only [Blueprint.tab, route, pageBase, title, alike.layout, alike.heuristics, alike.solution, alike.entity,
    alike.master, alike.search]

theorem createAction : b.createAction = c.createAction := by
  unfold Blueprint.createAction
  rw [alike.pattern, ← alike.entity]
  cases create : b.entity.createEndpoint with
  | none => simp only [Option.map_none]
  | some x =>
    simp only [Option.map_some, alike.create x create, pageBase, title, route, alike.heuristics, alike.solution,
      alike.entity]

theorem build : b.build = c.build := by
  simp only [Blueprint.build, funext alike.tab, alike.createAction, alike.pattern, title, route, pageKind, menu,
    landing, alike.heuristics, alike.solution, alike.entity]

end Alike
end Blueprint

namespace Document

theorem entityListed {doc : Document} {name : String} :
    doc.entity name ∈ doc.entities ↔ (doc.entity name).endpoints ≠ [] := by
  have named : (doc.entity name).name = name := rfl
  rw [entitiesMem, named]
  constructor
  · rintro ⟨_, x, there, first⟩
    exact List.ne_nil_of_mem (entityMem.mpr ⟨endpointsExactly.mp there, first⟩)
  · intro inhabited
    obtain ⟨x, inside⟩ := List.exists_mem_of_ne_nil _ inhabited
    exact ⟨rfl, x, endpointsExactly.mpr (entityMem.mp inside).1, (entityMem.mp inside).2⟩

theorem entitiesNamed (doc : Document) (name : String) :
    doc.entities.filter (·.name = name) =
      if (doc.entity name).endpoints = [] then [] else [doc.entity name] := by
  have distinct : (doc.entities.map (·.name)).Nodup := entityNames doc ▸ resourcesNodup doc
  split
  · rename_i empty
    refine List.filter_eq_nil_iff.mpr fun n inside same => ?_
    have named : n.name = name := by simpa using same
    have whole : n = doc.entity name := named ▸ (entitiesMem.mp inside).1
    exact entityListed.mp (whole ▸ inside) empty
  · rename_i inhabited
    exact filterOne (·.name) distinct (entityListed.mpr inhabited)

theorem agreeAlike {d e : Document} {name : String} (agree : d.Agree e name) (h : Heuristics)
    (solution : String) :
    (Blueprint.mk d h solution (d.entity name)).Alike (Blueprint.mk e h solution (d.entity name)) where
  heuristics := rfl
  solution := rfl
  entity := rfl
  pattern := by simp only [Blueprint.pattern, Pattern.of, agree.complex]
  master := agree.masterFields
  detail := agree.detailFields
  search := agree.fields ⟨rfl, agree.searchPathless⟩
  create x create := agree.fields (agree.request (Entity.createMem create))

theorem resourcesApart {d e : Document} {name : String} (agree : d.Agree e name) :
    d.entities.filter (·.name = name) = e.entities.filter (·.name = name) ∧
      ∀ n ∈ d.entities, n.name = name → ∀ (h : Heuristics) (solution : String),
        (Blueprint.mk d h solution n).build = (Blueprint.mk e h solution n).build := by
  constructor
  · rw [entitiesNamed, entitiesNamed, agree.entity]
  · rintro n inside rfl h solution
    rw [(entitiesMem.mp inside).1]
    exact (agreeAlike agree h solution).build

def besideOthers (before after : Members) : Document :=
  let record : Value := .object [("properties", .object [("code", .object [("type", .string "string")])])]
  let answer : Value := .object [("200", .object [("content", .object [("application/json",
    .object [("schema", .object [("$ref", .string "#/components/schemas/Order")])])])])]
  ⟨.object
    [("components", .object [("schemas", .object [("Order", record)])]),
     ("paths", .object (before ++ [("/order/list", .object [("get", .object [("responses", answer)])])] ++ after))]⟩

def users : Members := [("/user/order", .object [("get", .null)])]

def vendors : Members := [("//vendor/detail", .object [("post", .null)])]

theorem ordersApart :
    (besideOthers users []).Agree (besideOthers vendors users) "order" ∧
      (besideOthers users []).entities.map (·.name) = ["order", "user"] ∧
      (besideOthers vendors users).entities.map (·.name) = ["order", "user", "vendor"] ∧
      (Blueprint.mk (besideOthers users []) {} "sales" ((besideOthers users []).entity "order")).build =
        (Blueprint.mk (besideOthers vendors users) {} "sales" ((besideOthers users []).entity "order")).build := by
  have agree : (besideOthers users []).Agree (besideOthers vendors users) "order" :=
    { same := fun key other => by
        simp only [besideOthers, Value.get?, Members.getCons, if_neg (Ne.symm other)]
      pathless := by decide
      items := by decide }
  have inside : (besideOthers users []).entity "order" ∈ (besideOthers users []).entities := by decide
  exact ⟨agree, by decide, by decide, (resourcesApart agree).2 _ inside rfl {} "sales"⟩

end Document
end ApiScreens
