import ApiScreens.Proofs.Document.References
import ApiScreens.Proofs.Json.Members
import ApiScreens.Proofs.Pattern

/-! Patterns and the order of paths. What a description refers to, its resources and their operations do not depend on
the order of its paths; which of several operations creates does, so that patterns do where these differ. -/
namespace ApiScreens
open Json (Value Members)

theorem Json.Members.getPerm {ms ns : Members} (permuted : ms.Perm ns) (distinct : ms.keys.Nodup) (key : String) :
    ms.get? key = ns.get? key := by
  have apart : ns.keys.Nodup := (permuted.map _).nodup_iff.mp distinct
  refine Option.ext fun v => ⟨fun found => ?_, fun found => ?_⟩
  · exact memberFound apart (permuted.mem_iff.mp (memberGet found))
  · exact memberFound distinct (permuted.mem_iff.mpr (memberGet found))

namespace Document

def withPaths (doc : Document) (paths : Members) : Document :=
  ⟨doc.root.adjust (fun _ => .object paths) ["paths"]⟩

def complexRequest (doc : Document) (h : Heuristics) (e : Endpoint) : Bool :=
  (doc.requestSchema e.operation).any (isComplexSchema h)

def Alike (v w : Value) : Prop := ∀ key, v.get? key = w.get? key

theorem alikeSame (v : Option Value) : Option.Rel Alike v v := by
  cases v with
  | none => exact .none
  | some v => exact .some fun _ => rfl

theorem alikeBind {x y : Option Value} (alike : Option.Rel Alike x y) {f g : Value → Option Value}
    (each : ∀ v w, Alike v w → Option.Rel Alike (f v) (g w)) : Option.Rel Alike (x.bind f) (y.bind g) := by
  cases alike with
  | none => exact .none
  | some alike => exact each _ _ alike

theorem alikeDescend {v w : Value} (alike : Alike v w) (keys : List String) :
    Option.Rel Alike (descend v keys) (descend w keys) := by
  cases keys with
  | nil => exact .some alike
  | cons key rest =>
    rw [descend, descend, alike key]
    exact alikeSame _

theorem alikeComplex (h : Heuristics) {x y : Option Value} (alike : Option.Rel Alike x y) :
    x.any (isComplexSchema h) = y.any (isComplexSchema h) := by
  cases alike with
  | none => rfl
  | some alike => rw [Option.any_some, Option.any_some, isComplexSchema, alike "properties", isComplexSchema]

variable {doc : Document}

theorem createsFirst {h : Heuristics} {n : Entity} {x : Endpoint} (first : n.createEndpoint = some x) :
    createsComplex doc h n = doc.complexRequest h x := by
  rw [createsComplex, first, Option.bind_some, complexRequest]
  cases doc.requestSchema x.operation <;> rfl

theorem createListed {name : String} {x : Endpoint} (first : (doc.entity name).createEndpoint = some x) :
    x ∈ (doc.entity name).endpoints ∧ Creates name x := by
  rw [createSearch] at first
  have creates : Creates name x := by simpa using List.find?_some first
  exact ⟨entityMem.mpr ⟨endpointsExactly.mp (List.mem_of_find?_eq_some first), creates.named⟩, creates⟩

def CreatesAlike (doc : Document) (h : Heuristics) (name : String) : Prop :=
  ∀ x ∈ (doc.entity name).endpoints, ∀ y ∈ (doc.entity name).endpoints, Creates name x → Creates name y →
    doc.complexRequest h x = doc.complexRequest h y

instance (doc : Document) (h : Heuristics) (name : String) : Decidable (doc.CreatesAlike h name) :=
  inferInstanceAs (Decidable (∀ x ∈ (doc.entity name).endpoints, ∀ y ∈ (doc.entity name).endpoints,
    Creates name x → Creates name y → doc.complexRequest h x = doc.complexRequest h y))

theorem createdComplex {h : Heuristics} {name : String} (alike : doc.CreatesAlike h name) :
    createsComplex doc h (doc.entity name) = true ↔
      ∃ x ∈ (doc.entity name).endpoints, Creates name x ∧ doc.complexRequest h x = true := by
  cases first : (doc.entity name).createEndpoint with
  | none =>
    have idle : createsComplex doc h (doc.entity name) = false := by rw [createsComplex, first, Option.bind_none]
    rw [createSearch] at first
    rw [idle]
    refine iff_of_false Bool.false_ne_true ?_
    rintro ⟨x, inside, creates, _⟩
    have listed := endpointsExactly.mpr (entityMem.mp inside).1
    exact absurd creates (by simpa using List.find?_eq_none.mp first x listed)
  | some y =>
    obtain ⟨there, made⟩ := createListed first
    rw [createsFirst first]
    constructor
    · intro complex
      exact ⟨y, there, made, complex⟩
    · rintro ⟨x, inside, creates, complex⟩
      rw [alike y there x inside made creates, complex]

section
variable {ps qs : Members} (table : doc.root.get? "paths" = some (.object ps))
include table

theorem withPathsTable (qs : Members) : (doc.withPaths qs).root.get? "paths" = some (.object qs) := by
  rw [withPaths, Value.getAdjusted, table]
  rfl

theorem pathsTable : doc.paths = ps := by
  rw [paths, table]
  rfl

section
variable (permuted : ps.Perm qs) (distinct : (Members.keys ps).Nodup)
include permuted

section
include distinct

theorem rootAlike (key : String) : Option.Rel Alike (doc.root.get? key) ((doc.withPaths qs).root.get? key) := by
  by_cases same : key = "paths"
  · rw [same, table, withPathsTable table]
    exact .some (Members.getPerm permuted distinct)
  · rw [withPaths, Value.getElsewhere same]
    exact alikeSame _

theorem resolveRefAlike (r : String) : Option.Rel Alike (doc.resolveRef r) ((doc.withPaths qs).resolveRef r) := by
  unfold resolveRef
  cases keys : referenceKeys r with
  | none => exact .none
  | some path =>
    cases path with
    | nil => exact absurd keys (referenceKeysNonempty r)
    | cons key rest =>
      exact alikeBind (rootAlike table permuted distinct key) fun _ _ alike => alikeDescend alike rest

theorem followAlike (depth : Nat) {v w : Value} (alike : Alike v w) :
    Option.Rel Alike (doc.follow depth v) ((doc.withPaths qs).follow depth w) := by
  induction depth generalizing v w with
  | zero => exact .none
  | succ depth ih =>
    have refers : reference? v = reference? w := by rw [reference?, alike "$ref", reference?]
    unfold follow
    rw [refers]
    cases reference? w with
    | none => exact .some alike
    | some r => exact alikeBind (resolveRefAlike table permuted distinct r) fun _ _ found => ih found

theorem complexRequestAlike (h : Heuristics) (e : Endpoint) :
    (doc.withPaths qs).complexRequest h e = doc.complexRequest h e :=
  (alikeComplex h (alikeBind (alikeSame _) fun _ _ alike => followAlike table permuted distinct refDepth alike)).symm

end

theorem endpointsPerm : doc.endpoints.Perm (doc.withPaths qs).endpoints := by
  rw [endpoints, endpoints, pathsTable table, pathsTable (withPathsTable table qs)]
  exact permuted.flatMap_right _

theorem resourcesSame : (doc.withPaths qs).resources = doc.resources :=
  sortedDistinctExt fun _ => ((endpointsPerm table permuted).filterMap _).mem_iff.symm

theorem entityPerm (name : String) : (doc.entity name).endpoints.Perm ((doc.withPaths qs).entity name).endpoints :=
  (endpointsPerm table permuted).filter _

theorem hasDetailSame (name : String) : ((doc.withPaths qs).entity name).hasDetail = (doc.entity name).hasDetail :=
  (entityPerm table permuted name).any_eq.symm

theorem writableSame (name : String) : ((doc.withPaths qs).entity name).writable = (doc.entity name).writable := by
  have creates : ((doc.withPaths qs).entity name).hasCreate = (doc.entity name).hasCreate := by
    have permutation := endpointsPerm table permuted
    rw [Entity.hasCreate, Entity.hasCreate, createSearch, createSearch, List.isSome_find?, List.isSome_find?]
    exact permutation.any_eq.symm
  have updates : ((doc.withPaths qs).entity name).hasUpdate = (doc.entity name).hasUpdate :=
    ((entityPerm table permuted name).filter _).any_eq.symm
  rw [Entity.writable, creates, updates, Entity.writable]

end

include table

theorem createFirst {name : String} {x : Endpoint} (inside : x ∈ (doc.entity name).endpoints)
    (creates : Creates name x) :
    ∃ qs, ps.Perm qs ∧ ((doc.withPaths qs).entity name).createEndpoint = some x := by
  obtain ⟨item, listed, found⟩ := (entityMem.mp inside).1
  rw [pathsTable table] at listed
  obtain ⟨before, after, rfl⟩ := List.append_of_mem listed
  refine ⟨(x.path, item) :: (before ++ after), List.perm_middle, ?_⟩
  have here : x ∈ itemEndpoints x.path item := itemMem.mpr ⟨rfl, found⟩
  -- a path has one operation that posts
  have only : (itemEndpoints x.path item).find? (fun e => Creates name e) = some x := by
    cases first : (itemEndpoints x.path item).find? fun e => Creates name e with
    | none => exact absurd creates (by simpa using List.find?_eq_none.mp first x here)
    | some y =>
      have made : Creates name y := by simpa using List.find?_some first
      obtain ⟨path, same⟩ := itemMem.mp (List.mem_of_find?_eq_some first)
      have method : y.method = x.method := made.method.trans creates.method.symm
      rw [method, found] at same
      cases x
      cases y
      cases path
      cases method
      cases same
      rfl
  rw [createSearch, endpoints, pathsTable (withPathsTable table _), List.flatMap_cons, List.find?_append, only]
  rfl

theorem complexReordered {qs : Members} (permuted : ps.Perm qs) (distinct : (Members.keys ps).Nodup) {h : Heuristics}
    {name : String} (alike : doc.CreatesAlike h name) :
    createsComplex (doc.withPaths qs) h ((doc.withPaths qs).entity name) =
      createsComplex doc h (doc.entity name) := by
  have member (x : Endpoint) : x ∈ ((doc.withPaths qs).entity name).endpoints ↔ x ∈ (doc.entity name).endpoints :=
    (entityPerm table permuted name).mem_iff.symm
  have complex (x : Endpoint) := complexRequestAlike table permuted distinct h x
  have again : (doc.withPaths qs).CreatesAlike h name := fun x inside y there first second => by
    rw [complex, complex]
    exact alike x ((member x).mp inside) y ((member y).mp there) first second
  rw [Bool.eq_iff_iff, createdComplex again, createdComplex alike]
  simp only [member, complex]

theorem firstDecides {qs : Members} (permuted : ps.Perm qs) (distinct : (Members.keys ps).Nodup) {h : Heuristics}
    {name : String} (detail : (doc.entity name).hasDetail = true) {e : Endpoint}
    (first : (doc.withPaths qs).FirstCreate name e) :
    Pattern.of (doc.withPaths qs) h ((doc.withPaths qs).entity name) =
      if doc.complexRequest h e then .masterDetailFull else .masterDetailSimple := by
  rw [patternCases, hasDetailSame table permuted, detail, createsFirst (createExactly.mpr first),
    complexRequestAlike table permuted distinct, if_pos rfl]

end

/-- Where each path is listed once, another order of the paths changes no name. It leaves the pattern of an entity,
whichever order it is, exactly if there are no details or if all operations that create make the same of it; in any
order the first of them decides. -/
theorem patternsReordered (doc : Document) (h : Heuristics) {ps : Members}
    (table : doc.root.get? "paths" = some (.object ps)) (distinct : (Members.keys ps).Nodup) :
    (∀ qs, ps.Perm qs → (doc.withPaths qs).entities.map (·.name) = doc.entities.map (·.name)) ∧
      ∀ n ∈ doc.entities,
        ((∀ qs, ps.Perm qs → Pattern.of (doc.withPaths qs) h ((doc.withPaths qs).entity n.name) = Pattern.of doc h n) ↔
          (n.hasDetail = true → doc.CreatesAlike h n.name)) ∧
        ∀ qs e, ps.Perm qs → (doc.withPaths qs).FirstCreate n.name e → n.hasDetail = true →
          Pattern.of (doc.withPaths qs) h ((doc.withPaths qs).entity n.name) =
            if doc.complexRequest h e then .masterDetailFull else .masterDetailSimple := by
  refine ⟨fun qs permuted => ?_, fun n inside => ?_⟩
  · rw [entityNames, entityNames, resourcesSame table permuted]
  obtain ⟨whole, _⟩ := entitiesMem.mp inside
  generalize n.name = name at whole ⊢
  subst whole
  refine ⟨⟨?_, ?_⟩, fun qs e permuted first detail => firstDecides table permuted distinct detail first⟩
  · intro same detail x here y there first second
    -- the pattern tells how complex the request is, whichever operation comes first
    have each : ∀ x ∈ (doc.entity name).endpoints, Creates name x →
        (doc.complexRequest h x = true ↔ Pattern.of doc h (doc.entity name) = .masterDetailFull) := by
      intro x inside creates
      obtain ⟨qs, permuted, leads⟩ := createFirst table inside creates
      rw [← same qs permuted, firstDecides table permuted distinct detail (createExactly.mp leads)]
      cases doc.complexRequest h x <;> simp
    rw [Bool.eq_iff_iff, each x here first, each y there second]
  · intro alike qs permuted
    rw [patternCases, patternCases, hasDetailSame table permuted, writableSame table permuted]
    cases detail : (doc.entity name).hasDetail with
    | false => rw [if_neg Bool.false_ne_true, if_neg Bool.false_ne_true]
    | true => rw [complexReordered table permuted distinct (alike detail)]

def twoCreates (schema : Value) : Members :=
  let lines : Value := .object [("properties", .object [("lines", .object [("type", .string "array")])])]
  let posts (schema : Value) : Value := .object [("post", .object [("requestBody", .object [("content", .object
    [("application/json", .object [("schema", schema)])])])])]
  [("/order/detail/{id}", .object [("get", .object [])]), ("/order/master", posts lines), ("/order", posts schema)]

def described (paths : Members) : Document := ⟨.object [("paths", .object paths)]⟩

theorem laterCreateOverlooked :
    let ps := twoCreates .null
    let qs := ps.take 1 ++ (ps.drop 1).reverse
    let d := described ps
    ps.Perm qs ∧ (Members.keys ps).Nodup ∧ d.withPaths qs = described qs ∧
      Pattern.of d {} (d.entity "order") = .masterDetailFull ∧
      Pattern.of (d.withPaths qs) {} ((d.withPaths qs).entity "order") = .masterDetailSimple := by
  decide +kernel

theorem ordersReordered :
    let ps := twoCreates (.object [("properties", .object [("contract", .object [("type", .string "object")])])])
    let d := described ps
    d.root.get? "paths" = some (.object ps) ∧ (Members.keys ps).Nodup ∧ d.entity "order" ∈ d.entities ∧
      ∀ qs, ps.Perm qs → Pattern.of (d.withPaths qs) {} ((d.withPaths qs).entity "order") = .masterDetailFull := by
  intro ps d
  have table : d.root.get? "paths" = some (.object ps) := rfl
  have distinct : (Members.keys ps).Nodup := by decide
  have inside : d.entity "order" ∈ d.entities := by decide +kernel
  have alike : d.CreatesAlike {} "order" := by decide +kernel
  have full : Pattern.of d {} (d.entity "order") = .masterDetailFull := by decide +kernel
  exact ⟨table, distinct, inside, fun qs permuted =>
    (((patternsReordered d {} table distinct).2 _ inside).1.mpr (fun _ => alike) qs permuted).trans full⟩

end Document
end ApiScreens
