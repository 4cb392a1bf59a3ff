import ApiScreens.Module.Build
import ApiScreens.Proofs.Entity
import Mathlib.Data.Prod.Lex

/-! Which operation the schema of a record is read from. Operations are searched hint by hint and under each in the
order of the entity, so that the one that is found is the least by the first hint that it meets, then by its place. -/
namespace ApiScreens
open Json (Value Members)

inductive Hint where
  | part (text : String)
  | own
  deriving DecidableEq, Repr

namespace Entity

def masterOrder : List Hint := [.part "/master", .part "/list", .own, .part "/search", .part "/all"]

def detailOrder : List Hint := [.part "/detail", .part "/{id}", .part "/by-master-id"]

def masterBarred : List String := ["/fields/", "/{id}", "/detail"]

def detailBarred : List String := ["/fields/"]

def Meets (n : Entity) (path : String) : Hint → Prop
  | .part text => text.toList <:+: path.toList
  | .own => n.ownPath.toList <:+ path.toList

instance (n : Entity) (path : String) : (hint : Hint) → Decidable (n.Meets path hint)
  | .part _ => inferInstanceAs (Decidable (_ <:+: _))
  | .own => inferInstanceAs (Decidable (_ <:+ _))

structure Suits (n : Entity) (barred : List String) (hint : Hint) (e : Endpoint) : Prop where
  method : e.method = .get
  admitted : ∀ text ∈ barred, ¬text.toList <:+: e.path.toList
  meets : n.Meets e.path hint

instance (n : Entity) (barred : List String) (hint : Hint) (e : Endpoint) : Decidable (n.Suits barred hint e) :=
  decidable_of_iff (e.method = .get ∧ (∀ text ∈ barred, ¬text.toList <:+: e.path.toList) ∧ n.Meets e.path hint)
    ⟨fun ⟨method, admitted, meets⟩ => ⟨method, admitted, meets⟩,
      fun ⟨method, admitted, meets⟩ => ⟨method, admitted, meets⟩⟩

structure Offers (n : Entity) (order : List Hint) (barred : List String) (e : Endpoint) (index position : Nat) :
    Prop where
  listed : n.endpoints[position]? = some e
  suits : ∃ hint, order[index]? = some hint ∧ n.Suits barred hint e
  first : ∀ earlier < index, ∀ hint, order[earlier]? = some hint → ¬n.Meets e.path hint

def Chosen (n : Entity) (order : List Hint) (barred : List String) (e : Endpoint) : Prop :=
  ∃ index position, n.Offers order barred e index position ∧
    ∀ x i p, n.Offers order barred x i p → toLex (index, position) ≤ toLex (i, p)

variable {n : Entity} {order : List Hint} {barred : List String} {e x : Endpoint}

theorem chosenOnly (left : n.Chosen order barred e) (right : n.Chosen order barred x) : x = e := by
  obtain ⟨index, position, offers, least⟩ := left
  obtain ⟨i, p, others, below⟩ := right
  have same : (index, position) = (i, p) :=
    toLex.injective (le_antisymm (least x i p others) (below e index position offers))
  have places := offers.listed
  rw [(Prod.mk.inj same).2, others.listed] at places
  exact Option.some.inj places

def sought (n : Entity) (order : List Hint) (barred : List String) : Option Endpoint :=
  order.findSome? fun hint => n.endpoints.find? fun e => n.Suits barred hint e

theorem soughtChosen (found : n.sought order barred = some e) : n.Chosen order barred e := by
  obtain ⟨before, hint, after, rfl, here, earlier⟩ := List.findSome?_eq_some_iff.mp found
  obtain ⟨passes, position, within, same, skipped⟩ := List.find?_eq_some_iff_getElem.mp here
  have suits : n.Suits barred hint e := by simpa using passes
  have none {i : Nat} {k : Hint} (less : i < before.length) (there : (before ++ hint :: after)[i]? = some k)
      {x : Endpoint} (inside : x ∈ n.endpoints) : ¬n.Suits barred k x := by
    rw [List.getElem?_append_left less] at there
    have empty := earlier k (List.mem_of_getElem? there)
    simpa using List.find?_eq_none.mp empty x inside
  have listed : n.endpoints[position]? = some e := same ▸ List.getElem?_eq_getElem within
  refine ⟨before.length, position, ⟨listed, ⟨hint, by simp, suits⟩, fun i less k there meets => ?_⟩, ?_⟩
  · exact none less there (List.mem_of_getElem? listed) ⟨suits.method, suits.admitted, meets⟩
  · rintro x i p ⟨others, ⟨k, there, better⟩, _⟩
    rw [Prod.Lex.toLex_le_toLex]
    rcases Nat.lt_trichotomy before.length i with less | rfl | more
    · exact .inl less
    · -- by the same hint the earlier of the two is found
      refine .inr ⟨rfl, Nat.le_of_not_lt fun sooner => ?_⟩
      obtain ⟨_, placed⟩ := List.getElem?_eq_some_iff.mp others
      have again : hint = k := by simpa using there
      subst again
      have refused := skipped p sooner
      rw [placed] at refused
      simp [better] at refused
    · exact absurd better (none more there (List.mem_of_getElem? others))

theorem soughtNone (idle : n.sought order barred = none) :
    ∀ e ∈ n.endpoints, ∀ hint ∈ order, ¬n.Suits barred hint e := by
  intro e inside hint listed
  have empty := List.findSome?_eq_none_iff.mp idle hint listed
  simpa using List.find?_eq_none.mp empty e inside

theorem hintsSought {hints : List String} {meets : String → String → Bool} {admissible : String → Bool}
    (kind : String → Hint) (same : ∀ hint path, meets hint path = true ↔ n.Meets path (kind hint))
    (admits : ∀ path, admissible path = true ↔ ∀ text ∈ barred, ¬text.toList <:+: path.toList) :
    n.byHints hints meets admissible = n.sought (hints.map kind) barred := by
  rw [byHints, sought, List.findSome?_map]
  refine congrArg (List.findSome? · hints) (funext fun hint => ?_)
  rw [Function.comp_apply, having, List.find?_filter]
  refine List.find?_congr fun e _ => decide_eq_decide.mpr ?_
  rw [Bool.and_eq_true, same, admits, decide_eq_true_eq]
  exact ⟨fun ⟨method, meets, admitted⟩ => ⟨method, admitted, meets⟩,
    fun ⟨method, admitted, meets⟩ => ⟨method, meets, admitted⟩⟩

theorem masterSought (n : Entity) : n.masterEndpoint = n.sought masterOrder masterBarred := by
  refine hintsSought (fun hint => if hint = "" then .own else .part hint) (fun hint path => ?_) fun path => ?_
  · unfold meetsMaster
    split
    · rw [Bool.or_eq_true, decide_eq_true_eq, Text.endsExactly]
      exact ⟨fun ends => ends.elim (fun whole => whole ▸ List.suffix_refl _) id, .inr⟩
    · exact Text.hasExactly
  · simp [masterBarred, ← Text.hasExactly, and_assoc]

theorem detailSought (n : Entity) : n.detailEndpoint = n.sought detailOrder detailBarred := by
  refine hintsSought .part (fun _ _ => Text.hasExactly) fun path => ?_
  simp [detailBarred, ← Text.hasExactly]

end Entity

namespace Document
open Entity

/-- The record of the chosen operation, which the description has under its path and method, or none. -/
inductive Records (doc : Document) (n : Entity) (order : List Hint) (barred : List String) : Option Value → Prop where
  | chosen {e : Endpoint} (chosen : n.Chosen order barred e) (only : ∀ x, n.Chosen order barred x → x = e)
      (again : doc.operation e.path e.method.key = some e.operation) :
      Records doc n order barred (doc.recordSchema e.operation)
  | missing (idle : ∀ e ∈ n.endpoints, ∀ hint ∈ order, ¬n.Suits barred hint e) : Records doc n order barred none

theorem soughtRecords {doc : Document} (distinct : (Members.keys doc.paths).Nodup) {n : Entity}
    (inside : n ∈ doc.entities) (order : List Hint) (barred : List String) :
    doc.Records n order barred ((n.sought order barred).bind (recordOf doc)) := by
  cases found : n.sought order barred with
  | none => exact .missing (soughtNone found)
  | some e =>
    have chosen := soughtChosen found
    obtain ⟨_, _, offers, _⟩ := soughtChosen found
    have listed : e ∈ (doc.entity n.name).endpoints := by
      rw [← (entitiesMem.mp inside).1]
      exact List.mem_of_getElem? offers.listed
    have again := operationFound distinct (entityMem.mp listed).1
    rw [Option.bind_some, recordOf, again, Option.bind_some]
    exact .chosen chosen (fun _ => chosenOnly chosen) again

section
variable {doc : Document} {n : Entity} (distinct : (Members.keys doc.paths).Nodup) (inside : n ∈ doc.entities)
include distinct inside

theorem masterRecords : doc.Records n masterOrder masterBarred (n.masterSchema doc) := by
  rw [masterSchema, masterSought]
  exact soughtRecords distinct inside _ _

theorem detailRecords : doc.Records n detailOrder detailBarred (n.detailSchema doc) := by
  rw [detailSchema, detailSought]
  exact soughtRecords distinct inside _ _

end

theorem recordsChosen (doc : Document) (distinct : (Members.keys doc.paths).Nodup) {n : Entity}
    (inside : n ∈ doc.entities) :
    doc.Records n masterOrder masterBarred (n.masterSchema doc) ∧
      doc.Records n detailOrder detailBarred (n.detailSchema doc) :=
  ⟨masterRecords distinct inside, detailRecords distinct inside⟩

theorem readRecords {text origin : String} {doc : Document} (read : parse text origin = .ok doc) {n : Entity}
    (inside : n ∈ doc.entities) :
    doc.Records n masterOrder masterBarred (n.masterSchema doc) ∧
      doc.Records n detailOrder detailBarred (n.detailSchema doc) :=
  ⟨masterRecords (readPathsNodup read) inside, detailRecords (readPathsNodup read) inside⟩

def listedOrders : Document :=
  let answering (type : String) : Value := .object [("responses", .object [("200", .object [("content", .object
    [("application/json", .object [("schema", .object [("type", .string type)])])])])])]
  ⟨.object [("paths", .object
    [("/order/search", .object [("get", answering "found")]),
     ("/order/master/{id}", .object [("get", answering "shown")]),
     ("/order", .object [("get", answering "own"), ("post", answering "made")]),
     ("/order/detail/list", .object [("get", answering "lines")]),
     ("/order/all/list", .object [("get", answering "all")])])]⟩

theorem listedOrdersChosen :
    (Members.keys listedOrders.paths).Nodup ∧ listedOrders.entity "order" ∈ listedOrders.entities ∧
      listedOrders.Records (listedOrders.entity "order") masterOrder masterBarred
        (some (.object [("type", .string "all")])) ∧
      listedOrders.Records (listedOrders.entity "order") detailOrder detailBarred
        (some (.object [("type", .string "lines")])) := by
  have distinct : (Members.keys listedOrders.paths).Nodup := by decide
  have inside : listedOrders.entity "order" ∈ listedOrders.entities := by decide +kernel
  have master : (listedOrders.entity "order").masterSchema listedOrders =
    some (.object [("type", .string "all")]) := by decide +kernel
  have detail : (listedOrders.entity "order").detailSchema listedOrders =
    some (.object [("type", .string "lines")]) := by decide +kernel
  have records := recordsChosen listedOrders distinct inside
  rw [master, detail] at records
  exact ⟨distinct, inside, records⟩

end Document
end ApiScreens
