import ApiScreens.Domain.Probe
import ApiScreens.Proofs.Entity
import ApiScreens.Proofs.Server.Probing

/-! Probes of every list that a description offers. Each list without a parameter in its path is asked for
once and has its mark, whatever the answers are: a probe that fails takes no other with it. -/
namespace ApiScreens
open Endpoint Server
open Json (Members)

structure Text.Stripped (c : Char) (s stem : String) : Prop where
  rest : ∃ n, s.toList = stem.toList ++ List.replicate n c
  ends : stem.toList.getLast? ≠ some c

theorem Text.strippedTrailing (c : Char) (s : String) : Stripped c s (withoutTrailing c s) := by
  have cut : s.toList.reverse = s.toList.reverse.takeWhile (· == c) ++ s.toList.reverse.dropWhile (· == c) :=
    List.takeWhile_append_dropWhile.symm
  have same : s.toList.reverse.takeWhile (· == c) = List.replicate _ c :=
    List.eq_replicate_of_mem fun b inside => by simpa using List.mem_takeWhile_imp inside
  constructor
  · refine ⟨(s.toList.reverse.takeWhile (· == c)).length, ?_⟩
    rw [withoutTrailing, dropEndWhile, String.toList_ofList, ← List.reverse_replicate, ← same,
      ← List.reverse_append, ← cut, List.reverse_reverse]
  · rw [withoutTrailing, dropEndWhile, String.toList_ofList, List.getLast?_reverse]
    intro first
    have stops := List.head?_dropWhile_not (· == c) s.toList.reverse
    simp [first] at stops

namespace Document
variable {doc : Document}

/-- A list that the description offers without a parameter in its path, with the resource that the path names
first. -/
structure Offers (doc : Document) (name path : String) : Prop where
  named : FirstSegment path name
  plain : '{' ∉ path.toList
  listed : ∃ operation, doc.Has ⟨path, .get, operation⟩

theorem parameterFree {e : Endpoint} : e.isParameterFree = true ↔ '{' ∉ e.path.toList := by
  have brace : "\x7b".toList <:+: e.path.toList ↔ '{' ∈ e.path.toList := List.singleton_infix_iff '{' _
  rw [isParameterFree, Bool.not_eq_true', ← Bool.not_eq_true, Text.hasExactly, brace]

theorem targetMem {name : String} {e : Endpoint} :
    e ∈ (doc.entity name).probeTargets ↔ e.method = .get ∧ doc.Has e ∧ FirstSegment e.path name ∧
      '{' ∉ e.path.toList := by
  rw [Entity.probeTargets, List.mem_filter, entityMem, Bool.and_eq_true, decide_eq_true_eq, parameterFree]
  tauto

def targets (doc : Document) : List (String × String) :=
  doc.entities.flatMap fun n => n.probeTargets.map fun e => (n.name, e.path)

theorem targetsExactly {name path : String} : (name, path) ∈ doc.targets ↔ doc.Offers name path := by
  constructor
  · intro inside
    obtain ⟨n, there, listed⟩ := List.mem_flatMap.mp inside
    obtain ⟨e, target, same⟩ := List.mem_map.mp listed
    obtain ⟨rfl, rfl⟩ := Prod.mk.inj same
    rw [(entitiesMem.mp there).1] at target
    obtain ⟨method, has, named, plain⟩ := targetMem.mp target
    obtain ⟨path, _, operation⟩ := e
    cases method
    exact ⟨named, plain, operation, has⟩
  · rintro ⟨named, plain, operation, has⟩
    have there : doc.entity name ∈ doc.entities :=
      entitiesMem.mpr ⟨rfl, _, endpointsExactly.mpr has, named⟩
    have target : ⟨path, .get, operation⟩ ∈ (doc.entity name).probeTargets :=
      targetMem.mpr ⟨rfl, has, named, plain⟩
    exact List.mem_flatMap.mpr ⟨_, there, List.mem_map_of_mem (f := fun e => (name, e.path)) target⟩

def Follows (doc : Document) (a b : String × String) : Prop :=
  a.1 < b.1 ∨ a.1 = b.1 ∧ doc.position a.2 < doc.position b.2

theorem targetsOrdered (distinct : (Members.keys doc.paths).Nodup) : doc.targets.Pairwise doc.Follows := by
  refine List.pairwise_flatMap.mpr ⟨fun n there => ?_, (entitiesAscending doc).imp fun below x here y there => ?_⟩
  · have ordered : n.endpoints.Pairwise doc.Before := by
      rw [(entitiesMem.mp there).1]
      exact entityOrdered distinct n.name
    refine List.pairwise_map.mpr ((ordered.filter _).imp_of_mem fun {a b} left right before => .inr ⟨rfl, ?_⟩)
    have get {e : Endpoint} (target : e ∈ n.probeTargets) : e.method = .get := by
      exact of_decide_eq_true (Bool.and_eq_true_iff.mp (List.mem_filter.mp target).2).1
    cases before with
    | path earlier => exact earlier
    | method _ earlier =>
      rw [get left, get right] at earlier
      exact absurd earlier (Nat.lt_irrefl _)
  · obtain ⟨_, _, rfl⟩ := List.mem_map.mp here
    obtain ⟨_, _, rfl⟩ := List.mem_map.mp there
    exact .inl below

theorem targetsOnce (distinct : (Members.keys doc.paths).Nodup) : (doc.targets.map (·.2)).Nodup := by
  refine List.pairwise_map.mpr ((targetsOrdered distinct).imp_of_mem fun {a b} left right follows same => ?_)
  have first := resourceExactly.mpr (targetsExactly.mp left).named
  have second := resourceExactly.mpr (targetsExactly.mp right).named
  rw [same, second] at first
  cases follows with
  | inl below => exact String.ne_of_lt below (Option.some.inj first).symm
  | inr later => exact absurd later.2 (by simp [same])

end Document

namespace Probe
variable {base stem : String} {credentials : Option Credentials} {s t u : Session}

inductive Told (base : String) (credentials : Option Credentials) (stem : String) :
    Session → List (Probe × List Exchange) → Session → Prop where
  | none (s : Session) : Told base credentials stem s [] s
  | next {s t u : Session} {p : Probe} {es : List Exchange} {more : List (Probe × List Exchange)}
      (probing : Probing base credentials (stem ++ p.path) s es t p.ok)
      (rest : Told base credentials stem t more u) : Told base credentials stem s ((p, es) :: more) u

theorem Told.append {talks more : List (Probe × List Exchange)} (first : Told base credentials stem s talks t)
    (second : Told base credentials stem t more u) : Told base credentials stem s (talks ++ more) u := by
  induction first with
  | none => exact second
  | next probing _ ih => exact .next probing (ih second)

theorem Told.each {talks : List (Probe × List Exchange)} (told : Told base credentials stem s talks t) :
    ∀ p es, (p, es) ∈ talks → ∃ s t, Probing base credentials (stem ++ p.path) s es t p.ok := by
  induction told with
  | none => simp
  | next probing _ ih =>
    intro p es inside
    cases List.mem_cons.mp inside with
    | inl first => cases first; exact ⟨_, _, probing⟩
    | inr later => exact ih p es later

structure Tells (stem : String) (a b : Access) (talks : List (Probe × List Exchange)) : Prop where
  sameBase : b.base = a.base
  sameCredentials : b.credentials = a.credentials
  exchanges : a.wire.Exchanges b.wire (talks.flatMap (·.2))
  told : Told a.base a.credentials stem a.session talks b.session

theorem Tells.append {a b c : Access} {talks more : List (Probe × List Exchange)} (first : Tells stem a b talks)
    (second : Tells stem b c more) : Tells stem a c (talks ++ more) where
  sameBase := second.sameBase.trans first.sameBase
  sameCredentials := second.sameCredentials.trans first.sameCredentials
  exchanges := by
    rw [List.flatMap_append]
    exact first.exchanges.append second.exchanges
  told := by
    have told := second.told
    rw [first.sameBase, first.sameCredentials] at told
    exact first.told.append told

def target (p : Probe) : String × String := (p.entity, p.path)

section
variable (apiBase : String)

theorem targetsListed (entity : String) (a : Access) (es : List Endpoint) :
    (targets apiBase entity a es).2.map target = es.map fun e => (entity, e.path) := by
  induction es generalizing a with
  | nil => rfl
  | cons e rest ih =>
    simp only [targets, List.map_cons, ih]
    rfl

theorem targetsTold (entity : String) (a : Access) (es : List Endpoint) :
    ∃ talks, talks.map (·.1) = (targets apiBase entity a es).2 ∧
      Tells (Text.withoutTrailing '/' apiBase) a (targets apiBase entity a es).1 talks := by
  induction es generalizing a with
  | nil => exact ⟨[], rfl, rfl, rfl, .none _, .none _⟩
  | cons e rest ih =>
    obtain ⟨said, exchanges, sameBase, sameCredentials, probing⟩ := a.probeSays (url apiBase e.path)
    simp only [targets]
    generalize a.probe (url apiBase e.path) = probed at exchanges sameBase sameCredentials probing
    obtain ⟨b, ok⟩ := probed
    obtain ⟨talks, listed, more⟩ := ih b
    have first : Tells (Text.withoutTrailing '/' apiBase) a b [(⟨entity, e.path, ok⟩, said)] :=
      ⟨sameBase, sameCredentials, by simpa using exchanges, .next probing (.none _)⟩
    exact ⟨(⟨entity, e.path, ok⟩, said) :: talks, by rw [List.map_cons, listed], first.append more⟩

theorem entitiesListed (a : Access) (ns : List Entity) :
    (entities apiBase a ns).2.flatten.map target =
      ns.flatMap fun n => n.probeTargets.map fun e => (n.name, e.path) := by
  induction ns generalizing a with
  | nil => rfl
  | cons n rest ih =>
    simp only [entities, List.flatten_cons, List.map_append, List.flatMap_cons, targetsListed, ih]

theorem entitiesTold (a : Access) (ns : List Entity) :
    ∃ talks, talks.map (·.1) = (entities apiBase a ns).2.flatten ∧
      Tells (Text.withoutTrailing '/' apiBase) a (entities apiBase a ns).1 talks := by
  induction ns generalizing a with
  | nil => exact ⟨[], rfl, rfl, rfl, .none _, .none _⟩
  | cons n rest ih =>
    obtain ⟨talks, listed, first⟩ := targetsTold apiBase n.name a n.probeTargets
    simp only [entities]
    generalize targets apiBase n.name a n.probeTargets = probed at listed first
    obtain ⟨b, ps⟩ := probed
    obtain ⟨more, others, second⟩ := ih b
    exact ⟨talks ++ more, by rw [List.map_append, listed, others, List.flatten_cons], first.append second⟩

end

structure Reports (doc : Document) (apiBase : String) (a b : Access) (ps : List Probe) : Prop where
  exactly : ∀ name path, (name, path) ∈ ps.map target ↔ doc.Offers name path
  once : (ps.map (·.path)).Nodup
  ordered : (ps.map target).Pairwise doc.Follows
  told : ∃ stem talks, Text.Stripped '/' apiBase stem ∧ talks.map (·.1) = ps ∧ Tells stem a b talks ∧
    ∀ p es, (p, es) ∈ talks → (p.ok = true ↔ Answered es) ∧ es.countP (·.1.isGet) ≤ 2 ∧
      ∀ e ∈ es, e.1.isGet = true → ∃ bearer, e.1 = .get (stem ++ p.path) bearer

theorem everyListProbed (apiBase : String) (doc : Document) (a : Access)
    (distinct : (Members.keys doc.paths).Nodup) :
    Reports doc apiBase a (entities apiBase a doc.entities).1 (entities apiBase a doc.entities).2.flatten := by
  have listed : (entities apiBase a doc.entities).2.flatten.map target = doc.targets :=
    entitiesListed apiBase a doc.entities
  obtain ⟨talks, probes, tells⟩ := entitiesTold apiBase a doc.entities
  have paths (ps : List Probe) : ps.map (·.path) = (ps.map target).map (·.2) := by
    rw [List.map_map]
    rfl
  refine ⟨fun name path => ?_, ?_, ?_, _, talks, Text.strippedTrailing '/' apiBase, probes, tells,
    fun p es inside => ?_⟩
  · rw [listed, Document.targetsExactly]
  · rw [paths, listed]
    exact Document.targetsOnce distinct
  · rw [listed]
    exact Document.targetsOrdered distinct
  · obtain ⟨_, _, probing⟩ := tells.told.each p es inside
    cases probing with
    | marked asking mark => exact ⟨mark.trans (askingAnswered asking), askingTwice asking, askingAsks asking⟩

def rootOffered : Document := ⟨.object [("paths", .object [("/", .object [("get", .object [])])])]⟩

theorem rootUnasked : rootOffered.Has ⟨"/", .get, .object []⟩ ∧ '{' ∉ "/".toList ∧
    ∀ apiBase a, (entities apiBase a rootOffered.entities).2.flatten = [] := by
  refine ⟨⟨.object [("get", .object [])], by decide, by decide⟩, by decide, fun apiBase a => ?_⟩
  have none : rootOffered.entities = [] := by decide
  rw [none]
  rfl

def ordersAndUsers : Document :=
  ⟨.object [("paths", .object
    [("/user", .object [("post", .object []), ("get", .object [])]),
     ("/order/\x7bid\x7d", .object [("get", .object [])]),
     ("/", .object [("get", .object [])]),
     ("/order", .object [("get", .object [])]),
     ("/user/all", .object [("get", .object [])])])]⟩

def forgetful : Access where
  base := "https://docs"
  credentials := some ⟨"reader", "secret"⟩
  wire :=
    { answers := fun n =>
        if n = 0 ∨ n = 2 then
          .ok ⟨200, "\x7b\"status\": \"success\", \"data\": \x7b\"accessToken\": \"t\"\x7d\x7d"⟩
        else if n = 1 then .ok ⟨401, ""⟩
        else if n = 3 then .ok ⟨200, "[]"⟩
        else .error .unreachable }

theorem forgetfulProbed : (Members.keys ordersAndUsers.paths).Nodup ∧
    Reports ordersAndUsers "https://api//" forgetful
      (entities "https://api//" forgetful ordersAndUsers.entities).1
      (entities "https://api//" forgetful ordersAndUsers.entities).2.flatten ∧
    (entities "https://api//" forgetful ordersAndUsers.entities).2.flatten =
      [⟨"order", "/order", true⟩, ⟨"user", "/user", false⟩, ⟨"user", "/user/all", false⟩] :=
  ⟨by decide, everyListProbed _ _ _ (by decide), by decide +kernel⟩

end Probe
end ApiScreens
