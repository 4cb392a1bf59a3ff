import ApiScreens.Entity
import ApiScreens.Proofs.Document.Text
import ApiScreens.Proofs.Path.Component
import ApiScreens.Proofs.SortedMap
import ApiScreens.Proofs.Text.Pieces

/-! Entities share out the operations of a description. Each operation is in the entity that its path names
first and in no other; entities are in the order of their names, their operations in document order. -/
namespace ApiScreens
open Text
open Json (Value Members)

namespace Endpoint

theorem resourceSegment {path name : String} (found : resourceOf path = some name) :
    Path.Segment name := by
  refine ⟨?_, by simpa using List.find?_some found⟩
  obtain ⟨piece, cut, rfl⟩ := List.mem_map.mp (List.mem_of_find?_eq_some found)
  intro slash
  have clear := pieceClear cut '/' (by simpa using slash)
  simp at clear

/-- What a path names first: the text behind the slashes that it may begin with, up to its next slash or its
end. -/
structure FirstSegment (path name : String) : Prop where
  segment : Path.Segment name
  place : ∃ slashes rest, path.toList = List.replicate slashes '/' ++ name.toList ++ rest ∧
    (rest = [] ∨ ∃ behind, rest = '/' :: behind)

def firstPiece (cs : List Char) : Option (List Char) := (pieces (· == '/') cs).find? (· ≠ [])

theorem resourceOfPiece (path : String) : resourceOf path = (firstPiece path.toList).map String.ofList := by
  simp [resourceOf, splitOn, firstPiece, List.find?_map]

theorem firstPieceSlash (cs : List Char) : firstPiece ('/' :: cs) = firstPiece cs := by
  simp [firstPiece, pieces]

theorem firstPieceSlashes (slashes : Nat) (cs : List Char) :
    firstPiece (List.replicate slashes '/' ++ cs) = firstPiece cs := by
  induction slashes with
  | zero => rfl
  | succ n ih => rw [List.replicate_succ, List.cons_append, firstPieceSlash, ih]

theorem firstPieceAt {p rest : List Char} (clear : ∀ c ∈ p, (c == '/') = false) (nonempty : p ≠ [])
    (stops : rest = [] ∨ ∃ behind, rest = '/' :: behind) : firstPiece (p ++ rest) = some p := by
  unfold firstPiece
  rcases stops with rfl | ⟨behind, rfl⟩
  · rw [List.append_nil, piecesWhole clear]
    simp [nonempty]
  · rw [piecesCut _ _ (by simp), piecesWhole clear]
    simp [nonempty]

theorem firstPiecePlace {cs p : List Char} (found : firstPiece cs = some p) :
    ∃ slashes rest, cs = List.replicate slashes '/' ++ p ++ rest ∧
      (rest = [] ∨ ∃ behind, rest = '/' :: behind) := by
  induction cs with
  | nil => simp [firstPiece, pieces] at found
  | cons c cs ih =>
    by_cases slash : c = '/'
    · subst slash
      rw [firstPieceSlash] at found
      obtain ⟨slashes, rest, rfl, stops⟩ := ih found
      exact ⟨slashes + 1, rest, by simp [List.replicate_succ], stops⟩
    · -- a character that is no slash begins the segment
      obtain ⟨q, more, cut⟩ := List.exists_cons_of_ne_nil (piecesNonempty (c :: cs) : pieces (· == '/') _ ≠ [])
      obtain ⟨rest, shape, stops⟩ := piecesHead cut
      have ends : rest = [] ∨ ∃ behind, rest = '/' :: behind := by simpa using stops
      have nonempty : q ≠ [] := by
        rintro rfl
        rcases ends with rfl | ⟨behind, rfl⟩
        · exact absurd shape (by simp)
        · exact slash (List.cons.inj shape).1
      have same : q = p := by simpa [firstPiece, cut, nonempty] using found
      exact ⟨0, rest, by simpa [same] using shape, ends⟩

theorem firstPieceNone {cs : List Char} (none : firstPiece cs = none) : ∀ c ∈ cs, c = '/' := by
  intro c inside
  rw [← joinPieces '/' cs] at inside
  rcases joinInside inside with between | ⟨p, cut, here⟩
  · exact List.mem_singleton.mp between
  · have empty : p = [] := by simpa using List.find?_eq_none.mp none p cut
    exact absurd (empty ▸ here) List.not_mem_nil

theorem resourceExactly {path name : String} : resourceOf path = some name ↔ FirstSegment path name := by
  constructor
  · intro found
    refine ⟨resourceSegment found, ?_⟩
    rw [resourceOfPiece] at found
    obtain ⟨p, first, rfl⟩ := Option.map_eq_some_iff.mp found
    simpa using firstPiecePlace first
  · rintro ⟨segment, slashes, rest, shape, stops⟩
    have clear : ∀ c ∈ name.toList, (c == '/') = false := fun c inside => by
      have differs : c ≠ '/' := fun same => segment.whole (same ▸ inside)
      simpa using differs
    have nonempty : name.toList ≠ [] := by simpa using segment.nonempty
    rw [resourceOfPiece, shape, List.append_assoc, firstPieceSlashes, firstPieceAt clear nonempty stops]
    simp

instance (path name : String) : Decidable (FirstSegment path name) := decidable_of_iff _ resourceExactly

theorem firstSegmentSome {path : String} : (∃ name, FirstSegment path name) ↔ ∃ c ∈ path.toList, c ≠ '/' := by
  constructor
  · rintro ⟨name, segment, slashes, rest, shape, _⟩
    obtain ⟨c, inside⟩ := List.exists_mem_of_ne_nil name.toList (by simpa using segment.nonempty)
    exact ⟨c, by simp [shape, inside], fun same => segment.whole (same ▸ inside)⟩
  · rintro ⟨c, inside, differs⟩
    cases first : firstPiece path.toList with
    | none => exact absurd (firstPieceNone first c inside) differs
    | some p =>
      have named : resourceOf path = some (String.ofList p) := by rw [resourceOfPiece, first, Option.map_some]
      exact ⟨_, resourceExactly.mp named⟩

end Endpoint

namespace Document

theorem entityNames (doc : Document) : doc.entities.map (·.name) = doc.resources := by
  simp [entities, entity, Entity.ofEndpoints, Function.comp_def]

theorem resourcesNodup (doc : Document) : doc.resources.Nodup := sortedDistinctNodup _

theorem resourceSegment {doc : Document} {name : String} (inside : name ∈ doc.resources) :
    Path.Segment name := by
  obtain ⟨e, _, found⟩ := List.mem_filterMap.mp (sortedDistinctMem.mp inside)
  exact Endpoint.resourceSegment found

theorem entitySegment {doc : Document} {n : Entity} (inside : n ∈ doc.entities) :
    Path.Segment n.name := by
  apply resourceSegment
  rw [← entityNames doc]
  exact List.mem_map.mpr ⟨n, inside, rfl⟩

end Document

namespace Method

theorem listed (m : Method) : m ∈ all := by
  cases m <;> decide

def rank : Method → Nat
  | .get => 0
  | .post => 1
  | .put => 2
  | .delete => 3

theorem allRanked : all.Pairwise fun a b => a.rank < b.rank := by decide

end Method

namespace Document
open Endpoint

def Has (doc : Document) (e : Endpoint) : Prop :=
  ∃ item, (e.path, item) ∈ doc.paths ∧ item.get? e.method.key = some e.operation

def position (doc : Document) (path : String) : Nat := (Members.keys doc.paths).idxOf path

/-- Document order: path after path, and the operations of one path by the rank of their methods. -/
inductive Before (doc : Document) (a b : Endpoint) : Prop where
  | path (earlier : doc.position a.path < doc.position b.path)
  | method (same : a.path = b.path) (earlier : a.method.rank < b.method.rank)

variable {doc : Document}

theorem beforeApart {a b : Endpoint} (before : doc.Before a b) : (a.path, a.method) ≠ (b.path, b.method) := by
  intro same
  obtain ⟨path, method⟩ := Prod.mk.inj same
  cases before with
  | path earlier => exact absurd earlier (by simp [path])
  | method _ earlier => exact absurd earlier (by simp [method])

theorem itemMem {path : String} {item : Value} {e : Endpoint} :
    e ∈ itemEndpoints path item ↔ e.path = path ∧ item.get? e.method.key = some e.operation := by
  constructor
  · intro inside
    obtain ⟨m, _, made⟩ := List.mem_filterMap.mp inside
    obtain ⟨operation, found, rfl⟩ := Option.map_eq_some_iff.mp made
    exact ⟨rfl, found⟩
  · rintro ⟨rfl, found⟩
    exact List.mem_filterMap.mpr ⟨e.method, e.method.listed, by rw [found, Option.map_some]⟩

theorem endpointsExactly {e : Endpoint} : e ∈ doc.endpoints ↔ doc.Has e := by
  constructor
  · intro inside
    obtain ⟨⟨path, item⟩, listed, made⟩ := List.mem_flatMap.mp inside
    obtain ⟨rfl, found⟩ := itemMem.mp made
    exact ⟨item, listed, found⟩
  · rintro ⟨item, listed, found⟩
    exact List.mem_flatMap.mpr ⟨(e.path, item), listed, itemMem.mpr ⟨rfl, found⟩⟩

theorem itemOrdered (path : String) (item : Value) : (itemEndpoints path item).Pairwise doc.Before := by
  refine List.pairwise_filterMap.mpr (Method.allRanked.imp fun {a b} earlier x here y there => ?_)
  obtain ⟨_, _, rfl⟩ := Option.map_eq_some_iff.mp here
  obtain ⟨_, _, rfl⟩ := Option.map_eq_some_iff.mp there
  exact .method rfl earlier

theorem indexAscending {names : List String} (distinct : names.Nodup) :
    names.Pairwise fun a b => names.idxOf a < names.idxOf b := by
  refine List.pairwise_iff_getElem.mpr fun i j first second below => ?_
  rwa [distinct.idxOf_getElem i first, distinct.idxOf_getElem j second]

theorem endpointsOrdered (distinct : (Members.keys doc.paths).Nodup) : doc.endpoints.Pairwise doc.Before := by
  have places : (Members.keys doc.paths).Pairwise fun a b => doc.position a < doc.position b :=
    indexAscending distinct
  rw [Members.keys, List.pairwise_map] at places
  refine List.pairwise_flatMap.mpr ⟨fun p _ => itemOrdered p.1 p.2, places.imp fun earlier x here y there => ?_⟩
  obtain ⟨left, _⟩ := itemMem.mp here
  obtain ⟨right, _⟩ := itemMem.mp there
  exact .path (by rwa [left, right])

theorem entitiesMem {n : Entity} :
    n ∈ doc.entities ↔ n = doc.entity n.name ∧ ∃ e ∈ doc.endpoints, FirstSegment e.path n.name := by
  constructor
  · intro inside
    obtain ⟨name, listed, rfl⟩ := List.mem_map.mp inside
    obtain ⟨e, there, named⟩ := List.mem_filterMap.mp (sortedDistinctMem.mp listed)
    exact ⟨rfl, e, there, resourceExactly.mp named⟩
  · rintro ⟨whole, e, there, named⟩
    rw [whole]
    exact List.mem_map_of_mem (sortedDistinctMem.mpr (List.mem_filterMap.mpr ⟨e, there, resourceExactly.mpr named⟩))

theorem entityMem {name : String} {e : Endpoint} :
    e ∈ (doc.entity name).endpoints ↔ doc.Has e ∧ FirstSegment e.path name := by
  have listed : e ∈ (doc.entity name).endpoints ↔ e ∈ doc.endpoints ∧ e.resource = some name := by
    simp [entity, Entity.ofEndpoints]
  rw [listed, endpointsExactly, Endpoint.resource, resourceExactly]

theorem entityDetail (name : String) :
    (doc.entity name).hasDetail = true ↔
      ∃ e ∈ (doc.entity name).endpoints, "/detail".toList <:+: e.path.toList := by
  simp only [entity, Entity.ofEndpoints, List.any_eq_true, Text.hasExactly]

theorem entitiesAscending (doc : Document) : doc.entities.Pairwise fun a b => a.name < b.name := by
  refine List.pairwise_map.mp ?_
  rw [entityNames]
  exact sortedDistinctAscending _

theorem entityOrdered (distinct : (Members.keys doc.paths).Nodup) (name : String) :
    (doc.entity name).endpoints.Pairwise doc.Before :=
  (endpointsOrdered distinct).filter _

theorem sharedApart (distinct : (Members.keys doc.paths).Nodup) :
    ((doc.entities.flatMap (·.endpoints)).map fun e => (e.path, e.method)).Nodup := by
  refine List.pairwise_map.mpr (List.pairwise_flatMap.mpr ⟨fun n inside => ?_, ?_⟩)
  · rw [(entitiesMem.mp inside).1]
    exact (entityOrdered distinct n.name).imp beforeApart
  · refine (entitiesAscending doc).imp_of_mem fun {a b} left right below x here y there same => ?_
    rw [(entitiesMem.mp left).1] at here
    rw [(entitiesMem.mp right).1] at there
    have first := resourceExactly.mpr (entityMem.mp here).2
    have second := resourceExactly.mpr (entityMem.mp there).2
    rw [(Prod.mk.inj same).1, second] at first
    exact String.ne_of_lt below (Option.some.inj first).symm

theorem itemFound (distinct : (Members.keys doc.paths).Nodup) {path : String} {item : Value}
    (listed : (path, item) ∈ doc.paths) :
    ∃ table, doc.root.get? "paths" = some table ∧ table.get? path = some item := by
  unfold paths at listed distinct
  cases root : doc.root.get? "paths" with
  | none => simp [root] at listed
  | some table =>
    rw [root] at listed distinct
    cases table with
    | object ms => exact ⟨.object ms, rfl, Members.memberFound distinct listed⟩
    | _ => exact absurd listed List.not_mem_nil

theorem operationFound (distinct : (Members.keys doc.paths).Nodup) {e : Endpoint} (has : doc.Has e) :
    doc.operation e.path e.method.key = some e.operation := by
  obtain ⟨item, listed, found⟩ := has
  obtain ⟨table, root, place⟩ := itemFound distinct listed
  simp only [operation, descend, root, place, found, Option.bind_some]

structure SharesOut (doc : Document) (entities : List Entity) : Prop where
  ascending : entities.Pairwise fun a b => a.name < b.name
  inhabited : ∀ n ∈ entities, n.endpoints ≠ []
  exactly : ∀ n ∈ entities, ∀ e, e ∈ n.endpoints ↔ doc.Has e ∧ FirstSegment e.path n.name
  placed : ∀ e, doc.Has e → (∃ c ∈ e.path.toList, c ≠ '/') →
    ∃ n ∈ entities, FirstSegment e.path n.name ∧ e ∈ n.endpoints
  once : ∀ n ∈ entities, ∀ e ∈ n.endpoints,
    (entities.flatMap (·.endpoints)).filter (fun x => (x.path, x.method) = (e.path, e.method)) = [e]
  ordered : ∀ n ∈ entities, n.endpoints.Pairwise doc.Before
  detail : ∀ n ∈ entities, n.hasDetail = true ↔ ∃ e ∈ n.endpoints, "/detail".toList <:+: e.path.toList
  found : ∀ n ∈ entities, ∀ e ∈ n.endpoints, doc.operation e.path e.method.key = some e.operation

theorem sharesOut (distinct : (Members.keys doc.paths).Nodup) : doc.SharesOut doc.entities where
  ascending := entitiesAscending doc
  inhabited n inside := by
    obtain ⟨whole, e, there, named⟩ := entitiesMem.mp inside
    rw [whole]
    exact List.ne_nil_of_mem (entityMem.mpr ⟨endpointsExactly.mp there, named⟩)
  exactly n inside e := by
    rw [(entitiesMem.mp inside).1]
    exact entityMem
  placed e has named := by
    obtain ⟨name, first⟩ := firstSegmentSome.mpr named
    have listed : doc.entity name ∈ doc.entities := entitiesMem.mpr ⟨rfl, e, endpointsExactly.mpr has, first⟩
    exact ⟨doc.entity name, listed, first, entityMem.mpr ⟨has, first⟩⟩
  once n inside e there :=
    filterOne (fun x : Endpoint => (x.path, x.method)) (sharedApart distinct)
      (List.mem_flatMap.mpr ⟨n, inside, there⟩)
  ordered n inside := by
    rw [(entitiesMem.mp inside).1]
    exact entityOrdered distinct n.name
  detail n inside := by
    rw [(entitiesMem.mp inside).1]
    exact entityDetail n.name
  found n inside e there := by
    rw [(entitiesMem.mp inside).1] at there
    exact operationFound distinct (entityMem.mp there).1

theorem entitiesShareOut (doc : Document) (distinct : (Members.keys doc.paths).Nodup) :
    doc.SharesOut doc.entities := sharesOut distinct

theorem readSharesOut {text origin : String} (read : parse text origin = .ok doc) : doc.SharesOut doc.entities :=
  sharesOut (readPathsNodup read)

def oddPaths : Document :=
  ⟨.object [("paths", .object
    [("//user/detail", .object [("delete", .object []), ("get", .null)]),
     ("/", .object [("get", .object [])]),
     ("order", .object [("post", .object [])]),
     ("/user", .object [("put", .object []), ("patch", .object [])]),
     ("/order/lines", .array [])])]⟩

theorem oddPathsShared :
    (Members.keys oddPaths.paths).Nodup ∧ oddPaths.SharesOut oddPaths.entities ∧
      oddPaths.entities.map (fun n => (n.name, n.endpoints.map fun e => (e.path, e.method))) =
        [("order", [("order", .post)]),
         ("user", [("//user/detail", .get), ("//user/detail", .delete), ("/user", .put)])] :=
  ⟨by decide, entitiesShareOut oddPaths (by decide), by decide⟩

end Document
end ApiScreens
