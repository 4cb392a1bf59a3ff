import ApiScreens.Naming
import ApiScreens.Proofs.Json.Outline
import ApiScreens.Proofs.Module.RoundTrip
import ApiScreens.Proofs.SortedMap
import ApiScreens.Solutions.Merged

/-! What the object of all solutions holds. Each solution is under its name and can be read back from there. The list
of names and the description of templates are in the same object, and give way to solutions of their names. -/
namespace ApiScreens
open Json (Value Members)

theorem Json.Members.keyFound {ms : Members} {key : String} : key ∈ ms.keys ↔ ms.get? key ≠ none := by
  rw [get?, ne_eq, List.lookup_eq_none_iff]
  simp [keys]

namespace Solutions

def ofMember (m : String × Value) : Option (String × Solution) :=
  if m.2.isObject ∧ m.2 ≠ templates then (Solution.ofJson m.2).map (m.1, ·) else none

def ofMerged (ms : Members) : Solutions := .ofList (ms.filterMap ofMember)

theorem memberName {m : String × Value} {p : String × Solution} (read : ofMember m = some p) : p.1 = m.1 := by
  unfold ofMember at read
  split at read
  · obtain ⟨solution, _, rfl⟩ := Option.map_eq_some_iff.mp read
    rfl
  · contradiction

theorem solutionMember (name : String) (solution : Solution) :
    ofMember (name, solution.toJson) = some (name, solution) := by
  have apart : solution.toJson.isObject ∧ solution.toJson ≠ templates := by
    refine ⟨rfl, fun same => ?_⟩
    simp [Solution.toJson, templates] at same
  rw [ofMember, if_pos apart, Solution.ofJson, Solution.readJson, Option.map_some]

variable (s : Solutions)

def reserved : Members := [("solutions", .array (s.keys.map .string)), ("templates", templates)]

theorem reservedMember {key : String} {v : Value} (found : s.reserved.get? key = some v) :
    ofMember (key, v) = none := by
  rw [reserved, Members.getCons, Members.getCons] at found
  split at found
  · cases found
    exact if_neg fun listed => absurd listed.1 (by simp [Value.isObject, Value.members?])
  · split at found
    · cases found
      exact if_neg fun described => described.2 rfl
    · contradiction

theorem getMerged (key : String) : s.merged.get? key = ((s.get? key).map Solution.toJson).or (s.reserved.get? key) := by
  have general (es : List (String × Solution)) (distinct : (es.map (·.1)).Nodup) (ms : Members) :
      (es.foldl (fun ms e => Members.set ms e.1 e.2.toJson) ms).get? key =
        ((es.lookup key).map Solution.toJson).or (ms.get? key) := by
    induction es generalizing ms with
    | nil => rfl
    | cons e rest ih =>
      obtain ⟨name, solution⟩ := e
      obtain ⟨fresh, more⟩ := List.nodup_cons.mp distinct
      rw [List.foldl_cons, ih more, Members.getSet, List.lookup_cons]
      by_cases same : key = name
      · subst same
        have later : rest.lookup key = none := by
          refine List.lookup_eq_none_iff.mpr fun p inside => bne_iff_ne.mpr fun again => fresh ?_
          exact List.mem_map.mpr ⟨p, inside, again.symm⟩
        simp [later]
      · have other : (key == name) = false := by simpa using same
        simp [same, other]
  exact general s.entries (SortedMap.keysNodup s) s.reserved

theorem mergedKeys {key : String} : key ∈ s.merged.keys ↔ key = "solutions" ∨ key = "templates" ∨ s.has key := by
  rw [Members.keyFound, getMerged, SortedMap.has]
  cases s.get? key with
  | none =>
    rw [Option.map_none, Option.none_or, ← Members.keyFound]
    simp [reserved, Members.keys]
  | some solution => simp

theorem mergedNodup : s.merged.keys.Nodup := by
  have general (es : List (String × Solution)) (ms : Members) (distinct : ms.keys.Nodup) :
      (es.foldl (fun ms e => Members.set ms e.1 e.2.toJson) ms).keys.Nodup := by
    induction es generalizing ms with
    | nil => exact distinct
    | cons e rest ih => exact ih _ (Members.setNodup e.1 e.2.toJson distinct)
  exact general s.entries s.reserved (by simp [reserved, Members.keys])

theorem ofMergedSame : ofMerged s.merged = s := by
  have distinct : ((s.merged.filterMap ofMember).map (·.1)).Nodup := by
    refine List.pairwise_map.mpr (List.pairwise_filterMap.mpr ?_)
    refine (List.pairwise_map.mp s.mergedNodup).imp fun differs p here q there => ?_
    rwa [memberName here, memberName there]
  refine SortedMap.entriesExt fun e => ?_
  rw [ofMerged, SortedMap.entryOfList distinct, List.mem_filterMap]
  constructor
  · rintro ⟨⟨name, v⟩, inside, read⟩
    have found := Members.memberFound s.mergedNodup inside
    rw [getMerged] at found
    cases config : s.get? name with
    | none =>
      rw [config, Option.map_none, Option.none_or] at found
      rw [s.reservedMember found] at read
      contradiction
    | some solution =>
      rw [config, Option.map_some, Option.some_or] at found
      cases found
      rw [solutionMember] at read
      cases read
      exact SortedMap.entryOfGet.mp config
  · intro inside
    refine ⟨(e.1, e.2.toJson), Members.memberGet ?_, solutionMember e.1 e.2⟩
    rw [getMerged, SortedMap.entryOfGet.mpr inside, Option.map_some, Option.some_or]

structure Merged (s : Solutions) (ms : Members) : Prop where
  solutions : ∀ name solution, s.get? name = some solution → ms.get? name = some solution.toJson
  keys : ∀ key, key ∈ ms.keys ↔ key = "solutions" ∨ key = "templates" ∨ s.has key
  once : ms.keys.Nodup
  listed : ms.get? "solutions" = some (.array (s.keys.map .string)) ↔ ¬s.has "solutions"
  described : ms.get? "templates" = some templates ↔ ¬s.has "templates"
  back : ofMerged ms = s

theorem mergedKeeps : Merged s s.merged where
  solutions name solution found := by rw [getMerged, found, Option.map_some, Option.some_or]
  keys _ := s.mergedKeys
  once := s.mergedNodup
  listed := by
    rw [getMerged, SortedMap.has]
    cases s.get? "solutions" <;> simp [reserved, Members.getCons, Solution.toJson]
  described := by
    rw [getMerged, SortedMap.has]
    cases s.get? "templates" <;> simp [reserved, Members.getCons, Solution.toJson, templates]
  back := s.ofMergedSame

theorem reservedNamesTaken :
    let s : Solutions := .ofList (["solutions", "templates"].map fun stem => (Naming.camel stem, ⟨.empty⟩))
    s.merged.get? "solutions" ≠ some (.array (s.keys.map .string)) ∧ s.merged.get? "templates" ≠ some templates := by
  decide

end Solutions
end ApiScreens
