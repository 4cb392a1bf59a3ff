import ApiScreens.Module.Build
import ApiScreens.Module.Screens
import ApiScreens.Proofs.Entity
import ApiScreens.Proofs.Naming.Form

/-! Modules as they are built. Whatever the pattern of an entity is, its tabs differ in id and page and
leave room for the registration page, and the module opens at its default tab. -/
namespace ApiScreens

namespace Pattern

theorem tabsNonempty (p : Pattern) (analyze : Bool) : p.tabs analyze ≠ [] := by
  cases p <;> cases analyze <;> decide

theorem tabIds (p : Pattern) (analyze : Bool) :
    ((p.tabs analyze).map (·.id) ++ ["register"]).Nodup := by
  cases p <;> cases analyze <;> decide

theorem tabSuffixes (p : Pattern) (analyze : Bool) :
    ((p.tabs analyze).map (fun t => Blueprint.pageSuffix t.role) ++ ["RegisterPage"]).Nodup := by
  cases p <;> cases analyze <;> decide

end Pattern

def Module.pageNames (m : Module) : List String :=
  m.tabs.map (·.pageName) ++ (m.createAction.map (·.pageName)).toList

namespace Blueprint

theorem createKind {b : Blueprint} {a : Action} (made : b.createAction = some a) : a.kind = .create := by
  unfold createAction at made
  split at made <;> try contradiction
  obtain ⟨e, _, rfl⟩ := Option.map_eq_some_iff.mp made
  rfl

theorem buildCreate (b : Blueprint) : b.build.createAction = b.createAction := by
  cases made : b.createAction with
  | none => simp [Module.createAction, build, made]
  | some a => simp [Module.createAction, build, made, createKind made]

theorem buildEdit (b : Blueprint) : b.build.editAction = none := by
  cases made : b.createAction with
  | none => simp [Module.editAction, build, made]
  | some a => simp [Module.editAction, build, made, createKind made]

theorem buildTabs (b : Blueprint) : b.build.tabs ≠ [] := by
  simp [build, Pattern.tabsNonempty]

theorem buildRoutes (b : Blueprint) : b.build.hasRoutes = true := by
  have named : b.build.route ≠ "" := by simp [build, route]
  simp [Module.hasRoutes, named, b.buildTabs]

def suffixes (b : Blueprint) : List String :=
  (b.pattern.tabs b.heuristics.analyzeTab).map (fun t => pageSuffix t.role) ++
    (b.createAction.map fun _ => "RegisterPage").toList

theorem pageNamesSuffixes (b : Blueprint) :
    b.build.pageNames = b.suffixes.map (b.pageBase ++ ·) := by
  have register : (b.createAction.map (·.pageName)) =
      (b.createAction.map fun _ => b.pageBase ++ "RegisterPage") := by
    unfold createAction
    split
    · rfl
    · simp [Option.map_map, Function.comp_def]
  unfold Module.pageNames
  rw [buildCreate]
  simp [suffixes, register, build, tab, Function.comp_def, Option.toList_map]

theorem suffixesNodup (b : Blueprint) : b.suffixes.Nodup := by
  refine (b.pattern.tabSuffixes b.heuristics.analyzeTab).sublist ?_
  refine List.Sublist.append (List.Sublist.refl _) ?_
  cases b.createAction <;> simp

def pageEndings : List String := ["ListPage", "MasterDetailPage", "AnalyzePage", "RegisterPage"]

theorem suffixEnding (b : Blueprint) {s : String} (inside : s ∈ b.suffixes) : s ∈ pageEndings := by
  rcases List.mem_append.mp inside with tab | register
  · obtain ⟨t, _, rfl⟩ := List.mem_map.mp tab
    cases t.role <;> decide
  · obtain ⟨_, _, rfl⟩ := Option.map_eq_some_iff.mp (Option.mem_toList.mp register)
    decide

theorem suffixPage (b : Blueprint) {s : String} (inside : s ∈ b.suffixes) :
    ∃ kind : String, s = kind ++ "Page" ∧ '/' ∉ kind.toList := by
  have ending := b.suffixEnding inside
  simp only [pageEndings, List.mem_cons, List.not_mem_nil, or_false] at ending
  rcases ending with rfl | rfl | rfl | rfl
  · exact ⟨"List", by decide, by decide⟩
  · exact ⟨"MasterDetail", by decide, by decide⟩
  · exact ⟨"Analyze", by decide, by decide⟩
  · exact ⟨"Register", by decide, by decide⟩

end Blueprint

namespace Solution
open Naming

theorem moduleKeysNodup (entities : List Entity) : (moduleKeys entities).Nodup :=
  (uniqueAllFresh [] _).1

theorem moduleKeysLength (entities : List Entity) : (moduleKeys entities).length = entities.length := by
  simp [moduleKeys, uniqueAllLength]

theorem builtPerm (doc : Document) (h : Heuristics) (solution : String) (entities : List Entity) :
    (ofEntities doc h solution entities).modules.entries.Perm
      ((moduleKeys entities).zip (entities.map fun n => (Blueprint.mk doc h solution n).build)) := by
  refine SortedMap.ofListPerm ?_
  rw [List.map_fst_zip (by simp [moduleKeysLength])]
  exact moduleKeysNodup entities

theorem builtKeys (doc : Document) (h : Heuristics) (solution : String) (entities : List Entity) :
    (ofEntities doc h solution entities).modules.keys.Perm (moduleKeys entities) := by
  have permuted := (builtPerm doc h solution entities).map (·.1)
  rwa [List.map_fst_zip (by simp [moduleKeysLength])] at permuted

theorem builtModules (doc : Document) (h : Heuristics) (solution : String) (entities : List Entity) :
    (ofEntities doc h solution entities).modules.values.Perm
      (entities.map fun n => (Blueprint.mk doc h solution n).build) := by
  have permuted := (builtPerm doc h solution entities).map (·.2)
  rwa [List.map_snd_zip (by simp [moduleKeysLength])] at permuted

theorem builtEntry {doc : Document} {h : Heuristics} {solution key : String} {entities : List Entity}
    {m : Module} (inside : (key, m) ∈ (ofEntities doc h solution entities).modules.entries) :
    key ∈ moduleKeys entities ∧ ∃ n ∈ entities, m = (Blueprint.mk doc h solution n).build := by
  have zipped := (builtPerm doc h solution entities).mem_iff.mp inside
  obtain ⟨here, built⟩ := List.of_mem_zip zipped
  obtain ⟨n, listed, same⟩ := List.mem_map.mp built
  exact ⟨here, n, listed, same.symm⟩

theorem moduleKeyWhole {entities : List Entity} (whole : ∀ n ∈ entities, '/' ∉ n.name.toList)
    {key : String} (inside : key ∈ moduleKeys entities) : '/' ∉ key.toList := by
  obtain ⟨name, listed, form⟩ := uniqueAllForm inside
  obtain ⟨n, found, rfl⟩ := List.mem_map.mp listed
  have clear := camelWhole (whole n found)
  rcases form with rfl | ⟨count, rfl⟩
  · exact clear
  · exact numberedWhole clear count

end Solution
end ApiScreens
