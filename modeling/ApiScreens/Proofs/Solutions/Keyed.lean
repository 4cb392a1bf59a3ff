import ApiScreens.Proofs.Solutions.Reload

/-! Which files of a directory are loaded. A solution is known by the stem of its file in camel case, so that files
with different names may hold solutions of one name. All of them are read, and the last one counts. -/
namespace ApiScreens
open Files (Tree Location)
open Files.Tree ApiScreens.Path

namespace SortedMap
variable {α : Type} (pairs : List (String × α))

theorem sizeOfList : (ofList pairs).size = (pairs.map (·.1)).dedup.length := by
  have permuted : (ofList pairs).keys.Perm (pairs.map (·.1)).dedup := by
    refine (List.perm_ext_iff_of_nodup (keysNodup _) (List.nodup_dedup _)).mpr fun key => ?_
    rw [← hasKey, hasOfList, List.mem_dedup]
  rw [← permuted.length_eq, keys, List.length_map, size]

theorem wholeOfList : ((ofList pairs).size = pairs.length ∧ ∀ p ∈ pairs, p.2 ∈ (ofList pairs).values) ↔
    (pairs.map (·.1)).Nodup := by
  rw [sizeOfList]
  constructor
  · rintro ⟨size, _⟩
    have same := (List.dedup_sublist _).eq_of_length (size.trans (List.length_map Prod.fst).symm)
    exact same ▸ List.nodup_dedup _
  · intro distinct
    refine ⟨by rw [distinct.dedup, List.length_map], fun p inside => ?_⟩
    exact List.mem_map_of_mem ((entryOfList distinct).mpr inside)

end SortedMap

namespace Solutions

structure Source where
  file : String
  solution : Solution
  deriving DecidableEq

def Source.name (f : Source) : String := Naming.camel (splitName f.file).1

def Source.candidate (directory : String) (f : Source) : Candidate :=
  ⟨append directory f.file, f.name, .ok f.solution⟩

def source? (t : Tree) (k : Location) (file : String) : Option Source :=
  if (splitName file).2 = some "json" then
    match t.fileAt (k ++ [file]) with
    | some (.text text) => (Solution.parse text).map (Source.mk file)
    | _ => none
  else none

def sources (t : Tree) (k : Location) : List Source := (t.namesAt k).filterMap (source? t k)

variable {t : Tree} {directory file : String} {k : Location}

theorem sourceExactly {f : Source} : source? t k file = some f ↔ f.file = file ∧ (splitName file).2 = some "json" ∧
    ∃ text, t.fileAt (k ++ [file]) = some (.text text) ∧ Solution.parse text = some f.solution := by
  obtain ⟨own, solution⟩ := f
  unfold source?
  by_cases json : (splitName file).2 = some "json"
  · rw [if_pos json]
    cases t.fileAt (k ++ [file]) with
    | none => simp
    | some c => cases c <;> simp [json, Option.map_eq_some_iff, eq_comm, and_comm]
  · simp [json]

theorem heldSource (around : t.follow directory = .ok (.present k .directory)) (component : Component file)
    (clear : Char.ofNat 0 ∉ file.toList) :
    held t directory file = (source? t k file).map fun f => (f.name, f.solution) := by
  refine Option.ext fun p => ?_
  obtain ⟨name, solution⟩ := p
  simp only [heldExactly around component, Option.map_eq_some_iff, sourceExactly, Prod.mk.injEq]
  constructor
  · rintro ⟨json, named, _, text, there, parsed⟩
    exact ⟨⟨file, solution⟩, ⟨rfl, json, text, there, parsed⟩, named.symm, rfl⟩
  · rintro ⟨f, ⟨rfl, json, text, there, parsed⟩, named, rfl⟩
    exact ⟨json, named.symm, clear, text, there, parsed⟩

theorem candidateSource (around : t.follow directory = .ok (.present k .directory)) (component : Component file)
    (clear : Char.ofNat 0 ∉ file.toList) {f : Source} (found : source? t k file = some f) :
    candidate t directory file = some (f.candidate directory) := by
  have whole := heldSource around component clear
  rw [found, Option.map_some] at whole
  obtain ⟨name, json, content⟩ := heldJson whole
  dsimp only at name content
  obtain ⟨stem, cut⟩ : ∃ stem, splitName file = (stem, some "json") := ⟨_, Prod.ext rfl json⟩
  rw [cut] at name
  simp only [candidate, Source.candidate, (sourceExactly.mp found).1, cut, name, content]

structure Loads (files : List Source) (loaded : Solutions) : Prop where
  last : ∀ name, loaded.get? name = (files.findRev? (·.name = name)).map (·.solution)
  size : loaded.size = (files.map (·.name)).dedup.length
  lossless : (loaded.size = files.length ∧ ∀ f ∈ files, f.solution ∈ loaded.values) ↔ (files.map (·.name)).Nodup

theorem loadsFiles (files : List Source) : Loads files (.ofList (files.map fun f => (f.name, f.solution))) := by
  have names : (files.map fun f => (f.name, f.solution)).map (·.1) = files.map (·.name) := by
    simp only [List.map_map, Function.comp_def]
  refine ⟨fun name => ?_, ?_, ?_⟩
  · simp only [SortedMap.getOfList, List.findRev?_eq_find?_reverse, ← List.map_reverse, List.find?_map,
      Option.map_map, Function.comp_def]
  · rw [SortedMap.sizeOfList, names]
  · have whole := SortedMap.wholeOfList (files.map fun f => (f.name, f.solution))
    rw [names, List.length_map, List.forall_mem_map] at whole
    exact whole

end Solutions

namespace Workspace
open Solutions

theorem loadSolutionsResult (w : Workspace) (directory : String) :
    (w.loadSolutions directory).2 = ofDirectory w.tree directory := by
  unfold loadSolutions ofDirectory
  cases candidates w.tree directory <;> rfl

theorem loadedSaid (w : Workspace) {directory : String} {k : Location}
    (around : w.tree.follow directory = .ok (.present k .directory))
    (spelled : ∀ file ∈ w.tree.namesAt k, Component file ∧ Char.ofNat 0 ∉ file.toList) {f : Source}
    (inside : f ∈ sources w.tree k) : (f.candidate directory).line ∈ (w.loadSolutions directory).1.printed := by
  obtain ⟨file, listed, found⟩ := List.mem_filterMap.mp inside
  obtain ⟨component, clear⟩ := spelled file listed
  have offered := candidateSource around component clear found
  have files : candidates w.tree directory = .ok ((w.tree.namesAt k).filterMap (candidate w.tree directory)) := by
    rw [candidates, Tree.names, locateDirectory around]
  rw [loadSolutions, files]
  exact List.mem_append_right _ (List.mem_map_of_mem (List.mem_filterMap.mpr ⟨file, listed, offered⟩))

theorem filesLoaded (w : Workspace) {directory : String} {k : Location}
    (around : w.tree.follow directory = .ok (.present k .directory))
    (spelled : ∀ file ∈ w.tree.namesAt k, Component file ∧ Char.ofNat 0 ∉ file.toList) :
    ∃ loaded, (w.loadSolutions directory).2 = .ok loaded ∧ Loads (sources w.tree k) loaded ∧
      ∀ f ∈ sources w.tree k, (f.candidate directory).line ∈ (w.loadSolutions directory).1.printed := by
  have files : (w.tree.namesAt k).filterMap (held w.tree directory) =
      (sources w.tree k).map fun f => (f.name, f.solution) := by
    rw [sources, List.map_filterMap]
    refine List.filterMap_congr fun file inside => ?_
    obtain ⟨component, clear⟩ := spelled file inside
    exact heldSource around component clear
  refine ⟨_, (w.loadSolutionsResult directory).trans (Generation.directoryLoads around), ?_, fun f inside => ?_⟩
  · rw [files]
    exact loadsFiles _
  · exact w.loadedSaid around spelled inside

def configsNamed (first second : String) : Workspace :=
  let order := "\x7b\"name\": \"Orders\", \"path\": \"order\", \"route\": \"/order\"\x7d"
  { tree := Tree.ofList ["web"]
      [(["web"], .directory), (["web", "configs"], .directory), (["web", "configs", second], .file (.text "\x7b\x7d")),
        (["web", "configs", first], .file (.text ("\x7b\"modules\": \x7b\"order\": " ++ order ++ "\x7d\x7d")))] }

theorem hyphenatedFileReplaced :
    let w := configsNamed "a-b.json" "aB.json"
    let files := sources w.tree ["web", "configs"]
    ∃ loaded, (w.loadSolutions "configs").2 = .ok loaded ∧ files.map (·.file) = ["a-b.json", "aB.json"] ∧
      ¬(loaded.size = files.length ∧ ∀ f ∈ files, f.solution ∈ loaded.values) :=
  ⟨.ofList [("aB", ⟨.empty⟩)], by decide +kernel, by decide +kernel, by decide +kernel⟩

theorem plainFilesLoaded :
    let w := configsNamed "item.json" "sales.json"
    w.tree.follow "configs" = .ok (.present ["web", "configs"] .directory) ∧
      (∀ file ∈ w.tree.namesAt ["web", "configs"], Component file ∧ Char.ofNat 0 ∉ file.toList) ∧
      (sources w.tree ["web", "configs"]).map (·.name) = ["item", "sales"] ∧
      ∃ loaded, (w.loadSolutions "configs").2 = .ok loaded ∧ loaded.size = 2 ∧
        ∀ f ∈ sources w.tree ["web", "configs"], f.solution ∈ loaded.values := by
  intro w
  have around : w.tree.follow "configs" = .ok (.present ["web", "configs"] .directory) := by decide +kernel
  have spelled : ∀ file ∈ w.tree.namesAt ["web", "configs"], Component file ∧ Char.ofNat 0 ∉ file.toList := by
    decide +kernel
  have named : (sources w.tree ["web", "configs"]).map (·.name) = ["item", "sales"] := by decide +kernel
  obtain ⟨loaded, load, loads, _⟩ := w.filesLoaded around spelled
  have distinct : ((sources w.tree ["web", "configs"]).map (·.name)).Nodup := named ▸ by decide
  obtain ⟨size, kept⟩ := loads.lossless.mpr distinct
  have count : (sources w.tree ["web", "configs"]).length = 2 := by decide +kernel
  exact ⟨around, spelled, named, loaded, load, size.trans count, kept⟩

end Workspace
end ApiScreens
