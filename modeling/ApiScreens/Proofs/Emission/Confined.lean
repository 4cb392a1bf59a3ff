import ApiScreens.Proofs.Emission.Distinct
import ApiScreens.Proofs.Emission.Isolation
import ApiScreens.Proofs.Path.Location

/-! Where the files of a built solution may be. A solution or a resource may be named with two dots and lead up again,
but never further than the directories of the sources led down, so that every file is inside the project. -/
namespace ApiScreens
open ApiScreens.Path Files

variable {project : String}

theorem behindSource {directory name file : String} (between : List String) (component : Component name)
    (relative : isAbsolute directory = false) (down : Tree.steps directory = ["src", name])
    (others : ∀ part ∈ between, isAbsolute part = false) (few : (between.flatMap Tree.steps).length ≤ 2)
    (whole : '/' ∉ file.toList) :
    Behind project (directory :: between ++ [file ++ ".tsx"])
      (under project (directory :: between ++ [file ++ ".tsx"])) := by
  have last : Component (file ++ ".tsx") := fileComponent whole
  refine behindUnder ?_ ?_
  · simp only [List.cons_append, List.forall_mem_cons, List.forall_mem_append, List.not_mem_nil]
    exact ⟨relative, others, relativeOfWhole last.whole, by simp⟩
  · have steps : (directory :: between ++ [file ++ ".tsx"]).flatMap Tree.steps =
        ["src", name] ++ (between.flatMap Tree.steps ++ [file ++ ".tsx"]) := by
      simp [down, stepsSegment last.toSegment]
    rw [steps]
    refine staysInsideBehind ?_ ?_
    · simpa using ⟨componentDescends (by decide), componentDescends component⟩
    · have ups : (between.flatMap Tree.steps).count ".." ≤ 2 := List.count_le_length.trans few
      simpa [List.count_append, last.notUp] using ups

theorem Blueprint.pageBehind {b : Blueprint} (first : Segment b.solution) (second : Segment b.entity.name)
    {page : String} (listed : page ∈ b.build.pageNames) :
    ∃ parts, Behind project parts (Solution.pagePath project b.build page) := by
  have path : b.build.path = b.solution ++ "/" ++ b.entity.name := rfl
  have component : Component "pages" := by decide
  refine ⟨_, behindSource [b.build.path] component (by decide) (by decide) ?_ ?_
    (pageSegment first second listed).whole⟩
  · simpa [path] using relativePair first b.entity.name
  · simp [path, stepsPair first second]

theorem tabBehind {solution key : String} (clear : '/' ∉ solution.toList) (whole : '/' ∉ key.toList) :
    ∃ parts, Behind project parts (tabPath project solution key) := by
  have component : Component "tabs" := by decide
  refine ⟨_, behindSource [solution] component (by decide) (by decide) ?_ ?_
    (Naming.tabNavigationWhole whole)⟩
  · simpa using relativeOfWhole clear
  · have few := stepsFew clear
    simp only [List.flatMap_cons, List.flatMap_nil, List.append_nil]
    omega

theorem routesBehind {solution : String} (clear : '/' ∉ solution.toList) :
    ∃ parts, Behind project parts (routesPath project solution) := by
  have component : Component "routes" := by decide
  have ending : Naming.pascal solution ++ "Route.tsx" = Naming.pascal solution ++ "Route" ++ ".tsx" :=
    String.toList_injective (by simp)
  have whole : '/' ∉ (Naming.pascal solution ++ "Route").toList := by simp [Naming.pascalWhole clear]
  rw [routesPath, ending]
  exact ⟨_, behindSource [] component (by decide) (by decide) (by simp) (by simp) whole⟩

namespace Solution

theorem planBehind {doc : Document} {h : Heuristics} {domain solution : String} (first : Segment domain)
    (clear : '/' ∉ solution.toList) {i : Item} (planned : i ∈ (ofDocument doc h domain).plan project solution) :
    ∃ parts, Behind project parts i.path := by
  rcases (planParts project solution _ i).mp planned with ⟨key, m, inside, part⟩ | rfl
  · obtain ⟨keyed, n, found, rfl⟩ := builtEntry inside
    have path := List.mem_map_of_mem (f := (·.path)) ((moduleParts project solution).mpr part)
    rw [Blueprint.itemPaths, List.mem_append, List.mem_map, List.mem_singleton] at path
    rcases path with ⟨page, listed, same⟩ | same
    · exact same ▸ Blueprint.pageBehind first (Document.entitySegment found) listed
    · exact same ▸ tabBehind clear (moduleKeyWhole (fun n found => (Document.entitySegment found).whole) keyed)
  · rw [routesItemPath]
    exact routesBehind clear

theorem filesConfined (doc : Document) (h : Heuristics) (project : String) (o : Overrides) (options : WriteOptions)
    {domain : String} (named : domain ≠ "") (whole : '/' ∉ domain.toList) {solution : String}
    (clear : '/' ∉ solution.toList) :
    ∀ f ∈ ((ofDocument doc h domain).emit project o options solution).files,
      (∃ parts, Behind project parts f.path) ∧
        ∀ base, Disk.locationOf base project <+: Disk.locationOf base f.path := by
  intro f emitted
  obtain ⟨i, planned, path, _⟩ := emittedItem emitted
  obtain ⟨parts, behind⟩ := planBehind ⟨whole, named⟩ clear planned
  rw [path]
  exact ⟨⟨parts, behind⟩, locationBelow behind⟩

theorem upwardConfined :
    let files := ((ofDocument (listings [".."]) {} "..").emit "web" SortedMap.empty {} "..").files
    files.map (Disk.locationOf ["home"] ·.path) =
        [["home", "web", "....ListPage.tsx"], ["home", "web", "src", "..TabNavigation.tsx"],
          ["home", "web", "src", "routes", "..Route.tsx"]] ∧
      ∀ f ∈ files, (∃ parts, Behind "web" parts f.path) ∧
        ∀ base, Disk.locationOf base "web" <+: Disk.locationOf base f.path :=
  ⟨by decide +kernel, filesConfined (listings [".."]) {} "web" SortedMap.empty {} (by decide) (by decide) (by decide)⟩

end Solution
end ApiScreens
