import ApiScreens.Emission
import ApiScreens.Proofs.Module.Built
import ApiScreens.Proofs.Path.Location
import ApiScreens.Proofs.Path.Sibling

/-! Where the files of an emission are. Pages of different modules are in different directories and those of
one module differ in name; tab navigations share a directory and are named for the module key alone. -/
namespace ApiScreens
open ApiScreens.Path

namespace Solution

theorem printBuiltIn (i : Item) :
    ∃ snippet, i.print SortedMap.empty = .ok ⟨i, i.template.text, snippet⟩ := by
  have render (t : Template) : Overrides.render SortedMap.empty t = .ok t.text := rfl
  cases service : i.service with
  | none => exact ⟨none, by simp [Item.print, render, service, bind, Except.bind]⟩
  | some member =>
    obtain ⟨path, template⟩ := member
    exact ⟨some ⟨path, template.text⟩, by simp [Item.print, render, service, bind, Except.bind]⟩

theorem emittedFiles (s : Solution) (project solution : String) (options : WriteOptions) :
    (s.emit project SortedMap.empty options solution).files =
      (s.plan project solution).map fun i => ⟨i.path, i.template.text, options⟩ := by
  unfold emit Emission.of
  simp only
  induction s.plan project solution with
  | nil => rfl
  | cons i rest ih =>
    obtain ⟨snippet, printed⟩ := printBuiltIn i
    simpa [printed, Except.toOption] using ih

theorem emittedPaths (s : Solution) (project solution : String) (options : WriteOptions) :
    ((s.emit project SortedMap.empty options solution).files.map (·.path)) =
      (s.plan project solution).map (·.path) := by
  simp [emittedFiles, Function.comp_def]

end Solution

theorem fileComponent {name : String} (whole : '/' ∉ name.toList) : Component (name ++ ".tsx") :=
  componentOfMark (c := 't') (by simp [whole]) (by simp) (by decide)

theorem endingsApart {a b s t : String} (length : s.toList.length = t.toList.length)
    (differ : s ≠ t) : a ++ s ≠ b ++ t := by
  intro same
  have chars := congrArg String.toList same
  simp only [String.toList_append] at chars
  exact differ (String.toList_injective (List.append_inj' chars length).2)

section
variable (project solution : String)

def tabPath (key : String) : String :=
  Path.under project ["src/tabs", solution, Naming.tabNavigation key ++ ".tsx"]

def routesPath : String :=
  Path.under project ["src/routes", Naming.pascal solution ++ "Route.tsx"]

theorem Solution.routesItemPath (s : Solution) :
    (s.routesItem project solution).path = routesPath project solution := by
  simp only [Solution.routesItem, routesPath]

theorem Blueprint.itemPaths (b : Blueprint) (key : String) :
    (Solution.moduleItems project solution key b.build).map (·.path) =
      b.build.pageNames.map (Solution.pagePath project b.build) ++ [tabPath project solution key] := by
  have tabs : b.build.tabs.isEmpty = false := by simpa using b.buildTabs
  have fields : b.build.fieldApi = false := rfl
  have select : b.build.customSelect = none := rfl
  unfold Solution.moduleItems Module.pageNames
  rw [tabs, fields, select]
  cases b.build.createAction with
  | none => simp [Solution.tabItem, Solution.navigationItem, tabPath, Function.comp_def]
  | some a =>
    simp [Solution.tabItem, Solution.registerItem, Solution.navigationItem, tabPath, Function.comp_def]

variable {project solution} (base : Files.Location)

theorem sourceLocation {directory name : String} (relative : isAbsolute directory = false)
    (steps : Files.Tree.steps directory = ["src", name]) (component : Component name) :
    Disk.locationOf base (append project directory) = Disk.locationOf base project ++ ["src", name] := by
  rw [Disk.locationAppend base project relative, steps]
  simp [Disk.stepName (show Component "src" by decide), Disk.stepName component]

def pagesLocation (project solution : String) : Files.Location :=
  Disk.locationOf.step (Disk.locationOf base project ++ ["src", "pages"]) solution

theorem pagesDeep : pagesLocation base project solution ≠ [] := Disk.stepDeep (by simp) _

theorem Blueprint.pageLocation {b : Blueprint} (first : Segment b.solution)
    (second : Segment b.entity.name) {page : String} (whole : '/' ∉ page.toList) :
    Disk.locationOf base (Solution.pagePath project b.build page) =
      Disk.locationOf.step (pagesLocation base project b.solution) b.entity.name ++ [page ++ ".tsx"] := by
  unfold Solution.pagePath Path.under
  simp only [List.foldl_cons, List.foldl_nil]
  rw [Disk.locationBehind _ _ (fileComponent whole)]
  show Disk.locationOf base (append _ (b.solution ++ "/" ++ b.entity.name)) ++ _ = _
  rw [Disk.locationAppend _ _ (relativePair first _), stepsPair first second,
    sourceLocation base (by decide) (by decide) (show Component "pages" by decide)]
  rfl

theorem tabLocation (first : Segment solution) {key : String} (whole : '/' ∉ key.toList) :
    Disk.locationOf base (tabPath project solution key) =
      Disk.locationOf.step (Disk.locationOf base project ++ ["src", "tabs"]) solution ++
        [Naming.tabNavigation key ++ ".tsx"] := by
  unfold tabPath Path.under
  simp only [List.foldl_cons, List.foldl_nil]
  rw [Disk.locationBehind _ _ (fileComponent (Naming.tabNavigationWhole whole)),
    Disk.locationAppend _ _ (relativeOfWhole first.whole), stepsSegment first,
    sourceLocation base (by decide) (by decide) (show Component "tabs" by decide)]
  rfl

theorem routesLocation (first : Segment solution) :
    Disk.locationOf base (routesPath project solution) =
      Disk.locationOf base project ++ ["src", "routes"] ++ [Naming.pascal solution ++ "Route.tsx"] := by
  have component : Component (Naming.pascal solution ++ "Route.tsx") :=
    componentOfMark (c := 't') (by simp [Naming.pascalWhole first.whole]) (by simp) (by decide)
  unfold routesPath Path.under
  simp only [List.foldl_cons, List.foldl_nil]
  rw [Disk.locationBehind _ _ component,
    sourceLocation base (by decide) (by decide) (show Component "routes" by decide)]

end
end ApiScreens
