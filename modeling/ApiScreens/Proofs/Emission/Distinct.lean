import ApiScreens.Proofs.Emission.Paths

/-! When the files of an emission are at different places. Pages always are; tab navigations are named for
the Pascal form of the module key, which different keys can share. -/
namespace ApiScreens
open ApiScreens.Path

def Solution.KeysApart (entities : List Entity) : Prop :=
  ((Solution.moduleKeys entities).map Naming.pascal).Nodup

instance (entities : List Entity) : Decidable (Solution.KeysApart entities) := by
  unfold Solution.KeysApart; infer_instance

section
variable {doc : Document} {h : Heuristics} {project solution : String} (base : Files.Location)

namespace Blueprint

theorem pageBaseWhole {b : Blueprint} (first : Segment b.solution) (second : Segment b.entity.name) :
    '/' ∉ b.pageBase.toList := by
  simp [pageBase, Naming.pageBase, Naming.pascalWhole first.whole, Naming.pascalWhole second.whole]

theorem pageSegment {b : Blueprint} (first : Segment b.solution) (second : Segment b.entity.name) {page : String}
    (listed : page ∈ b.build.pageNames) : Segment page := by
  rw [pageNamesSuffixes] at listed
  obtain ⟨s, suffix, rfl⟩ := List.mem_map.mp listed
  obtain ⟨kind, rfl, clear⟩ := b.suffixPage suffix
  exact ⟨by simp [pageBaseWhole first second, clear], by simp⟩

theorem pageLocations {b : Blueprint} (first : Segment b.solution) (second : Segment b.entity.name) :
    b.build.pageNames.map (fun page => Disk.locationOf base (Solution.pagePath project b.build page)) =
      b.suffixes.map fun s =>
        Disk.locationOf.step (pagesLocation base project b.solution) b.entity.name ++
          [b.pageBase ++ s ++ ".tsx"] := by
  rw [pageNamesSuffixes, List.map_map]
  refine List.map_congr_left fun s inside => ?_
  have listed : b.pageBase ++ s ∈ b.build.pageNames := pageNamesSuffixes b ▸ List.mem_map_of_mem inside
  simp only [Function.comp_apply]
  rw [pageLocation base first second (pageSegment first second listed).whole]

theorem pagesNodup {b : Blueprint} (first : Segment b.solution) (second : Segment b.entity.name) :
    (b.build.pageNames.map fun page =>
      Disk.locationOf base (Solution.pagePath project b.build page)).Nodup := by
  rw [pageLocations base first second]
  refine b.suffixesNodup.map fun s t same => ?_
  simpa using same

theorem pagesApart {b c : Blueprint} (one : b.solution = c.solution) (first : Segment b.solution)
    (second : Segment b.entity.name) (third : Segment c.entity.name)
    (differ : b.entity.name ≠ c.entity.name) :
    (b.build.pageNames.map fun page =>
        Disk.locationOf base (Solution.pagePath project b.build page)).Disjoint
      (c.build.pageNames.map fun page =>
        Disk.locationOf base (Solution.pagePath project c.build page)) := by
  rw [pageLocations base first second, pageLocations base (one ▸ first) third]
  intro l here there
  obtain ⟨s, _, rfl⟩ := List.mem_map.mp here
  obtain ⟨t, _, same⟩ := List.mem_map.mp there
  rw [← one] at same
  obtain ⟨directories, _⟩ := List.append_inj' same (by simp)
  exact differ (Disk.stepInjective (pagesDeep base) directories).symm

theorem pageEnding {b : Blueprint} (first : Segment b.solution) (second : Segment b.entity.name)
    {l : Files.Location}
    (inside : l ∈ b.build.pageNames.map fun page =>
      Disk.locationOf base (Solution.pagePath project b.build page)) :
    ∃ start, l.getLast? = some (start ++ "Page.tsx") := by
  rw [pageLocations base first second] at inside
  obtain ⟨s, listed, rfl⟩ := List.mem_map.mp inside
  obtain ⟨kind, rfl, _⟩ := b.suffixPage listed
  refine ⟨b.pageBase ++ kind, ?_⟩
  simp only [List.getLast?_append, List.getLast?_singleton, Option.some_or, Option.some.injEq]
  exact String.toList_injective (by simp)

end Blueprint

namespace Solution

theorem planPaths :
    ((ofDocument doc h solution).plan project solution).map (·.path) =
      (ofDocument doc h solution).modules.entries.flatMap (fun e =>
        e.2.pageNames.map (pagePath project e.2) ++ [tabPath project solution e.1]) ++
      [routesPath project solution] := by
  have items : ∀ e ∈ (ofDocument doc h solution).modules.entries,
      (moduleItems project solution e.1 e.2).map (·.path) =
        e.2.pageNames.map (pagePath project e.2) ++ [tabPath project solution e.1] := by
    rintro ⟨key, m⟩ inside
    obtain ⟨_, n, _, rfl⟩ := builtEntry inside
    exact Blueprint.itemPaths project solution _ key
  unfold plan
  rw [List.map_append, List.map_flatMap, List.flatMap_congr items, List.map_cons, routesItemPath,
    List.map_nil]

theorem planPerm :
    (((ofDocument doc h solution).plan project solution).map (·.path)).Perm
      ((ofDocument doc h solution).modules.entries.flatMap (fun e =>
          e.2.pageNames.map (pagePath project e.2)) ++
        (ofDocument doc h solution).modules.entries.map (fun e => tabPath project solution e.1) ++
        [routesPath project solution]) := by
  rw [planPaths]
  refine List.Perm.append_right _ ?_
  rw [List.map_eq_flatMap]
  exact (List.flatMap_append_perm _ _ _).symm

theorem entriesApart (doc : Document) (h : Heuristics) (solution : String) :
    (ofDocument doc h solution).modules.entries.Pairwise fun a b => a.2.path ≠ b.2.path := by
  have permuted := (builtModules doc h solution doc.entities).map (·.path)
  have distinct : ((doc.entities.map fun n => (Blueprint.mk doc h solution n).build).map
      (·.path)).Nodup := by
    have names := doc.entityNames ▸ doc.resourcesNodup
    rw [List.map_map]
    have paths := names.map (f := fun name => solution ++ "/" ++ name) fun a b same =>
      (String.append_right_inj _).mp same
    rwa [List.map_map] at paths
  have nodup := permuted.nodup_iff.mpr distinct
  rw [SortedMap.values, List.map_map] at nodup
  exact List.pairwise_map.mp nodup

theorem pagesNodup (first : Segment solution) :
    ((ofDocument doc h solution).modules.entries.flatMap fun e =>
      e.2.pageNames.map fun page => Disk.locationOf base (pagePath project e.2 page)).Nodup := by
  refine List.nodup_flatMap.mpr ⟨?_, ?_⟩
  · rintro ⟨key, m⟩ inside
    obtain ⟨_, n, listed, rfl⟩ := builtEntry inside
    exact Blueprint.pagesNodup base first (Document.entitySegment listed)
  · refine (entriesApart doc h solution).imp_of_mem fun {a b} left right differ => ?_
    obtain ⟨key, m⟩ := a
    obtain ⟨other, m'⟩ := b
    obtain ⟨_, n, listed, rfl⟩ := builtEntry left
    obtain ⟨_, n', listed', rfl⟩ := builtEntry right
    refine Blueprint.pagesApart base rfl first (Document.entitySegment listed)
      (Document.entitySegment listed') fun same => differ ?_
    have entity : n.name = n'.name := same
    simp [Blueprint.build, entity]

theorem tabNames (doc : Document) (h : Heuristics) (solution : String) :
    ((ofDocument doc h solution).modules.entries.map fun e => Naming.tabNavigation e.1).Nodup ↔
      KeysApart doc.entities := by
  have permuted := (builtKeys doc h solution doc.entities).map Naming.tabNavigation
  have ending : Function.Injective fun form : String => form ++ "TabNavigation" := fun a b same =>
    (String.append_left_inj _).mp same
  have forms := List.nodup_map_iff (l := (moduleKeys doc.entities).map Naming.pascal) ending
  rw [List.map_map] at forms
  rw [KeysApart, ← forms]
  rw [SortedMap.keys, List.map_map] at permuted
  exact permuted.nodup_iff

theorem tabEntryLocation (first : Segment solution) {e : String × Module}
    (inside : e ∈ (ofDocument doc h solution).modules.entries) :
    Disk.locationOf base (tabPath project solution e.1) =
      Disk.locationOf.step (Disk.locationOf base project ++ ["src", "tabs"]) solution ++
        [Naming.tabNavigation e.1 ++ ".tsx"] := by
  obtain ⟨key, m⟩ := e
  have whole := moduleKeyWhole (fun n listed => (Document.entitySegment listed).whole)
    (builtEntry inside).1
  exact tabLocation base first whole

theorem tabsNodup (first : Segment solution) (apart : KeysApart doc.entities) :
    ((ofDocument doc h solution).modules.entries.map fun e =>
      Disk.locationOf base (tabPath project solution e.1)).Nodup := by
  rw [List.map_congr_left fun e inside => tabEntryLocation base first inside]
  have names := ((tabNames doc h solution).mpr apart).map
    (f := fun name => Disk.locationOf.step (Disk.locationOf base project ++ ["src", "tabs"]) solution ++
      [name ++ ".tsx"]) fun a b same => by
    simpa using same
  rwa [List.map_map] at names

theorem pageEnds (first : Segment solution) {l : Files.Location}
    (inside : l ∈ (ofDocument doc h solution).modules.entries.flatMap fun e =>
      e.2.pageNames.map fun page => Disk.locationOf base (pagePath project e.2 page)) :
    ∃ start, l.getLast? = some (start ++ "Page.tsx") := by
  obtain ⟨⟨key, m⟩, listed, here⟩ := List.mem_flatMap.mp inside
  obtain ⟨_, n, found, rfl⟩ := builtEntry listed
  exact Blueprint.pageEnding base first (Document.entitySegment found) here

theorem tabEnds (first : Segment solution) {l : Files.Location}
    (inside : l ∈ (ofDocument doc h solution).modules.entries.map fun e =>
      Disk.locationOf base (tabPath project solution e.1)) :
    ∃ start, l.getLast? = some (start ++ "tion.tsx") := by
  obtain ⟨e, listed, rfl⟩ := List.mem_map.mp inside
  refine ⟨Naming.pascal e.1 ++ "TabNaviga", ?_⟩
  rw [tabEntryLocation base first listed]
  simp only [List.getLast?_append, List.getLast?_singleton, Option.some_or, Option.some.injEq]
  exact String.toList_injective (by simp [Naming.tabNavigation])

theorem tableEnds (first : Segment solution) :
    ∃ start, (Disk.locationOf base (routesPath project solution)).getLast? = some (start ++ "oute.tsx") := by
  refine ⟨Naming.pascal solution ++ "R", ?_⟩
  rw [routesLocation base first]
  simp only [List.getLast?_append, List.getLast?_singleton, Option.some_or, Option.some.injEq]
  exact String.toList_injective (by simp)

theorem locationsNodup (first : Segment solution) (apart : KeysApart doc.entities) :
    ((((ofDocument doc h solution).plan project solution).map (·.path)).map
      (Disk.locationOf base)).Nodup := by
  refine (planPerm.map (Disk.locationOf base)).nodup_iff.mpr ?_
  simp only [List.map_append, List.map_flatMap, List.map_map, List.map_cons, List.map_nil,
    Function.comp_def]
  -- the last component of a location tells which kind of file it belongs to
  refine List.nodup_append.mpr ⟨List.nodup_append.mpr ⟨pagesNodup base first,
    tabsNodup base first apart, ?_⟩, List.nodup_singleton _, ?_⟩
  · rintro l here k there rfl
    obtain ⟨a, page⟩ := pageEnds base first here
    obtain ⟨b, tab⟩ := tabEnds base first there
    rw [page] at tab
    exact endingsApart (by decide) (by decide) (Option.some.inj tab)
  · rintro l here k there rfl
    obtain ⟨c, table⟩ : ∃ start, l.getLast? = some (start ++ "oute.tsx") :=
      List.mem_singleton.mp there ▸ tableEnds base first
    rcases List.mem_append.mp here with inPages | inTabs
    · obtain ⟨a, page⟩ := pageEnds base first inPages
      rw [page] at table
      exact endingsApart (by decide) (by decide) (Option.some.inj table)
    · obtain ⟨b, tab⟩ := tabEnds base first inTabs
      rw [tab] at table
      exact endingsApart (by decide) (by decide) (Option.some.inj table)

theorem pathsApart
    (distinct : (((ofDocument doc h solution).plan project solution).map (·.path)).Nodup) :
    KeysApart doc.entities := by
  have split := List.nodup_append.mp (planPerm.nodup_iff.mp distinct)
  have tabs := (List.nodup_append.mp split.1).2.1
  refine (tabNames doc h solution).mp (List.Nodup.of_map (fun name =>
    Path.under project ["src/tabs", solution, name ++ ".tsx"]) ?_)
  simpa only [tabPath, List.map_map, Function.comp_def] using tabs

theorem filesDistinct (doc : Document) (h : Heuristics) (project : String) (options : WriteOptions)
    {solution : String} (named : solution ≠ "") (whole : '/' ∉ solution.toList) :
    let paths := ((ofDocument doc h solution).emit project SortedMap.empty options solution).files.map
      (·.path)
    (paths.Nodup ↔ KeysApart doc.entities) ∧
      ∀ base, (paths.map (Disk.locationOf base)).Nodup ↔ KeysApart doc.entities := by
  have first : Segment solution := ⟨whole, named⟩
  simp only [emittedPaths]
  refine ⟨⟨pathsApart, fun apart => (locationsNodup [] first apart).of_map _⟩, fun base => ?_⟩
  exact ⟨fun distinct => pathsApart (distinct.of_map _), locationsNodup base first⟩

def listings (names : List String) : Document :=
  ⟨.object [("paths", .object (names.map fun name => ("/" ++ name, .object [("get", .object [])])))]⟩

theorem ordersDistinct :
    let files := ((ofDocument (listings ["tax-invoice", "taxInvoice"]) {} "sales").emit "web"
      SortedMap.empty {} "sales").files
    (files.map (·.path)).Nodup := by
  refine (filesDistinct (listings ["tax-invoice", "taxInvoice"]) {} "web" {} (by decide) (by decide)).1.mpr ?_
  decide

theorem numberedKeyMeetsOther :
    let files := ((ofDocument (listings ["a-b", "aB", "aB1"]) {} "sales").emit "web" SortedMap.empty {}
      "sales").files
    ¬ (files.map (·.path)).Nodup := by
  simp only [emittedPaths]
  intro distinct
  exact absurd (pathsApart distinct) (by decide)

end Solution
end
end ApiScreens
