import ApiScreens.Proofs.Emission.Distinct

/-! Emissions are closed under navigation. What a tab, a menu entry or a button leads to is a route of the
same emission, and what a file imports is declared by a file of the same emission. -/
namespace ApiScreens
open ApiScreens.Path Page

namespace Module

theorem distinctMem {names : List String} {name : String} : name ∈ distinct names ↔ name ∈ names := by
  suffices general : ∀ seen : List String,
      name ∈ names.foldl (fun seen n => if n ∈ seen then seen else seen ++ [n]) seen ↔
        name ∈ seen ∨ name ∈ names by
    simpa [distinct] using general []
  induction names with
  | nil => simp
  | cons n rest ih =>
    intro seen
    rw [List.foldl_cons, ih, List.mem_cons]
    split
    · rename_i old
      constructor
      · rintro (here | later)
        · exact .inl here
        · exact .inr (.inr later)
      · rintro (here | rfl | later)
        · exact .inl here
        · exact .inl old
        · exact .inr later
    · simp [or_assoc]

theorem withoutRunsMem {names : List String} {name : String} (inside : name ∈ withoutRuns names) :
    name ∈ names := by
  induction names using withoutRuns.induct with
  | case1 a rest ih =>
    rw [withoutRuns, if_pos rfl] at inside
    exact List.mem_cons_of_mem _ (ih inside)
  | case2 a b rest differ ih =>
    rw [withoutRuns, if_neg differ] at inside
    rcases List.mem_cons.mp inside with rfl | later
    · exact List.mem_cons_self
    · exact List.mem_cons_of_mem _ (ih later)
  | case3 names short =>
    rw [withoutRuns] at inside
    · exact inside
    · exact short

end Module

structure Module.Reaches (m : Module) (block : RouteBlock) (nav : TabNavigation) : Prop where
  tabs : ∀ t ∈ m.tabs, ∃ child ∈ block.children, t.path = block.path ++ "/" ++ child.path
  items : ∀ item ∈ nav.items, ∃ child ∈ block.children, item.target = block.path ++ "/" ++ child.path
  menu : ∃ menu tab, m.menu = some menu ∧ m.defaultTab = some tab ∧ menu.target = tab.path
  register : ∀ a, m.createAction = some a → a.mode = .navigation →
    nav.registerMode = .navigation ∧ nav.registerPath = block.path ++ "/register" ∧
      ⟨"register", "<" ++ a.pageName ++ " />"⟩ ∈ block.children

namespace Blueprint
variable (b : Blueprint) (key : String)

theorem tabPath {t : Tab} (inside : t ∈ b.build.tabs) : t.path = b.route ++ "/" ++ t.id := by
  obtain ⟨template, _, rfl⟩ := List.mem_map.mp inside
  rfl

theorem createPath {a : Action} (made : b.createAction = some a) (mode : a.mode = .navigation) :
    a.path = some (b.route ++ "/register") := by
  unfold createAction at made
  split at made <;> try contradiction
  obtain ⟨e, _, rfl⟩ := Option.map_eq_some_iff.mp made
  cases detail : b.pattern.isMasterDetail with
  | true => simp
  | false => simp [detail] at mode

theorem defaultTab : ∃ tab, b.build.defaultTab = some tab ∧ b.menu.target = tab.path := by
  have target : b.menu.target = b.route ++ "/" ++ b.landing := rfl
  have tabs : b.build.tabs = (b.pattern.tabs b.heuristics.analyzeTab).map b.tab := rfl
  unfold Module.defaultTab
  rw [target, tabs, landing]
  cases b.pattern <;> cases b.heuristics.analyzeTab <;> exact ⟨_, rfl, rfl⟩

theorem tabChild {t : Tab} (inside : t ∈ b.build.tabs) :
    ⟨t.id, "<" ++ Naming.tabNavigation key ++ " activetab=\"" ++ t.id ++ "\" />"⟩ ∈
      (b.build.routeBlock key).children :=
  List.mem_append_left _ (List.mem_map.mpr ⟨t, inside, rfl⟩)

theorem actionRoutes : b.build.actionRoutes =
    ((Module.navigated b.createAction).map (("register", ·))).toList := by
  have none : Module.navigated (Option.none : Option Action) = Option.none := rfl
  simp [Module.actionRoutes, buildCreate, buildEdit, none]

theorem childPaths : ((b.build.routeBlock key).children.map (·.path)).Nodup := by
  have ids := b.pattern.tabIds b.heuristics.analyzeTab
  have tabs : b.build.tabs.map (·.id) = (b.pattern.tabs b.heuristics.analyzeTab).map (·.id) := by
    simp [build, tab, Function.comp_def]
  refine ids.sublist ?_
  unfold Module.routeBlock
  simp only [List.map_append, List.map_map, Function.comp_def, actionRoutes, tabs]
  refine List.Sublist.append (List.Sublist.refl _) ?_
  cases Module.navigated b.createAction <;> simp

theorem buildReaches {nav : TabNavigation} (data : b.build.navigation key = .tabNavigation nav) :
    b.build.Reaches (b.build.routeBlock key) nav := by
  have path : (b.build.routeBlock key).path = b.route := rfl
  have covered : ∀ t ∈ b.build.tabs, ∃ child ∈ (b.build.routeBlock key).children,
      t.path = (b.build.routeBlock key).path ++ "/" ++ child.path := by
    intro t inside
    exact ⟨_, b.tabChild key inside, by rw [b.tabPath inside, path]⟩
  simp only [Module.navigation, Template.tabNavigation.injEq] at data
  subst data
  refine ⟨covered, fun item inside => ?_, ?_, fun a made mode => ?_⟩
  · obtain ⟨t, listed, rfl⟩ := List.mem_map.mp inside
    exact covered t listed
  · obtain ⟨tab, here, same⟩ := b.defaultTab
    exact ⟨b.menu, tab, rfl, here, same⟩
  · rw [buildCreate] at made
    have target := b.createPath made mode
    refine ⟨?_, ?_, ?_⟩
    · simp [buildCreate, made, Module.registerMode, mode]
    · simp [buildCreate, made, Module.registerPath, mode, target, path]
    · refine List.mem_append_right _ (List.mem_map.mpr ⟨("register", a.pageName), ?_, rfl⟩)
      rw [actionRoutes, made]
      simp [Module.navigated, mode]

end Blueprint

namespace Solution
variable {doc : Document} {h : Heuristics} {project solution key : String} {m : Module}

theorem stemFile {q name : String} (whole : '/' ∉ name.toList) (named : name ≠ "") :
    Path.stem (append q (name ++ ".tsx")) = some name := by
  have shape : name ++ ".tsx" = name ++ "." ++ "tsx" := String.toList_injective (by simp)
  have component : Component (name ++ "." ++ "tsx") := shape ▸ fileComponent whole
  rw [shape]
  exact stemAppend named (by decide) component

theorem pageStem (first : Segment solution)
    (inside : (key, m) ∈ (ofDocument doc h solution).modules.entries) {page : String}
    (listed : page ∈ m.pageNames) : Path.stem (pagePath project m page) = some page := by
  obtain ⟨_, n, found, rfl⟩ := builtEntry inside
  have plain : Segment page := Blueprint.pageSegment first (Document.entitySegment found) listed
  simp only [pagePath, Path.under, List.foldl_cons, List.foldl_nil]
  exact stemFile plain.whole plain.nonempty

theorem tabStem (inside : (key, m) ∈ (ofDocument doc h solution).modules.entries) :
    Path.stem (tabPath project solution key) = some (Naming.tabNavigation key) := by
  have whole := moduleKeyWhole (fun n listed => (Document.entitySegment listed).whole)
    (builtEntry inside).1
  simp only [tabPath, Path.under, List.foldl_cons, List.foldl_nil]
  exact stemFile (Naming.tabNavigationWhole whole) (by simp [Naming.tabNavigation])

theorem emittedAt {s : Solution} {options : WriteOptions} {p : String}
    (planned : p ∈ (s.plan project solution).map (·.path)) :
    ∃ f ∈ (s.emit project SortedMap.empty options solution).files, f.path = p := by
  rw [← emittedPaths s project solution options] at planned
  exact List.mem_map.mp planned

theorem pageEmitted {options : WriteOptions} (first : Segment solution)
    (inside : (key, m) ∈ (ofDocument doc h solution).modules.entries) {page : String}
    (listed : page ∈ m.pageNames) :
    ∃ f ∈ ((ofDocument doc h solution).emit project SortedMap.empty options solution).files,
      Path.stem f.path = some page := by
  have planned : pagePath project m page ∈
      ((ofDocument doc h solution).plan project solution).map (·.path) := by
    rw [planPaths]
    refine List.mem_append_left _ (List.mem_flatMap.mpr ⟨(key, m), inside, ?_⟩)
    exact List.mem_append_left _ (List.mem_map.mpr ⟨page, listed, rfl⟩)
  obtain ⟨f, emitted, same⟩ := emittedAt planned
  exact ⟨f, emitted, same ▸ pageStem first inside listed⟩

theorem tabEmitted {options : WriteOptions}
    (inside : (key, m) ∈ (ofDocument doc h solution).modules.entries) :
    ∃ f ∈ ((ofDocument doc h solution).emit project SortedMap.empty options solution).files,
      Path.stem f.path = some (Naming.tabNavigation key) := by
  have planned : tabPath project solution key ∈
      ((ofDocument doc h solution).plan project solution).map (·.path) := by
    rw [planPaths]
    refine List.mem_append_left _ (List.mem_flatMap.mpr ⟨(key, m), inside, ?_⟩)
    exact List.mem_append_right _ (List.mem_singleton.mpr rfl)
  obtain ⟨f, emitted, same⟩ := emittedAt planned
  exact ⟨f, emitted, same ▸ tabStem inside⟩

theorem routedBuilt : (ofDocument doc h solution).routed = (ofDocument doc h solution).modules.entries := by
  refine List.filter_eq_self.mpr ?_
  rintro ⟨key, m⟩ inside
  obtain ⟨_, n, _, rfl⟩ := builtEntry inside
  exact Blueprint.buildRoutes _

theorem routeBlocks : ((ofDocument doc h solution).routes solution).routes =
    (ofDocument doc h solution).modules.entries.map fun e => e.2.routeBlock e.1 := by
  simp [routes, routedBuilt]

theorem routePaths : (((ofDocument doc h solution).routes solution).routes.map (·.path)).Nodup := by
  rw [routeBlocks, List.map_map, List.Nodup, List.pairwise_map]
  refine (entriesApart doc h solution).imp_of_mem fun {a b} left right differ same => differ ?_
  obtain ⟨key, m⟩ := a
  obtain ⟨other, m'⟩ := b
  obtain ⟨_, n, _, rfl⟩ := builtEntry left
  obtain ⟨_, n', _, rfl⟩ := builtEntry right
  have route : "/" ++ solution ++ "/" ++ n.name = "/" ++ solution ++ "/" ++ n'.name := same
  have entity : n.name = n'.name := (String.append_right_inj _).mp route
  simp [Blueprint.build, entity]

theorem navigationPages {nav : TabNavigation} (data : m.navigation key = .tabNavigation nav)
    {page : String} (imported : page ∈ nav.pageImports) : page ∈ m.pageNames := by
  simp only [Module.navigation, Template.tabNavigation.injEq] at data
  subst data
  rcases List.mem_append.mp (Module.withoutRunsMem imported) with tab | dialog
  · refine List.mem_append_left _ ?_
    simpa [Module.tabItems, Function.comp_def] using tab
  · refine List.mem_append_right _ ?_
    cases made : m.createAction with
    | none => simp [made, Module.dialogPage] at dialog
    | some a =>
      by_cases mode : a.mode = .modal
      · simpa [made, Module.dialogPage, mode] using dialog
      · simp [made, Module.dialogPage, mode] at dialog

theorem tablePages {page : String}
    (imported : page ∈ ((ofDocument doc h solution).routes solution).pageImports) :
    ∃ key m, (key, m) ∈ (ofDocument doc h solution).modules.entries ∧ page ∈ m.pageNames := by
  simp only [routes, Module.distinctMem, routedBuilt] at imported
  obtain ⟨⟨key, m⟩, inside, route⟩ := List.mem_flatMap.mp imported
  refine ⟨key, m, inside, List.mem_append_right _ ?_⟩
  obtain ⟨_, n, _, rfl⟩ := builtEntry inside
  simp only [Blueprint.actionRoutes] at route
  rw [Blueprint.buildCreate]
  cases made : (Blueprint.mk doc h solution n).createAction with
  | none => simp [made, Module.navigated] at route
  | some a =>
    simp only [made, Module.navigated] at route
    by_cases mode : a.mode = .navigation <;> simp [mode] at route
    simp [route]

theorem itemEmitted {s : Solution} (options : WriteOptions) {i : Item} (planned : i ∈ s.plan project solution) :
    ⟨i.path, i.template.text, options⟩ ∈ (s.emit project SortedMap.empty options solution).files := by
  rw [emittedFiles]
  exact List.mem_map.mpr ⟨i, planned, rfl⟩

theorem tableEmitted (s : Solution) (project solution : String) (options : WriteOptions) :
    ⟨routesPath project solution, (Template.routes (s.routes solution)).text, options⟩ ∈
      (s.emit project SortedMap.empty options solution).files := by
  have planned : s.routesItem project solution ∈ s.plan project solution :=
    List.mem_append_right _ (List.mem_singleton.mpr rfl)
  have emitted := itemEmitted options planned
  rwa [routesItemPath] at emitted

theorem navigationEmitted (project : String) (options : WriteOptions)
    (inside : (key, m) ∈ (ofDocument doc h solution).modules.entries) :
    ⟨tabPath project solution key, (m.navigation key).text, options⟩ ∈
      ((ofDocument doc h solution).emit project SortedMap.empty options solution).files := by
  have planned : navigationItem project solution key m ∈
      (ofDocument doc h solution).plan project solution := by
    refine List.mem_append_left _ (List.mem_flatMap.mpr ⟨(key, m), inside, ?_⟩)
    obtain ⟨_, n, _, rfl⟩ := builtEntry inside
    have tabs := Blueprint.buildTabs ⟨doc, h, solution, n⟩
    simp [moduleItems, tabs]
  have emitted := itemEmitted options planned
  simp only [navigationItem] at emitted
  simpa only [tabPath] using emitted

theorem blockFound (inside : (key, m) ∈ (ofDocument doc h solution).modules.entries) :
    ((ofDocument doc h solution).routes solution).routes.filter (fun r => r.path = m.route) =
      [m.routeBlock key] := by
  have block : m.routeBlock key ∈ ((ofDocument doc h solution).routes solution).routes := by
    rw [routeBlocks]
    exact List.mem_map.mpr ⟨(key, m), inside, rfl⟩
  have path : (m.routeBlock key).path = m.route := by simp only [Module.routeBlock]
  have distinct : (((ofDocument doc h solution).routes solution).routes.map (·.path)).Nodup := routePaths
  have found := filterOne _ distinct block
  simpa only [path] using found

theorem tableImports {options : WriteOptions} (first : Segment solution) {name : String}
    (imported : name ∈ ((ofDocument doc h solution).routes solution).tabImports ++
      ((ofDocument doc h solution).routes solution).pageImports) :
    ∃ f ∈ ((ofDocument doc h solution).emit project SortedMap.empty options solution).files,
      Path.stem f.path = some name := by
  rcases List.mem_append.mp imported with tab | page
  · simp only [routes, routedBuilt] at tab
    obtain ⟨⟨key, m⟩, inside, rfl⟩ := List.mem_map.mp tab
    exact tabEmitted inside
  · obtain ⟨key, m, inside, listed⟩ := tablePages page
    exact pageEmitted first inside listed

theorem blockChildren {block : RouteBlock}
    (there : block ∈ ((ofDocument doc h solution).routes solution).routes) :
    (block.children.map (·.path)).Nodup := by
  rw [routeBlocks] at there
  obtain ⟨⟨key, m⟩, inside, rfl⟩ := List.mem_map.mp there
  obtain ⟨_, n, _, rfl⟩ := builtEntry inside
  exact Blueprint.childPaths _ key

theorem moduleReaches (inside : (key, m) ∈ (ofDocument doc h solution).modules.entries)
    {nav : TabNavigation} (data : m.navigation key = .tabNavigation nav) :
    m.Reaches (m.routeBlock key) nav := by
  obtain ⟨_, n, _, rfl⟩ := builtEntry inside
  exact Blueprint.buildReaches _ key data

end Solution
end ApiScreens
