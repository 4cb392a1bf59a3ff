import ApiScreens.Proofs.Emission.Components
import ApiScreens.Proofs.Emission.Paths
import ApiScreens.Proofs.Script.Splice

/-! The texts that tab navigations and route tables have between single quotes. They stand there as the configuration
gives them, each in its place, and so are read as themselves only if nothing in them means more between quotes. -/
namespace ApiScreens
open Page Script

namespace Page

def TabItem.splices (i : TabItem) : List Splice :=
  [⟨"id: ", i.id, ","⟩, ⟨"label: ", i.label, ","⟩, ⟨"to: ", i.target, ","⟩]

namespace TabNavigation
variable (nav : TabNavigation)

def registerSplices : List Splice :=
  if nav.registerMode = .navigation then [⟨"navigate(", nav.registerPath, ");"⟩] else []

def defaultSplice : Splice := ⟨"defaultValue=\x7bactivetab ?? ", nav.defaultTab, "\x7d"⟩

def splices : List Splice := nav.items.flatMap TabItem.splices ++ nav.registerSplices ++ [nav.defaultSplice]

theorem tabsCarry :
    Carries (separated (nav.items.map item)) ((nav.items.flatMap TabItem.splices).map Splice.line) := by
  rw [List.map_flatMap]
  refine Carries.separated _ fun i _ => ?_
  have target : Carries ["to: '" ++ i.target ++ "',", "content: <" ++ i.pageName ++ " />,"] _ :=
    .splice "to: " "," (by decide) (by decide) (.other .nil)
  exact .splice "id: " "," (by decide) (by decide)
    (.other (.splice "label: " "," (by decide) (by decide) target))

theorem handlerCarries : Carries nav.handler (nav.registerSplices.map Splice.line) := by
  unfold handler registerSplices
  cases nav.registerMode with
  | navigation =>
    have call : Carries ["navigate('" ++ nav.registerPath ++ "');"] _ :=
      .splice "navigate(" ");" (by decide) (by decide) .nil
    exact (call.block _ _).behind [""]
  | modal => exact .nothing _
  | none => exact .nil

def element : Lines :=
  enclosed "<>" (nav.dialog ++ leaf "TabNavigation"
    ([quotedAttribute "title" nav.title, "tabs={tabs}",
      bracedAttribute "defaultValue" ("activetab ?? '" ++ nav.defaultTab ++ "'")] ++
     block "actionButtons=" nav.button "")) "</>"

theorem returnCarries : Carries nav.element [nav.defaultSplice.line] := by
  have shape : bracedAttribute "defaultValue" ("activetab ?? '" ++ nav.defaultTab ++ "'") = nav.defaultSplice.line :=
    String.toList_injective (by simp [bracedAttribute, defaultSplice, Splice.line])
  rw [element, shape]
  have attributes := (Carries.one nav.defaultSplice.line).before [quotedAttribute "title" nav.title, "tabs={tabs}"]
  exact (((attributes.behind _).enclosed _ _).before _).enclosed _ _

theorem partsCarry {tabs register shown : Lines} (first : Carries (separated (nav.items.map item)) tabs)
    (second : Carries nav.handler register) (third : Carries nav.element shown) :
    Carries nav.lines (tabs ++ register ++ shown) := by
  have front := (first.enclosed "const tabs = [" "];").before (nav.state ++ [""])
  have body := ((front.behind [""]).append second).append (third.enclosed "return (" ");")
  exact ((body.block _ ";").before _).behind _

theorem linesCarry : Carries nav.lines (nav.splices.map Splice.line) := by
  rw [splices, List.map_append, List.map_append]
  exact nav.partsCarry nav.tabsCarry nav.handlerCarries nav.returnCarries

end TabNavigation

def ChildRoute.splice (c : ChildRoute) : Splice := ⟨"path: ", c.path, ","⟩

def RouteBlock.splices (r : RouteBlock) : List Splice := ⟨"path: ", r.path, ","⟩ :: r.children.map ChildRoute.splice

def Routes.splices (p : Routes) : List Splice := p.routes.flatMap RouteBlock.splices

theorem Routes.linesCarry (p : Routes) : Carries p.lines (p.splices.map Splice.line) := by
  have child (c : ChildRoute) : Carries ["path: '" ++ c.path ++ "',", "element: " ++ c.element ++ ","]
      [c.splice.line] := .splice "path: " "," (by decide) (by decide) (.other .nil)
  have children (r : RouteBlock) : Carries (separated (r.children.map Routes.child))
      ((r.children.map ChildRoute.splice).map Splice.line) := by
    have each := Carries.separated r.children fun c _ => child c
    rw [← List.map_eq_flatMap] at each
    rw [List.map_map]
    exact each
  have routes : Carries (separated (p.routes.map Routes.route)) (p.splices.map Splice.line) := by
    rw [splices, List.map_flatMap]
    exact Carries.separated _ fun r _ =>
      .splice "path: " "," (by decide) (by decide) ((children r).enclosed "children: [" "],")
  exact (routes.enclosed _ "];").before _

end Page

namespace Module
variable {m : Module} {nav : TabNavigation} {key : String}

def splices (m : Module) : List Splice :=
  m.tabs.flatMap (fun t => [⟨"id: ", t.id, ","⟩, ⟨"label: ", t.name, ","⟩, ⟨"to: ", t.path, ","⟩]) ++
  ((m.createAction.filter (·.mode = .navigation)).map fun a =>
    ⟨"navigate(", a.path.getD (m.route ++ "/register"), ");"⟩).toList ++
  (m.defaultTab.map fun t => ⟨"defaultValue=\x7bactivetab ?? ", t.id, "\x7d"⟩).toList

def routeSplices (m : Module) : List Splice :=
  (m.route :: m.tabs.map (·.id) ++ m.actionRoutes.map (·.1)).map (⟨"path: ", ·, ","⟩)

theorem defaultSome (tabbed : m.tabs ≠ []) : ∃ t, m.defaultTab = some t := by
  obtain ⟨t, rest, shape⟩ := List.exists_cons_of_ne_nil tabbed
  rw [defaultTab, shape]
  cases (t :: rest).find? (·.isDefault) with
  | none => exact ⟨t, rfl⟩
  | some found => exact ⟨found, rfl⟩

theorem navigationSplices (data : m.navigation key = .tabNavigation nav) (tabbed : m.tabs ≠ []) :
    nav.splices = m.splices := by
  obtain ⟨t, first⟩ := defaultSome tabbed
  simp only [navigation, Template.tabNavigation.injEq] at data
  subst data
  have tabs : m.tabItems.flatMap TabItem.splices =
      m.tabs.flatMap fun t => [⟨"id: ", t.id, ","⟩, ⟨"label: ", t.name, ","⟩, ⟨"to: ", t.path, ","⟩] := by
    simp only [tabItems, List.flatMap_map, TabItem.splices]
  simp only [TabNavigation.splices, TabNavigation.registerSplices, TabNavigation.defaultSplice, splices, tabs, first]
  cases m.createAction with
  | none => rfl
  | some a => cases mode : a.mode <;> simp [registerMode, registerPath, Option.filter, mode]

theorem blockSplices : (m.routeBlock key).splices = m.routeSplices := by
  simp [RouteBlock.splices, routeBlock, routeSplices, ChildRoute.splice, Function.comp_def]

end Module

namespace Solution
variable {s : Solution} {project solution : String} {o : Overrides} {options : WriteOptions}

def routeSplices (s : Solution) : List Splice := s.routed.flatMap fun (_, m) => m.routeSplices

theorem navigationSpliced (builtIn : o.get? "tab_navigation.tsx" = none) {key : String} {m : Module}
    (inside : (key, m) ∈ s.modules.entries) (tabbed : m.tabs ≠ []) :
    ∃ lines, ⟨tabPath project solution key, Script.text lines, options⟩ ∈ (s.emit project o options solution).files ∧
      Carries lines (m.splices.map Splice.line) := by
  obtain ⟨nav, data, file, _⟩ := componentsImported s project solution o options builtIn inside tabbed
  exact ⟨nav.lines, file, Module.navigationSplices data tabbed ▸ nav.linesCarry⟩

theorem tableSpliced (builtIn : o.get? "routes.tsx" = none) :
    ∃ lines, ⟨routesPath project solution, Script.text lines, options⟩ ∈ (s.emit project o options solution).files ∧
      Carries lines (s.routeSplices.map Splice.line) := by
  have planned : s.routesItem project solution ∈ s.plan project solution :=
    List.mem_append_right _ (List.mem_singleton.mpr rfl)
  have own : ∀ t ∈ (s.routesItem project solution).templates, o.get? t.name = none := by
    intro t listed
    obtain rfl : t = .routes (s.routes solution) := by simpa [Item.templates, routesItem] using listed
    exact builtIn
  have file : ⟨_, _, options⟩ ∈ (s.emit project o options solution).files := builtInFile planned own
  rw [routesItemPath] at file
  have splices : (s.routes solution).splices = s.routeSplices := by
    simp only [Routes.splices, routes, List.flatMap_map, Module.blockSplices, routeSplices]
  exact ⟨(s.routes solution).lines, file, splices ▸ (s.routes solution).linesCarry⟩

theorem textsSpliced (s : Solution) (project solution : String) (o : Overrides) (options : WriteOptions)
    (tabsBuiltIn : o.get? "tab_navigation.tsx" = none) (routesBuiltIn : o.get? "routes.tsx" = none) :
    (∀ key m, (key, m) ∈ s.modules.entries → m.tabs ≠ [] → ∃ lines,
      ⟨tabPath project solution key, Script.text lines, options⟩ ∈ (s.emit project o options solution).files ∧
      Carries lines (m.splices.map Splice.line)) ∧
    (∃ lines, ⟨routesPath project solution, Script.text lines, options⟩ ∈ (s.emit project o options solution).files ∧
      Carries lines (s.routeSplices.map Splice.line)) ∧
    ∀ x : Splice, x.line.toList = x.lead.toList ++ x.quoted ++ x.tail.toList ∧
      ∀ rest behind, literal? (x.quoted ++ rest) = some (x.value, behind) ↔ behind = rest ∧ Verbatim x.value :=
  ⟨fun _ _ inside tabbed => navigationSpliced tabsBuiltIn inside tabbed, tableSpliced routesBuiltIn,
    fun x => ⟨x.lineParts, fun _ _ => splicedExactly x⟩⟩

def namedTab (name : String) : Module :=
  let m := orderTabs ["OrderListPage"]
  { m with tabs := m.tabs.map ({ · with name }) }

theorem plainNameSpliced :
    (SortedMap.empty : Overrides).get? "tab_navigation.tsx" = none ∧
      (SortedMap.empty : Overrides).get? "routes.tsx" = none ∧
      ∃ lines, ⟨tabPath "app" "shop" "order", Script.text lines, {}⟩ ∈
          (emit "app" SortedMap.empty {} "shop" ⟨.ofList [("order", namedTab "Overview (1/2)")]⟩).files ∧
        Carries lines ((namedTab "Overview (1/2)").splices.map Splice.line) ∧
        ⟨"label: ", "Overview (1/2)", ","⟩ ∈ (namedTab "Overview (1/2)").splices ∧
        literal? ((⟨"label: ", "Overview (1/2)", ","⟩ : Splice).quoted ++ ",".toList) =
          some ("Overview (1/2)", ",".toList) := by
  obtain ⟨navigations, _, exactly⟩ := textsSpliced ⟨.ofList [("order", namedTab "Overview (1/2)")]⟩ "app" "shop"
    SortedMap.empty {} rfl rfl
  obtain ⟨lines, file, carries⟩ := navigations "order" _ (List.mem_singleton.mpr rfl) (by decide)
  have read := (exactly ⟨"label: ", "Overview (1/2)", ","⟩).2 ",".toList ",".toList
  exact ⟨rfl, rfl, lines, file, carries, by decide, read.mpr ⟨rfl, by decide⟩⟩

theorem quotedNameCut :
    ∃ f ∈ (emit "app" SortedMap.empty {} "shop" ⟨.ofList [("order", namedTab "Today's")]⟩).files,
      f.path = tabPath "app" "shop" "order" ∧ ∃ lines, f.content = Script.text lines ∧
        Carries lines ((namedTab "Today's").splices.map Splice.line) ∧
        ⟨"label: ", "Today's", ","⟩ ∈ (namedTab "Today's").splices ∧
        ∀ rest, literal? ((⟨"label: ", "Today's", ","⟩ : Splice).quoted ++ rest) =
          some ("Today", 's' :: Quote.single.mark :: rest) := by
  have emitted : ∃ lines, ⟨tabPath "app" "shop" "order", Script.text lines, {}⟩ ∈
        (emit "app" SortedMap.empty {} "shop" ⟨.ofList [("order", namedTab "Today's")]⟩).files ∧
      Carries lines ((namedTab "Today's").splices.map Splice.line) :=
    navigationSpliced rfl (List.mem_singleton.mpr rfl) (by decide)
  obtain ⟨lines, file, carries⟩ := emitted
  refine ⟨_, file, rfl, lines, rfl, carries, by decide, fun rest => ?_⟩
  have plain : Verbatim "Today" := by decide
  obtain ⟨plain, clear⟩ := verbatimPlain.mp plain
  exact literalWhole.mpr ⟨rfl, plain, clear⟩

end Solution
end ApiScreens
