import ApiScreens.Proofs.Emission.Imported
import ApiScreens.Proofs.Script.Imports

/-! The components of a tab navigation. Its header imports what its body shows: each icon once, and each page once if
the tabs that share a page stand side by side. -/
namespace ApiScreens
open Page Script

/-- Equal names stand side by side. -/
def Grouped (names : List String) : Prop := ∀ a b, [a, b, a].Sublist names → a = b

namespace Module

theorem distinctNodup (names : List String) : (distinct names).Nodup := by
  suffices general : ∀ seen : List String, seen.Nodup →
      (names.foldl (fun seen n => if n ∈ seen then seen else seen ++ [n]) seen).Nodup from
    general [] List.nodup_nil
  induction names with
  | nil => exact fun _ apart => apart
  | cons n rest ih =>
    intro seen apart
    rw [List.foldl_cons]
    apply ih
    split
    · exact apart
    · rename_i fresh
      have others : ∀ old ∈ seen, old ≠ n := fun _ inside same => fresh (same ▸ inside)
      exact List.nodup_append.mpr ⟨apart, List.nodup_singleton n, by simpa using others⟩

theorem withoutRunsListed {names : List String} {name : String} : name ∈ withoutRuns names ↔ name ∈ names := by
  refine ⟨withoutRunsMem, fun inside => ?_⟩
  induction names using withoutRuns.induct with
  | case1 a rest ih =>
    rw [withoutRuns, if_pos rfl]
    exact ih (by simpa using inside)
  | case2 a b rest differ ih =>
    rw [withoutRuns, if_neg differ]
    rcases List.mem_cons.mp inside with rfl | later
    · exact List.mem_cons_self
    · exact List.mem_cons_of_mem _ (ih later)
  | case3 names short =>
    rw [withoutRuns]
    · exact inside
    · exact short

end Module

theorem groupedTail {a : String} {names : List String} (grouped : Grouped (a :: names)) : Grouped names :=
  fun b c inside => grouped b c (inside.cons a)

theorem groupedCons {a b : String} {rest : List String} (differ : a ≠ b) :
    Grouped (a :: b :: rest) ↔ a ∉ b :: rest ∧ Grouped (b :: rest) := by
  constructor
  · intro grouped
    refine ⟨fun again => ?_, groupedTail grouped⟩
    have later : a ∈ rest := (List.mem_cons.mp again).resolve_left differ
    exact differ (grouped a b (((List.singleton_sublist.mpr later).cons_cons b).cons_cons a))
  · rintro ⟨fresh, grouped⟩ c d inside
    cases inside with
    | cons _ inside => exact grouped c d inside
    | cons_cons _ inside => exact absurd (inside.subset (by simp)) fresh

namespace Module

theorem withoutRunsNodup {names : List String} : (withoutRuns names).Nodup ↔ Grouped names := by
  induction names using withoutRuns.induct with
  | case1 a rest ih =>
    rw [withoutRuns, if_pos rfl, ih]
    refine ⟨fun grouped c d inside => ?_, groupedTail⟩
    cases inside with
    | cons _ inside => exact grouped c d inside
    | cons_cons _ inside =>
      cases inside with
      | cons _ inside => exact grouped a d (inside.cons_cons a)
      | cons_cons _ inside => rfl
  | case2 a b rest differ ih =>
    rw [withoutRuns, if_neg differ, List.nodup_cons, withoutRunsListed, ih, groupedCons differ]
  | case3 names short =>
    rw [withoutRuns]
    · rcases names with _ | ⟨a, _ | ⟨b, rest⟩⟩
      · exact ⟨fun _ _ _ inside => absurd inside (by simp), fun _ => List.nodup_nil⟩
      · refine ⟨fun _ c d inside => ?_, fun _ => List.nodup_singleton a⟩
        have longer := inside.length_le
        simp at longer
      · exact absurd rfl (short a b rest)
    · exact short

end Module

namespace Script

def Shows (lines : Lines) (component : String) : Prop :=
  ∃ line ∈ lines, ("<" ++ component ++ " ").toList <:+: line.toList

variable {component : String} {body more : Lines}

theorem showsLine {line : String} (before after : String) (inside : line ∈ body)
    (shape : line = before ++ ("<" ++ component ++ " ") ++ after) : Shows body component :=
  ⟨line, inside, before.toList, after.toList, by simp only [shape, String.toList_append]⟩

theorem Shows.left (shows : Shows body component) : Shows (body ++ more) component :=
  let ⟨line, listed, part⟩ := shows
  ⟨line, List.mem_append_left _ listed, part⟩

theorem Shows.right (shows : Shows body component) : Shows (more ++ body) component :=
  let ⟨line, listed, part⟩ := shows
  ⟨line, List.mem_append_right _ listed, part⟩

theorem Shows.enclosed (shows : Shows body component) (head last : String) :
    Shows (Script.enclosed head body last) component := by
  obtain ⟨line, listed, part⟩ := shows
  have filled : line ≠ "" := by
    rintro rfl
    have longer := part.length_le
    simp at longer
  have nested : "\t" ++ line ∈ nest body := List.mem_map.mpr ⟨line, listed, if_neg filled⟩
  refine ⟨"\t" ++ line, by simp [Script.enclosed, nested], ?_⟩
  have chars : ("\t" ++ line).toList = "\t".toList ++ line.toList := String.toList_append
  exact chars ▸ part.trans (List.suffix_append _ _).isInfix

theorem commaAfterShows (shows : Shows body component) : Shows (separated.commaAfter body) component := by
  induction body with
  | nil => exact shows
  | cons first rest ih =>
    obtain ⟨line, listed, part⟩ := shows
    cases rest with
    | nil =>
      rw [List.mem_singleton.mp listed] at part
      refine ⟨_, List.mem_singleton.mpr rfl, ?_⟩
      have chars : (first ++ ",").toList = first.toList ++ ",".toList := String.toList_append
      exact chars ▸ part.trans (List.prefix_append _ _).isInfix
    | cons second others =>
      rcases List.mem_cons.mp listed with rfl | later
      · exact ⟨line, List.mem_cons_self, part⟩
      · obtain ⟨found, there, whole⟩ := ih ⟨line, later, part⟩
        exact ⟨found, List.mem_cons_of_mem _ there, whole⟩

theorem separatedShows {groups : List Lines} (listed : body ∈ groups) (shows : Shows body component) :
    Shows (separated groups) component := by
  induction groups with
  | nil => exact absurd listed List.not_mem_nil
  | cons first rest ih =>
    cases rest with
    | nil => exact List.mem_singleton.mp listed ▸ shows
    | cons second others =>
      rw [separated]
      · rcases List.mem_cons.mp listed with rfl | later
        · exact (commaAfterShows shows).left
        · exact (ih later).right
      · simp

theorem commasOne (name : String) : commas [name] = name := by simp [commas, Text.joinWith, Text.join]

theorem commasCons {names : List String} (some : names ≠ []) (name : String) :
    commas [name, commas names] = commas (name :: names) := by
  have later : names.map String.toList ≠ [] := by simpa using some
  simp [commas, Text.joinWith, Text.joinCons, Text.join, later]

end Script

namespace Page.TabNavigation
variable (nav : TabNavigation)

def iconImports : List String := (if nav.registerMode = .none then [] else ["Plus"]) ++ nav.icons

theorem pageLine : importsFrom "@primes/pages" nav.lines = [importNames nav.pageImports "@primes/pages"] := by
  have single : importNames [commas nav.pageImports] "@primes/pages" = importNames nav.pageImports "@primes/pages" := by
    rw [importNames, importNames, commasOne]
  cases mode : nav.registerMode <;>
    simp (disch := decide) [lines, imports, mode, importsNames, importsEnd, single]

theorem iconLine (some : nav.icons ≠ []) :
    importsFrom "lucide-react" nav.lines = [importNames nav.iconImports "lucide-react"] := by
  have single : importNames [commas nav.icons] "lucide-react" = importNames nav.icons "lucide-react" := by
    rw [importNames, importNames, commasOne]
  have pair : importNames ["Plus", commas nav.icons] "lucide-react" =
      importNames ("Plus" :: nav.icons) "lucide-react" := by
    rw [importNames, importNames, commasCons some]
  cases mode : nav.registerMode <;>
    simp (disch := decide) [lines, imports, iconImports, mode, importsNames, importsEnd, single, pair]

theorem tabsShow {component : String} (shows : Shows (separated (nav.items.map item)) component) :
    Shows nav.lines component :=
  have tabs := shows.enclosed "const tabs = [" "];"
  (Shows.enclosed tabs.right.left.left.left _ _).right.left

theorem returnShows {component : String}
    (shows : Shows (nav.dialog ++ leaf "TabNavigation"
      ([quotedAttribute "title" nav.title, "tabs={tabs}",
        bracedAttribute "defaultValue" ("activetab ?? '" ++ nav.defaultTab ++ "'")] ++
       block "actionButtons=" nav.button "")) component) : Shows nav.lines component :=
  have answer := (shows.enclosed "<>" "</>").enclosed "return (" ");"
  (Shows.enclosed answer.right _ _).right.left

theorem itemShows {i : TabItem} (listed : i ∈ nav.items) : Shows nav.lines i.icon ∧ Shows nav.lines i.pageName := by
  have shown {component : String} (shows : Shows (item i) component) : Shows nav.lines component :=
    nav.tabsShow (separatedShows (List.mem_map_of_mem listed) shows)
  constructor
  · refine shown (.enclosed (showsLine "icon: " "size={16} />," (List.mem_of_getElem? (i := 1) rfl) ?_) _ _)
    exact String.toList_injective (by simp)
  · refine shown (.enclosed (showsLine "content: " "/>," (List.mem_of_getElem? (i := 4) rfl) ?_) _ _)
    exact String.toList_injective (by simp)

theorem dialogShows (mode : nav.registerMode = .modal) : Shows nav.lines nav.registerPage := by
  refine nav.returnShows (Shows.left ?_)
  rw [dialog, mode]
  refine Shows.enclosed (showsLine "content=\x7b" "onClose={() => setRegisterOpen(false)} />\x7d"
    (List.mem_of_getElem? (i := 3) rfl) ?_) _ _
  exact String.toList_injective (by simp [bracedAttribute])

theorem buttonShows (mode : nav.registerMode ≠ .none) : Shows nav.lines "Plus" := by
  refine nav.returnShows (Shows.right (Shows.enclosed (Shows.right (Shows.enclosed ?_ _ _)) _ _))
  have plus (title : String) : Shows (nest ["<Plus size={16} />", title]) "Plus" :=
    showsLine "\t" "size={16} />" List.mem_cons_self (by decide)
  unfold button
  split
  · rename_i none
    exact absurd none mode
  · exact (plus nav.registerTitle).right.left

structure Provides (pages icons : List String) : Prop where
  pageLine : importsFrom "@primes/pages" nav.lines = [importNames nav.pageImports "@primes/pages"]
  iconLine : importsFrom "lucide-react" nav.lines = [importNames nav.iconImports "lucide-react"]
  pagesShown : ∀ page ∈ pages, Shows nav.lines page
  iconsShown : ∀ icon ∈ icons, Shows nav.lines icon
  pages : ∀ page, page ∈ nav.pageImports ↔ page ∈ pages
  icons : ∀ icon, nav.iconImports.count icon = if icon ∈ icons then 1 else 0

end Page.TabNavigation

namespace Module

def shownPages (m : Module) : List String :=
  m.tabs.map (·.pageName) ++ ((m.createAction.filter (·.mode = .modal)).map (·.pageName)).toList

def shownIcons (m : Module) : List String :=
  (m.createAction.map fun _ => "Plus").toList ++ m.tabs.map (Icon.usable ·.icon)

theorem usableOther (icon : String) : Icon.usable icon ≠ "Plus" := by
  have known : Icon.usable icon ∈ Icon.known := by
    unfold Icon.usable
    split
    · assumption
    · decide
  intro same
  exact absurd (same ▸ known) (by decide)

theorem dialogShown (m : Module) :
    dialogPage m.createAction = ((m.createAction.filter (·.mode = .modal)).map (·.pageName)).toList := by
  cases made : m.createAction with
  | none => rfl
  | some a => by_cases mode : a.mode = .modal <;> simp [dialogPage, Option.filter, mode]

theorem registerNone {create : Option Action} : registerMode create = .none ↔ create = none := by
  cases create with
  | none => simp [registerMode]
  | some a => cases mode : a.mode <;> simp [registerMode, mode]

theorem registerModal {create : Option Action} {a : Action} (made : create = some a) (mode : a.mode = .modal) :
    registerMode create = .modal := by simp [registerMode, made, mode]

structure Fills (m : Module) (nav : TabNavigation) : Prop where
  items : nav.items = m.tabItems
  mode : nav.registerMode = registerMode m.createAction
  icons : nav.icons = distinct (m.tabs.map (Icon.usable ·.icon))
  pages : nav.pageImports = withoutRuns m.shownPages
  register : ∀ a, m.createAction = some a → nav.registerPage = a.pageName

section
variable {m : Module} {nav : TabNavigation} (fills : m.Fills nav)

theorem navigationFills {key : String} (data : m.navigation key = .tabNavigation nav) : m.Fills nav := by
  simp only [navigation, Template.tabNavigation.injEq] at data
  subst data
  refine ⟨rfl, rfl, ?_, ?_, fun a made => by simp [made]⟩
  · simp [tabItems, Function.comp_def]
  · simp [shownPages, dialogShown, tabItems, Function.comp_def]

include fills

theorem iconsFilled (tabbed : m.tabs ≠ []) : nav.icons ≠ [] := by
  obtain ⟨t, rest, shape⟩ := List.exists_cons_of_ne_nil tabbed
  have first : Icon.usable t.icon ∈ nav.icons := by simp [fills.icons, distinctMem, shape]
  exact List.ne_nil_of_mem first

theorem iconImports : nav.iconImports = (m.createAction.map fun _ => "Plus").toList ++ nav.icons := by
  rw [TabNavigation.iconImports, fills.mode]
  cases m.createAction with
  | none => simp [registerMode]
  | some a => simp [registerNone]

theorem iconsOnce (icon : String) : nav.iconImports.count icon = if icon ∈ m.shownIcons then 1 else 0 := by
  have listed : icon ∈ nav.iconImports ↔ icon ∈ m.shownIcons := by
    rw [iconImports fills, fills.icons, shownIcons, List.mem_append, List.mem_append, distinctMem]
  have apart : nav.iconImports.Nodup := by
    rw [iconImports fills, fills.icons]
    refine List.nodup_append.mpr ⟨?_, distinctNodup _, ?_⟩
    · cases m.createAction <;> simp
    · intro plus first icon later same
      obtain ⟨_, _, rfl⟩ := Option.map_eq_some_iff.mp (Option.mem_toList.mp first)
      obtain ⟨t, _, usable⟩ := List.mem_map.mp (distinctMem.mp later)
      exact usableOther t.icon (usable.trans same.symm)
  rw [apart.count]
  simp only [listed]

theorem tabShows {t : Tab} (inside : t ∈ m.tabs) :
    Shows nav.lines (Icon.usable t.icon) ∧ Shows nav.lines t.pageName :=
  nav.itemShows (i := ⟨t.id, Icon.usable t.icon, t.name, t.path, t.pageName⟩)
    (fills.items ▸ List.mem_map.mpr ⟨t, inside, rfl⟩)

theorem pagesShown {page : String} (shown : page ∈ m.shownPages) : Shows nav.lines page := by
  rcases List.mem_append.mp shown with tab | create
  · obtain ⟨t, inside, rfl⟩ := List.mem_map.mp tab
    exact (tabShows fills inside).2
  · obtain ⟨a, found, rfl⟩ := Option.map_eq_some_iff.mp (Option.mem_toList.mp create)
    obtain ⟨made, modal⟩ := Option.filter_eq_some_iff.mp found
    exact fills.register a made ▸ nav.dialogShows (fills.mode.trans (registerModal made (by simpa using modal)))

theorem iconsShown {icon : String} (shown : icon ∈ m.shownIcons) : Shows nav.lines icon := by
  rcases List.mem_append.mp shown with button | tab
  · obtain ⟨a, made, rfl⟩ := Option.map_eq_some_iff.mp (Option.mem_toList.mp button)
    refine nav.buttonShows fun none => ?_
    rw [fills.mode, registerNone, made] at none
    contradiction
  · obtain ⟨t, inside, rfl⟩ := List.mem_map.mp tab
    exact (tabShows fills inside).1

theorem pagesListed (page : String) : page ∈ nav.pageImports ↔ page ∈ m.shownPages := by
  rw [fills.pages, withoutRunsListed]

theorem pagesOnce : (∀ page ∈ m.shownPages, nav.pageImports.count page = 1) ↔ Grouped m.shownPages := by
  rw [← withoutRunsNodup, ← fills.pages, List.nodup_iff_count_eq_one]
  simp only [pagesListed fills]

theorem navigationProvides (tabbed : m.tabs ≠ []) : nav.Provides m.shownPages m.shownIcons where
  pageLine := nav.pageLine
  iconLine := nav.iconLine (iconsFilled fills tabbed)
  pagesShown _ := pagesShown fills
  iconsShown _ := iconsShown fills
  pages := pagesListed fills
  icons := iconsOnce fills

end

end Module

namespace Solution
variable {s : Solution} {project solution : String} {o : Overrides} {options : WriteOptions}

theorem builtInFile {i : Item} (planned : i ∈ s.plan project solution)
    (builtIn : ∀ t ∈ i.templates, o.get? t.name = none) :
    ⟨i.path, i.template.text, options⟩ ∈ (s.emit project o options solution).files := by
  have accounts : Accounts options o (s.plan project solution) (s.emit project o options solution) :=
    emitAccounts fun _ inside => planProper inside
  have same : i.outcome options o = i.outcome options SortedMap.empty := Item.outcomeSame builtIn
  obtain ⟨snippet, printed⟩ := printBuiltIn i
  rw [accounts.files]
  refine List.mem_filterMap.mpr ⟨i, planned, ?_⟩
  simp only [same]
  simp [Item.outcome, printed, Outcome.file?]

theorem componentsImported (s : Solution) (project solution : String) (o : Overrides) (options : WriteOptions)
    (builtIn : o.get? "tab_navigation.tsx" = none) {key : String} {m : Module}
    (inside : (key, m) ∈ s.modules.entries) (tabbed : m.tabs ≠ []) :
    ∃ nav : TabNavigation, m.navigation key = .tabNavigation nav ∧
      ⟨tabPath project solution key, Script.text nav.lines, options⟩ ∈ (s.emit project o options solution).files ∧
      nav.Provides m.shownPages m.shownIcons ∧
      ((∀ page ∈ m.shownPages, nav.pageImports.count page = 1) ↔ Grouped m.shownPages) := by
  have planned : navigationItem project solution key m ∈ s.plan project solution :=
    (planParts project solution s _).mpr (.inl ⟨key, m, inside, .navigation tabbed⟩)
  have own : ∀ t ∈ (navigationItem project solution key m).templates, o.get? t.name = none := by
    intro t listed
    obtain rfl : t = m.navigation key := by simpa [Item.templates, navigationItem] using listed
    exact builtIn
  have file : ⟨_, _, options⟩ ∈ (s.emit project o options solution).files := builtInFile planned own
  obtain ⟨nav, data⟩ : ∃ nav, m.navigation key = .tabNavigation nav := ⟨_, rfl⟩
  have path : (navigationItem project solution key m).path = tabPath project solution key := by
    simp only [navigationItem, tabPath]
  have text : (navigationItem project solution key m).template.text = Script.text nav.lines := by
    simp only [navigationItem, data, Template.text]
  rw [path, text] at file
  have fills := Module.navigationFills data
  exact ⟨nav, data, file, Module.navigationProvides fills tabbed, Module.pagesOnce fills⟩

def orderTabs (pages : List String) : Module :=
  let tab (page : String) : Tab :=
    { id := page, name := page, kind := .single, path := "/shop/order/" ++ page, pageName := page, icon := "Table",
      isDefault := false, tableControl := {}, searchFields := [], searchSlot := [], layout := .single [] "useOrder" }
  { name := "Orders", path := "shop/order", route := "/shop/order", pageKind := .single, tabs := pages.map tab,
    actions := [⟨.create, .modal, "OrderRegisterPage", "", "", [], none⟩], menu := none, fieldApi := false,
    customSelect := none }

theorem sharedPageImported :
    (SortedMap.empty : Overrides).get? "tab_navigation.tsx" = none ∧
      (orderTabs ["OrderListPage", "OrderListPage", "OrderPage"]).tabs ≠ [] ∧
      ∃ nav : TabNavigation,
        ⟨tabPath "app" "shop" "order", Script.text nav.lines, {}⟩ ∈
          (emit "app" SortedMap.empty {} "shop"
            ⟨.ofList [("order", orderTabs ["OrderListPage", "OrderListPage", "OrderPage"])]⟩).files ∧
        nav.pageImports.count "OrderListPage" = 1 ∧ nav.iconImports.count "Plus" = 1 := by
  have tabbed : (orderTabs ["OrderListPage", "OrderListPage", "OrderPage"]).tabs ≠ [] := by decide
  have grouped : Grouped (orderTabs ["OrderListPage", "OrderListPage", "OrderPage"]).shownPages :=
    Module.withoutRunsNodup.mp (by decide)
  obtain ⟨nav, _, file, provides, once⟩ := componentsImported
    ⟨.ofList [("order", orderTabs ["OrderListPage", "OrderListPage", "OrderPage"])]⟩ "app" "shop" SortedMap.empty {}
    rfl (List.mem_singleton.mpr rfl) tabbed
  exact ⟨rfl, tabbed, nav, file, once.mpr grouped _ (by decide), (provides.icons "Plus").trans (by decide)⟩

theorem pageImportedTwice :
    ∃ f ∈ (emit "app" SortedMap.empty {} "shop"
        ⟨.ofList [("order", orderTabs ["OrderListPage", "OrderPage", "OrderListPage"])]⟩).files,
      f.path = tabPath "app" "shop" "order" ∧ ∃ lines, f.content = Script.text lines ∧
        importsFrom "@primes/pages" lines =
          ["import { OrderListPage, OrderPage, OrderListPage, OrderRegisterPage } from '@primes/pages';"] := by
  let m := orderTabs ["OrderListPage", "OrderPage", "OrderListPage"]
  obtain ⟨nav, data⟩ : ∃ nav, m.navigation "order" = .tabNavigation nav := ⟨_, rfl⟩
  have planned : navigationItem "app" "shop" "order" m ∈ plan "app" "shop" ⟨.ofList [("order", m)]⟩ :=
    (planParts _ _ _ _).mpr (.inl ⟨"order", m, List.mem_singleton.mpr rfl, .navigation (by decide)⟩)
  refine ⟨_, builtInFile planned fun _ _ => rfl, by simp only [navigationItem, tabPath], nav.lines, ?_, ?_⟩
  · simp only [navigationItem, data, Template.text]
  · rw [nav.pageLine, (Module.navigationFills data).pages]
    decide

end Solution
end ApiScreens
