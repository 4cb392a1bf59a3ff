import ApiScreens.Proofs.Emission.Components
import ApiScreens.Proofs.Module.Layout

/-! The hooks that an emission imports. Forms and selects fall back on the hook that is derived from the module key;
pages of tabs import the hooks that the tab names as they are, also where it names none. -/
namespace ApiScreens
open Page Script

namespace Template

def hooks : Template → List String
  | singleTable p => [p.dataHook]
  | masterDetail p => [p.masterHook, p.detailHook]
  | registerModal p | registerFull p => [p.hookName]
  | select p => [p.dataHook]
  | _ => []

theorem hooksLine {t : Template} {hooks : List String} (imports : t.hooks = hooks) (some : hooks ≠ []) :
    ∃ lines, t.text = Script.text lines ∧
      importsFrom "@primes/hooks" lines = [importNames hooks "@primes/hooks"] := by
  subst imports
  cases t with
  | singleTable p => exact ⟨p.lines, rfl, p.imports⟩
  | masterDetail p => exact ⟨p.lines, rfl, p.imports⟩
  | registerModal p => exact ⟨p.modalLines, rfl, p.modalImports⟩
  | registerFull p => exact ⟨p.fullLines, rfl, p.fullImports⟩
  | select p => exact ⟨p.lines, rfl, p.imports⟩
  | _ => exact absurd rfl some

end Template

namespace TabLayout

def hooks : TabLayout → List String
  | masterDetail _ _ masterHook detailHook => [masterHook, detailHook]
  | single _ hook => [hook]

def listHook : TabLayout → String
  | masterDetail _ _ masterHook _ => masterHook
  | single _ hook => hook

theorem listNamed {l : TabLayout} (named : "" ∉ l.hooks) : l.listHook ≠ "" := by
  cases l <;> simp_all [hooks, listHook, eq_comm]

end TabLayout

namespace Module

def hookFor (key name : String) : String := if name = "" then Naming.hook key else name

def optionsHook (m : Module) (key : String) : String :=
  ((m.tabs.map (·.layout.listHook)).find? (· ≠ "")).getD (Naming.hook key)

def selectedHook (m : Module) (key : String) : String := (m.tabs.findSome? selectHook).getD (Naming.hook key)

theorem derivedSome (key : String) : Naming.hook key ≠ "" := by simp [Naming.hook]

theorem hookForSome (key name : String) : hookFor key name ≠ "" := by
  unfold hookFor
  split
  · exact derivedSome key
  · assumption

theorem hooksFor {hooks : List String} (key : String) : hooks = hooks.map (hookFor key) ↔ "" ∉ hooks := by
  constructor
  · intro same named
    rw [same] at named
    obtain ⟨name, _, none⟩ := List.mem_map.mp named
    exact hookForSome key name none
  · intro named
    have same : hooks.map (hookFor key) = hooks.map id :=
      List.map_congr_left fun name inside => if_neg fun (none : name = "") => named (none ▸ inside)
    rw [same, List.map_id]

theorem selectedSome (m : Module) (key : String) :
    m.selectedHook key ≠ "" ↔ m.selectedHook key = m.optionsHook key := by
  unfold selectedHook optionsHook
  induction m.tabs with
  | nil => simp [derivedSome]
  | cons t rest ih =>
    have due : ((((t :: rest).map (·.layout.listHook)).find? (· ≠ "")).getD (Naming.hook key)) ≠ "" := by
      cases found : ((t :: rest).map (·.layout.listHook)).find? (· ≠ "") with
      | none => exact derivedSome key
      | some name => simpa using List.find?_some found
    cases layout : t.layout with
    | masterDetail master detail masterHook detailHook =>
      have taken : selectHook t = some masterHook := by simp [selectHook, layout]
      rw [List.findSome?_cons, taken]
      by_cases none : masterHook = ""
      · subst none
        simp only [Option.getD_some]
        exact ⟨fun other => absurd rfl other, fun same => absurd same.symm due⟩
      · simp [TabLayout.listHook, layout, none]
    | single columns hook =>
      by_cases none : hook = ""
      · have passed : selectHook t = Option.none := by simp [selectHook, layout, none]
        rw [List.findSome?_cons, passed]
        simpa [TabLayout.listHook, layout, none] using ih
      · have taken : selectHook t = some hook := by simp [selectHook, layout, none]
        simp [taken, TabLayout.listHook, layout, none]

theorem selectedNamed {m : Module} (named : ∀ t ∈ m.tabs, "" ∉ t.layout.hooks) (key : String) :
    m.selectedHook key = m.optionsHook key := by
  refine (selectedSome m key).mp ?_
  unfold selectedHook
  cases found : m.tabs.findSome? selectHook with
  | none => exact derivedSome key
  | some hook =>
    obtain ⟨t, inside, taken⟩ := List.exists_of_findSome?_eq_some found
    have first : hook = t.layout.listHook := by
      unfold selectHook at taken
      split at taken
      · split at taken
        · contradiction
        · simp_all [TabLayout.listHook]
      · simp_all [TabLayout.listHook]
    exact first ▸ TabLayout.listNamed (named t inside)

end Module

namespace Solution

def Imports (files : List GeneratedFile) (path : String) (hooks : List String) : Prop :=
  ∃ f ∈ files, f.path = path ∧ ∃ lines, f.content = Script.text lines ∧
    importsFrom "@primes/hooks" lines = [importNames hooks "@primes/hooks"]

variable {s : Solution} {project solution key : String} {m : Module}

theorem importsOf {options : WriteOptions} {i : Item} {hooks : List String} (planned : i ∈ s.plan project solution)
    (imports : i.template.hooks = hooks) (some : hooks ≠ []) :
    Imports (s.emit project SortedMap.empty options solution).files i.path hooks := by
  obtain ⟨lines, text, line⟩ := Template.hooksLine imports some
  exact ⟨_, builtInFile planned fun _ _ => rfl, rfl, lines, text, line⟩

theorem tabHooks (project key : String) (m : Module) (t : Tab) :
    (tabItem project key m t).template.hooks = t.layout.hooks := by
  cases shown : t.layout <;> simp [tabItem, Module.page, shown, Template.hooks, TabLayout.hooks]

theorem registerHooks (project key : String) (m : Module) (a : Action) :
    (registerItem project key m a).template.hooks = [Module.hookFor key a.hookName] := by
  cases mode : a.mode <;> simp [registerItem, Module.registerPage, mode, Template.hooks, Module.hookFor]

def selectPath (project key : String) : String :=
  Path.under project ["src/components/customSelect", (Module.selectEntry key).componentName ++ ".tsx"]

theorem selectHooks (project key : String) (m : Module) (c : CustomSelect) :
    (selectItem project key m c).path = selectPath project key ∧
      (selectItem project key m c).template.hooks = [m.selectedHook key] := by
  constructor
  · simp only [selectItem, selectPath]
  · simp only [selectItem, Module.select, Template.hooks, Module.selectedHook]

theorem hooksImported (s : Solution) (project solution : String) (options : WriteOptions) {key : String} {m : Module}
    (inside : (key, m) ∈ s.modules.entries) :
    let files := (s.emit project SortedMap.empty options solution).files
    (∀ t ∈ m.tabs, Imports files (pagePath project m t.pageName) t.layout.hooks) ∧
      (∀ a, m.createAction = some a →
        Imports files (pagePath project m a.pageName) [Module.hookFor key a.hookName] ∧
          Module.hookFor key a.hookName ≠ "") ∧
      (m.customSelect.isSome → Imports files (selectPath project key) [m.selectedHook key]) ∧
      (m.selectedHook key ≠ "" ↔ m.selectedHook key = m.optionsHook key) ∧
      (((∀ t ∈ m.tabs, t.layout.hooks = t.layout.hooks.map (Module.hookFor key)) ∧
          (m.customSelect.isSome → m.selectedHook key = m.optionsHook key)) ↔
        ∀ t ∈ m.tabs, "" ∉ t.layout.hooks) := by
  have planned {i : Item} (part : Part project solution key m i) : i ∈ s.plan project solution :=
    (planParts project solution s i).mpr (.inl ⟨key, m, inside, part⟩)
  refine ⟨fun t listed => ?_, fun a made => ⟨?_, Module.hookForSome key a.hookName⟩, fun chosen => ?_,
    Module.selectedSome m key, ?_⟩
  · have some : t.layout.hooks ≠ [] := by cases t.layout <;> simp [TabLayout.hooks]
    exact importsOf (i := tabItem project key m t) (planned (.page listed)) (tabHooks project key m t) some
  · have formed := planned (.register made)
    exact importsOf formed (registerHooks project key m a) (by simp)
  · obtain ⟨c, found⟩ := Option.isSome_iff_exists.mp chosen
    obtain ⟨path, imports⟩ := selectHooks project key m c
    exact path ▸ importsOf (planned (.select found)) imports (by simp)
  · simp only [Module.hooksFor]
    exact ⟨fun ⟨named, _⟩ => named, fun named => ⟨named, fun _ => Module.selectedNamed named key⟩⟩

theorem formDerives :
    let s : Solution := ⟨.ofList [("order", orderTabs ["OrderListPage"])]⟩
    ("order", orderTabs ["OrderListPage"]) ∈ s.modules.entries ∧
      Imports (s.emit "app" SortedMap.empty {} "shop").files
        (pagePath "app" (orderTabs ["OrderListPage"]) "OrderRegisterPage") ["useOrder"] := by
  intro s
  have inside : ("order", orderTabs ["OrderListPage"]) ∈ s.modules.entries := List.mem_singleton.mpr rfl
  have derived : Module.hookFor "order" "" = "useOrder" := by decide
  have forms := (hooksImported s "app" "shop" {} inside).2.1
  have form := forms ⟨.create, .modal, "OrderRegisterPage", "", "", [], none⟩ rfl
  exact ⟨inside, derived ▸ form.1⟩

theorem listWithoutHook :
    let m := ordersModule .single (.single [] "")
    let s : Solution := ⟨.ofList [("order", m)]⟩
    parse (ordersConfig (ordersObject .single [])).pretty = some s ∧
      Imports (s.emit "app" SortedMap.empty {} "shop").files (pagePath "app" m "OrderListPage") [""] := by
  intro m s
  have inside : ("order", m) ∈ s.modules.entries := List.mem_singleton.mpr rfl
  have planned : tabItem "app" "order" m (ordersTab .single (.single [] "")) ∈ s.plan "app" "shop" :=
    (planParts ..).mpr (.inl ⟨"order", m, inside, .page (List.mem_singleton.mpr rfl)⟩)
  refine ⟨?_, importsOf planned rfl (by simp)⟩
  rw [parseSpelled (ordersSpelled .single (by simp))]
  decide +kernel

end Solution
end ApiScreens
