import ApiScreens.Proofs.Emission.Closed
import ApiScreens.Proofs.Emission.Isolation

/-! What the route table of any solution imports, also of one that was edited by hand. Pages are made for tabs and
for create actions. A route is also added for an edit action, whose page is left to be written by hand. -/
namespace ApiScreens
open ApiScreens.Path

namespace Solution
variable {s : Solution} {project solution : String} {o : Overrides} {options : WriteOptions}

def Paged (s : Solution) (page : String) : Prop := ∃ key m, (key, m) ∈ s.modules.entries ∧ page ∈ m.pageNames

def Opened (s : Solution) (action : Module → Option Action) (page : String) : Prop :=
  ∃ key m a, (key, m) ∈ s.routed ∧ action m = some a ∧ a.mode = .navigation ∧ a.pageName = page

def PageAt (project : String) (s : Solution) (p : String) : Prop :=
  ∃ key m page, (key, m) ∈ s.modules.entries ∧ page ∈ m.pageNames ∧ p = pagePath project m page

theorem navigatedOpened {action : Option Action} {page : String} :
    Module.navigated action = some page ↔ ∃ a, action = some a ∧ a.mode = .navigation ∧ a.pageName = page := by
  cases action with
  | none => simp [Module.navigated]
  | some a => by_cases mode : a.mode = .navigation <;> simp [Module.navigated, mode]

theorem importsOpened {page : String} : page ∈ (s.routes solution).pageImports ↔
    s.Opened Module.createAction page ∨ s.Opened Module.editAction page := by
  have pages (m : Module) : page ∈ m.actionRoutes.map (·.2) ↔
      Module.navigated m.createAction = some page ∨ Module.navigated m.editAction = some page := by
    simp [Module.actionRoutes]
  simp only [routes, Module.distinctMem, List.mem_flatMap, Prod.exists, pages, navigatedOpened, Opened]
  constructor
  · rintro ⟨key, m, inside, ⟨a, made⟩ | ⟨a, made⟩⟩
    · exact .inl ⟨key, m, a, inside, made⟩
    · exact .inr ⟨key, m, a, inside, made⟩
  · rintro (⟨key, m, a, inside, made⟩ | ⟨key, m, a, inside, made⟩)
    · exact ⟨key, m, inside, .inl ⟨a, made⟩⟩
    · exact ⟨key, m, inside, .inr ⟨a, made⟩⟩

theorem openedPaged {page : String} (opened : s.Opened Module.createAction page) : s.Paged page := by
  obtain ⟨key, m, a, inside, made, _, rfl⟩ := opened
  exact ⟨key, m, (List.mem_filter.mp inside).1, List.mem_append_right _ (by simp [made])⟩

theorem cleanFile (clean : (s.emit project o options solution).errors = []) {i : Item}
    (planned : i ∈ s.plan project solution) :
    ∃ f ∈ (s.emit project o options solution).files, f.path = i.path ∧ o.render i.template = .ok f.content := by
  have accounts : Accounts options o (s.plan project solution) (s.emit project o options solution) :=
    emitAccounts fun _ inside => planProper inside
  rw [accounts.errors, List.filterMap_eq_nil_iff] at clean
  have left := clean i planned
  rw [accounts.files]
  cases printed : i.print o with
  | error cause => simp [Item.outcome, printed, Outcome.cause?] at left
  | ok p =>
    obtain ⟨item, content⟩ := Item.printedItem printed
    refine ⟨⟨p.item.path, p.content, options⟩, List.mem_filterMap.mpr ⟨i, planned, ?_⟩, by rw [item], content⟩
    simp [Item.outcome, printed, Outcome.file?]

theorem pagePlanned {p : String} (page : s.PageAt project p) : ∃ i ∈ s.plan project solution, i.path = p := by
  obtain ⟨key, m, page, inside, listed, rfl⟩ := page
  rcases List.mem_append.mp listed with tab | create
  · obtain ⟨t, shown, rfl⟩ := List.mem_map.mp tab
    exact ⟨_, (planParts project solution s _).mpr (.inl ⟨key, m, inside, .page shown⟩), rfl⟩
  · obtain ⟨a, made, rfl⟩ := Option.map_eq_some_iff.mp (Option.mem_toList.mp create)
    exact ⟨_, (planParts project solution s _).mpr (.inl ⟨key, m, inside, .register made⟩), rfl⟩

theorem pageFile (clean : (s.emit project o options solution).errors = []) {p : String} (page : s.PageAt project p) :
    ∃ f ∈ (s.emit project o options solution).files, f.path = p := by
  obtain ⟨i, planned, rfl⟩ := pagePlanned page
  obtain ⟨f, emitted, path, _⟩ := cleanFile clean planned
  exact ⟨f, emitted, path⟩

theorem pathStem (m : Module) (page : String) :
    Path.stem (pagePath project m page) = Path.stem (page ++ ".tsx") := by
  have whole : '/' ∉ ".tsx".toList := by decide
  have inside : 't' ∈ ".tsx".toList := by decide
  simp only [pagePath, Path.under, List.foldl_cons, List.foldl_nil]
  exact stemBehind _ _ whole inside (by decide)

theorem plainStem {name : String} (plain : Segment name) : Path.stem (name ++ ".tsx") = some name := by
  have alone := stemFile (q := "") plain.whole plain.nonempty
  rwa [append, if_pos (by simp)] at alone

theorem stemsPaged (clean : (s.emit project o options solution).errors = []) {name : String} :
    (∃ f ∈ (s.emit project o options solution).files, s.PageAt project f.path ∧ Path.stem f.path = some name) ↔
      ∃ page, s.Paged page ∧ Path.stem (page ++ ".tsx") = some name := by
  constructor
  · rintro ⟨f, _, ⟨key, m, page, inside, listed, path⟩, stem⟩
    rw [path, pathStem] at stem
    exact ⟨page, ⟨key, m, inside, listed⟩, stem⟩
  · rintro ⟨page, ⟨key, m, inside, listed⟩, stem⟩
    have place : s.PageAt project (pagePath project m page) := ⟨key, m, page, inside, listed, rfl⟩
    obtain ⟨f, emitted, path⟩ := pageFile clean place
    exact ⟨f, emitted, path ▸ place, by rw [path, pathStem, stem]⟩

/-- In an emission without errors every page that the route table imports under a plain name is the stem of a page
file, unless it is the page of an edit action and of nothing else. Which stems the page files have, and which pages
are imported, follows from the tabs and the actions alone. -/
theorem importsPaged (s : Solution) (project solution : String) (o : Overrides) (options : WriteOptions)
    (clean : (s.emit project o options solution).errors = []) :
    let files := (s.emit project o options solution).files
    let table := s.routes solution
    let PageNamed (name : String) := ∃ f ∈ files, s.PageAt project f.path ∧ Path.stem f.path = some name
    (∃ f ∈ files, f.path = routesPath project solution ∧ o.render (.routes table) = .ok f.content) ∧
      (∀ name ∈ table.pageImports, Segment name →
        PageNamed name ∨ (s.Opened Module.editAction name ∧ ¬ s.Paged name)) ∧
      (∀ name, name ∈ table.pageImports ↔ s.Opened Module.createAction name ∨ s.Opened Module.editAction name) ∧
      ∀ name, PageNamed name ↔ ∃ page, s.Paged page ∧ Path.stem (page ++ ".tsx") = some name := by
  have planned : s.routesItem project solution ∈ s.plan project solution :=
    (planParts project solution s _).mpr (.inr rfl)
  obtain ⟨f, emitted, path, content⟩ := cleanFile clean planned
  refine ⟨⟨f, emitted, path ▸ routesItemPath project solution s, content⟩, fun name imported plain => ?_,
    fun _ => importsOpened, fun _ => stemsPaged clean⟩
  by_cases paged : s.Paged name
  · exact .inl ((stemsPaged clean).mpr ⟨name, paged, plainStem plain⟩)
  · exact .inr ⟨(importsOpened.mp imported).resolve_left fun opened => paged (openedPaged opened), paged⟩

def editable : Solution :=
  let tab : Tab :=
    { id := "list", name := "Orders", kind := .single, path := "/shop/order/list", pageName := "OrderListPage",
      icon := "Table", isDefault := true, tableControl := ⟨"Orders", true, true, true⟩, searchFields := [],
      searchSlot := [], layout := .single [] "useOrder" }
  let action (kind : ActionKind) (page : String) : Action := ⟨kind, .navigation, page, "", "", [], none⟩
  ⟨.ofList [("order",
    { name := "Orders", path := "shop/order", route := "/shop/order", pageKind := .single, tabs := [tab],
      actions := [action .create "OrderRegisterPage", action .edit "OrderEditPage"], menu := none,
      fieldApi := false, customSelect := none })]⟩

theorem editableImports :
    (editable.emit "app" SortedMap.empty {} "shop").errors = [] ∧
      "OrderRegisterPage" ∈ (editable.routes "shop").pageImports ∧
      ∃ f ∈ (editable.emit "app" SortedMap.empty {} "shop").files,
        editable.PageAt "app" f.path ∧ Path.stem f.path = some "OrderRegisterPage" := by
  have clean : (editable.emit "app" SortedMap.empty {} "shop").errors = [] := by decide +kernel
  have paged : editable.Paged "OrderRegisterPage" := ⟨"order", _, List.mem_singleton.mpr rfl, by decide⟩
  obtain ⟨_, _, _, stems⟩ := importsPaged editable "app" "shop" SortedMap.empty {} clean
  exact ⟨clean, by decide, (stems _).mpr ⟨_, paged, by decide⟩⟩

theorem editPageUnwritten :
    (editable.emit "app" SortedMap.empty {} "shop").errors = [] ∧
      "OrderEditPage" ∈ (editable.routes "shop").pageImports ∧
      ∀ f ∈ (editable.emit "app" SortedMap.empty {} "shop").files, Path.stem f.path ≠ some "OrderEditPage" :=
  ⟨by decide +kernel, by decide, by decide +kernel⟩

end Solution
end ApiScreens
