import ApiScreens.Emission
import ApiScreens.Proofs.SortedMap

/-! An emission accounts for its plan. Each item leaves one file or one error and the counters keep step with
the files; what an item leaves depends on the overrides of its own templates and on no others. -/
namespace ApiScreens
open Page

namespace Solution

inductive Part (project solution key : String) (m : Module) : Item → Prop where
  | page {t : Tab} (inside : t ∈ m.tabs) : Part project solution key m (tabItem project key m t)
  | register {a : Action} (creates : m.createAction = some a) :
      Part project solution key m (registerItem project key m a)
  | navigation (tabs : m.tabs ≠ []) : Part project solution key m (navigationItem project solution key m)
  | fieldApi (opted : m.fieldApi = true) : Part project solution key m (fieldItem project solution key)
  | select {c : CustomSelect} (chosen : m.customSelect = some c) :
      Part project solution key m (selectItem project key m c)

structure Planned (project solution : String) (s : Solution) (items : List Item) : Prop where
  parts : ∀ i, i ∈ items ↔
    (∃ key m, (key, m) ∈ s.modules.entries ∧ Part project solution key m i) ∨ i = s.routesItem project solution
  pages : items.countP (·.kind = .page) =
    (s.modules.values.flatMap (·.tabs)).length + (s.modules.values.filterMap (·.createAction)).length
  navigations : items.countP (·.kind = .tabNavigation) = s.modules.values.countP (·.tabs ≠ [])
  fieldApis : items.countP (·.kind = .fieldApi) = s.modules.values.countP (·.fieldApi)
  selects : items.countP (·.kind = .customSelect) = (s.modules.values.filterMap (·.customSelect)).length
  routes : items.countP (·.kind = .routes) = 1

section
variable (project solution : String)

theorem moduleParts {key : String} {m : Module} {i : Item} :
    i ∈ moduleItems project solution key m ↔ Part project solution key m i := by
  constructor
  · intro inside
    simp only [moduleItems, List.mem_append, List.mem_map, Option.mem_toList, Option.map_eq_some_iff] at inside
    rcases inside with (((⟨t, tab, rfl⟩ | ⟨a, creates, rfl⟩) | navigation) | fields) | ⟨c, chosen, rfl⟩
    · exact .page tab
    · exact .register creates
    · obtain ⟨tabs, rfl⟩ : m.tabs ≠ [] ∧ i = navigationItem project solution key m := by simpa using navigation
      exact .navigation tabs
    · obtain ⟨opted, rfl⟩ : m.fieldApi = true ∧ i = fieldItem project solution key := by simpa using fields
      exact .fieldApi opted
    · exact .select chosen
  · intro part
    unfold moduleItems
    cases part with
    | page inside => simp [List.mem_map_of_mem inside]
    | register creates => simp [creates]
    | navigation tabs => simp [tabs]
    | fieldApi opted => simp [opted]
    | select chosen => simp [chosen]

theorem planParts (s : Solution) (i : Item) :
    i ∈ s.plan project solution ↔
      (∃ key m, (key, m) ∈ s.modules.entries ∧ Part project solution key m i) ∨
        i = s.routesItem project solution := by
  simp only [plan, List.mem_append, List.mem_flatMap, List.mem_singleton, moduleParts, Prod.exists]

theorem filterMapCons {α β : Type} (f : α → Option β) (a : α) (l : List α) :
    (a :: l).filterMap f = (f a).toList ++ l.filterMap f := by
  rw [List.filterMap_cons]
  cases f a <;> rfl

def share (ms : List Module) : ItemKind → Nat
  | .page => (ms.flatMap (·.tabs)).length + (ms.filterMap (·.createAction)).length
  | .tabNavigation => ms.countP (·.tabs ≠ [])
  | .fieldApi => ms.countP (·.fieldApi)
  | .customSelect => (ms.filterMap (·.customSelect)).length
  | .routes => 0

theorem shareCons (m : Module) (ms : List Module) (kind : ItemKind) :
    share (m :: ms) kind = share [m] kind + share ms kind := by
  cases kind with
  | page =>
    simp only [share, List.flatMap_cons, List.flatMap_nil, filterMapCons, List.filterMap_nil, List.length_append,
      List.append_nil]
    omega
  | tabNavigation => simp only [share, List.countP_cons, List.countP_nil]; omega
  | fieldApi => simp only [share, List.countP_cons, List.countP_nil]; omega
  | customSelect => simp [share, filterMapCons]
  | routes => rfl

theorem moduleShare (key : String) (m : Module) (kind : ItemKind) :
    (moduleItems project solution key m).countP (·.kind = kind) = share [m] kind := by
  have tabs : (m.tabs.map (tabItem project key m)).countP (·.kind = kind) =
      if kind = .page then m.tabs.length else 0 := by
    cases kind <;> simp [tabItem, Function.comp_def]
  have register : (m.createAction.map (registerItem project key m)).toList.countP (·.kind = kind) =
      if kind = .page then m.createAction.toList.length else 0 := by
    cases m.createAction <;> cases kind <;> simp [registerItem]
  have navigation : (if m.tabs.isEmpty then [] else [navigationItem project solution key m]).countP
      (·.kind = kind) = if kind = .tabNavigation then [m].countP (·.tabs ≠ []) else 0 := by
    cases shown : m.tabs <;> cases kind <;> simp [navigationItem, shown]
  have fields : (if m.fieldApi then [fieldItem project solution key] else []).countP
      (·.kind = kind) = if kind = .fieldApi then [m].countP (·.fieldApi) else 0 := by
    cases opted : m.fieldApi <;> cases kind <;> simp [fieldItem, opted]
  have select : (m.customSelect.map (selectItem project key m)).toList.countP (·.kind = kind) =
      if kind = .customSelect then m.customSelect.toList.length else 0 := by
    cases m.customSelect <;> cases kind <;> simp [selectItem]
  rw [moduleItems, List.countP_append, List.countP_append, List.countP_append, List.countP_append, tabs,
    register, navigation, fields, select]
  cases kind <;> simp [share, filterMapCons]

theorem modulesShare (es : List (String × Module)) (kind : ItemKind) :
    (es.flatMap fun e => moduleItems project solution e.1 e.2).countP (·.kind = kind) =
      share (es.map (·.2)) kind := by
  induction es with
  | nil => cases kind <;> rfl
  | cons e es ih =>
    rw [List.flatMap_cons, List.countP_append, ih, moduleShare, List.map_cons, ← shareCons]

theorem planShare (s : Solution) (kind : ItemKind) :
    (s.plan project solution).countP (·.kind = kind) =
      share s.modules.values kind + if kind = .routes then 1 else 0 := by
  have last : [s.routesItem project solution].countP (·.kind = kind) = if kind = .routes then 1 else 0 := by
    cases kind <;> rfl
  rw [plan, List.countP_append, last, modulesShare, SortedMap.values]

theorem planned (s : Solution) : s.Planned project solution (s.plan project solution) where
  parts := planParts project solution s
  pages := planShare project solution s .page
  navigations := planShare project solution s .tabNavigation
  fieldApis := planShare project solution s .fieldApi
  selects := planShare project solution s .customSelect
  routes := planShare project solution s .routes

end

inductive Outcome where
  | file (file : GeneratedFile) (snippet : Option Snippet) (entry : Option SelectEntry)
  | error (cause : RenderError)
  deriving DecidableEq, Repr

namespace Outcome

def file? : Outcome → Option GeneratedFile
  | file f _ _ => some f
  | error _ => none

def cause? : Outcome → Option RenderError
  | file .. => none
  | error cause => some cause

def snippet? : Outcome → Option Snippet
  | file _ snippet _ => snippet
  | error _ => none

def component? : Outcome → Option SelectEntry
  | file _ _ entry => entry
  | error _ => none

end Outcome

namespace Item

def templates (i : Item) : List Template := i.template :: (i.service.map (·.2)).toList

def outcome (options : WriteOptions) (o : Overrides) (i : Item) : Outcome :=
  match i.print o with
  | .ok p => .file ⟨p.item.path, p.content, options⟩ p.snippet p.item.entry
  | .error cause => .error cause

theorem printSame {o o' : Overrides} {i : Item} (same : ∀ t ∈ i.templates, o.get? t.name = o'.get? t.name) :
    i.print o = i.print o' := by
  have render {t : Template} (inside : t ∈ i.templates) : o.render t = o'.render t := by
    rw [Overrides.render, Overrides.render, same t inside]
  unfold print
  rw [render (t := i.template) List.mem_cons_self]
  cases service : i.service with
  | none => rfl
  | some pair =>
    have beside : pair.2 ∈ i.templates := by simp [templates, service]
    simp only [render beside]

theorem outcomeSame {options : WriteOptions} {o o' : Overrides} {i : Item}
    (same : ∀ t ∈ i.templates, o.get? t.name = o'.get? t.name) : i.outcome options o = i.outcome options o' := by
  rw [outcome, outcome, printSame same]

structure Proper (i : Item) : Prop where
  service : i.service.isSome ↔ i.kind = .fieldApi
  entry : i.entry.isSome ↔ i.kind = .customSelect

theorem renderCause {o : Overrides} {t : Template} {cause : RenderError} (failed : o.render t = .error cause) :
    cause.template = t.name ∧ ∃ source, o.get? t.name = some source := by
  unfold Overrides.render at failed
  cases found : o.get? t.name with
  | none => simp [found] at failed
  | some source =>
    cases rendered : Override.render source t.context with
    | ok text => simp [found, rendered, Except.mapError] at failed
    | error failure =>
      simp only [found, rendered, Except.mapError, Except.error.injEq] at failed
      exact ⟨by rw [← failed], source, rfl⟩

theorem printCases (o : Overrides) (i : Item) :
    (∃ p, i.print o = .ok p ∧ p.item = i ∧ o.render i.template = .ok p.content ∧
        p.snippet.isSome = i.service.isSome) ∨
      ∃ t ∈ i.templates, ∃ cause, o.render t = .error cause ∧ i.print o = .error cause := by
  unfold print
  cases content : o.render i.template with
  | error cause => exact .inr ⟨i.template, List.mem_cons_self, cause, content, rfl⟩
  | ok text =>
    cases service : i.service with
    | none => exact .inl ⟨⟨i, text, none⟩, rfl, rfl, rfl, rfl⟩
    | some pair =>
      cases code : o.render pair.2 with
      | error cause =>
        have beside : pair.2 ∈ i.templates := by simp [templates, service]
        exact .inr ⟨pair.2, beside, cause, code, by simp [code, bind, Except.bind]⟩
      | ok snippet =>
        exact .inl ⟨⟨i, text, some ⟨pair.1, snippet⟩⟩, by simp [code, bind, Except.bind], rfl, rfl, rfl⟩

theorem printedItem {o : Overrides} {i : Item} {p : Printed} (printed : i.print o = .ok p) :
    p.item = i ∧ o.render i.template = .ok p.content := by
  obtain ⟨q, found, item, content, _⟩ | ⟨_, _, _, _, failed⟩ := printCases o i
  · rw [printed] at found
    cases found
    exact ⟨item, content⟩
  · rw [printed] at failed
    contradiction

theorem outcomeFile {options : WriteOptions} {o : Overrides} {i : Item} {f : GeneratedFile}
    {snippet : Option Snippet} {entry : Option SelectEntry}
    (left : i.outcome options o = .file f snippet entry) :
    f.path = i.path ∧ snippet.isSome = i.service.isSome ∧ entry = i.entry := by
  unfold outcome at left
  obtain ⟨p, printed, item, _, beside⟩ | ⟨_, _, cause, _, failed⟩ := printCases o i
  · simp only [printed, item] at left
    cases left
    exact ⟨rfl, beside, rfl⟩
  · simp [failed] at left

theorem outcomeCause {options : WriteOptions} {o : Overrides} {i : Item} {cause : RenderError}
    (left : i.outcome options o = .error cause) :
    ∃ t ∈ i.templates, cause.template = t.name ∧ ∃ source, o.get? t.name = some source := by
  unfold outcome at left
  obtain ⟨p, printed, _⟩ | ⟨t, inside, found, rendered, failed⟩ := printCases o i
  · simp [printed] at left
  · simp only [failed, Outcome.error.injEq] at left
    exact ⟨t, inside, left ▸ renderCause rendered⟩

end Item

theorem emittedItem {s : Solution} {project solution : String} {o : Overrides} {options : WriteOptions}
    {f : GeneratedFile} (inside : f ∈ (s.emit project o options solution).files) :
    ∃ i ∈ s.plan project solution, f.path = i.path ∧ f.options = options := by
  obtain ⟨p, printed, rfl⟩ := List.mem_map.mp inside
  obtain ⟨⟨i, outcome⟩, tried, made⟩ := List.mem_filterMap.mp printed
  obtain ⟨j, planned, same⟩ := List.mem_map.mp tried
  cases same
  have done : i.print o = .ok p := by
    cases shape : i.print o with
    | error e => simp [shape, Except.toOption] at made
    | ok q => simpa [shape, Except.toOption] using made
  exact ⟨i, planned, by rw [(Item.printedItem done).1], rfl⟩

theorem planProper {project solution : String} {s : Solution} {i : Item} (inside : i ∈ s.plan project solution) :
    i.Proper := by
  rcases (planParts project solution s i).mp inside with ⟨key, m, _, part⟩ | rfl
  · cases part with
    | page => exact ⟨by simp [tabItem], by simp [tabItem]⟩
    | register => exact ⟨by simp [registerItem], by simp [registerItem]⟩
    | navigation => exact ⟨by simp [navigationItem], by simp [navigationItem]⟩
    | fieldApi => exact ⟨by simp [fieldItem], by simp [fieldItem]⟩
    | select => exact ⟨by simp [selectItem], by simp [selectItem]⟩
  · exact ⟨by simp [routesItem], by simp [routesItem]⟩

/-- An emission accounts for its items: each has left one outcome in it, in their order. -/
structure Accounts (options : WriteOptions) (o : Overrides) (items : List Item) (e : Emission) : Prop where
  files : e.files = items.filterMap fun i => (i.outcome options o).file?
  errors : e.errors = items.filterMap fun i =>
    (i.outcome options o).cause?.map fun cause => i.label ++ ": " ++ cause.message
  snippets : e.snippets = items.filterMap fun i => (i.outcome options o).snippet?
  customSelects : e.customSelects = items.filterMap fun i => (i.outcome options o).component?
  pages : e.pages = items.countP fun i => i.kind = .page && (i.outcome options o).file?.isSome
  tabNavigations : e.tabNavigations =
    items.countP fun i => i.kind = .tabNavigation && (i.outcome options o).file?.isSome
  routes : e.routes = items.countP fun i => i.kind = .routes && (i.outcome options o).file?.isSome
  balance : e.files.length + e.errors.length = items.length
  counters : e.files.length =
    e.pages + e.tabNavigations + e.routes + e.snippets.length + e.customSelects.length

def Emission.add (e : Emission) (i : Item) : Outcome → Emission
  | .file f snippet entry =>
      { e with
        files := f :: e.files
        pages := e.pages + if i.kind = .page then 1 else 0
        tabNavigations := e.tabNavigations + if i.kind = .tabNavigation then 1 else 0
        routes := e.routes + if i.kind = .routes then 1 else 0
        customSelects := entry.toList ++ e.customSelects
        snippets := snippet.toList ++ e.snippets }
  | .error cause => { e with errors := (i.label ++ ": " ++ cause.message) :: e.errors }

def emitItems (options : WriteOptions) (o : Overrides) (items : List Item) : Emission :=
  .of options (items.map fun i => (i, i.print o))

section
variable {options : WriteOptions} {o : Overrides} {i : Item} {items : List Item} {e : Emission}

theorem emitCons : emitItems options o (i :: items) = (emitItems options o items).add i (i.outcome options o) := by
  cases printed : i.print o with
  | error cause => simp [emitItems, Emission.of, Emission.add, Item.outcome, printed, Except.toOption]
  | ok p =>
    have whole : p.item = i := (Item.printedItem printed).1
    simp [emitItems, Emission.of, Emission.add, Item.outcome, printed, Except.toOption, counted,
      List.countP_cons, filterMapCons, whole]

theorem accountsCons (proper : i.Proper) (rest : Accounts options o items e) :
    Accounts options o (i :: items) (e.add i (i.outcome options o)) := by
  cases left : i.outcome options o with
  | error cause =>
    exact
      { files := by simp [Emission.add, left, Outcome.file?, rest.files]
        errors := by simp [Emission.add, left, Outcome.cause?, rest.errors]
        snippets := by simp [Emission.add, left, Outcome.snippet?, rest.snippets]
        customSelects := by simp [Emission.add, left, Outcome.component?, rest.customSelects]
        pages := by simp [Emission.add, left, Outcome.file?, rest.pages]
        tabNavigations := by simp [Emission.add, left, Outcome.file?, rest.tabNavigations]
        routes := by simp [Emission.add, left, Outcome.file?, rest.routes]
        balance := by
          have balance := rest.balance
          simp only [Emission.add, List.length_cons]
          omega
        counters := rest.counters }
  | file f snippet entry =>
    obtain ⟨_, beside, own⟩ := Item.outcomeFile left
    exact
      { files := by simp [Emission.add, left, Outcome.file?, rest.files]
        errors := by simp [Emission.add, left, Outcome.cause?, rest.errors]
        snippets := by rw [Emission.add, filterMapCons, left, rest.snippets, Outcome.snippet?]
        customSelects := by rw [Emission.add, filterMapCons, left, rest.customSelects, Outcome.component?]
        pages := by simp [Emission.add, left, Outcome.file?, rest.pages, List.countP_cons]
        tabNavigations := by simp [Emission.add, left, Outcome.file?, rest.tabNavigations, List.countP_cons]
        routes := by simp [Emission.add, left, Outcome.file?, rest.routes, List.countP_cons]
        balance := by
          have balance := rest.balance
          simp only [Emission.add, List.length_cons]
          omega
        counters := by
          have counters := rest.counters
          have snippets : snippet.toList.length = if i.kind = .fieldApi then 1 else 0 := by
            simp only [Option.length_toList, beside, proper.service]
          have entries : entry.toList.length = if i.kind = .customSelect then 1 else 0 := by
            simp only [Option.length_toList, own, proper.entry]
          simp only [Emission.add, List.length_cons, List.length_append, snippets, entries]
          cases i.kind <;> simp <;> omega }

theorem emitAccounts (proper : ∀ i ∈ items, i.Proper) : Accounts options o items (emitItems options o items) := by
  induction items with
  | nil => exact ⟨rfl, rfl, rfl, rfl, rfl, rfl, rfl, rfl, rfl⟩
  | cons i items ih =>
    obtain ⟨first, others⟩ := List.forall_mem_cons.mp proper
    rw [emitCons]
    exact accountsCons first (ih others)

end

/-- What items leave is theirs alone: under other overrides it is the same, if those of their own templates
are. -/
structure Isolated (options : WriteOptions) (o : Overrides) (items : List Item) : Prop where
  path : ∀ i ∈ items, ∀ f ∈ (i.outcome options o).file?, f.path = i.path
  cause : ∀ i ∈ items, ∀ c ∈ (i.outcome options o).cause?,
    ∃ t ∈ i.templates, c.template = t.name ∧ ∃ source, o.get? t.name = some source
  same : ∀ o' : Overrides, ∀ i ∈ items, (∀ t ∈ i.templates, o.get? t.name = o'.get? t.name) →
    i.outcome options o = i.outcome options o'
  others : ∀ name source, ∀ i ∈ items, (∀ t ∈ i.templates, t.name ≠ name) →
    i.outcome options (o.insert name source) = i.outcome options o

theorem outcomesIsolated (options : WriteOptions) (o : Overrides) (items : List Item) :
    Isolated options o items where
  path i _ f there := by
    cases left : i.outcome options o with
    | error cause => simp [left, Outcome.file?] at there
    | file file snippet entry =>
      have same : file = f := by simpa [left, Outcome.file?] using there
      exact same ▸ (Item.outcomeFile left).1
  cause i _ c there := by
    cases left : i.outcome options o with
    | file file snippet entry => simp [left, Outcome.cause?] at there
    | error cause =>
      have same : cause = c := by simpa [left, Outcome.cause?] using there
      exact same ▸ Item.outcomeCause left
  same o' i _ same := Item.outcomeSame same
  others name source i _ other := Item.outcomeSame fun t inside => by
    rw [SortedMap.getInsert, if_neg (other t inside)]

theorem emitIsolated (s : Solution) (project solution : String) (options : WriteOptions) (o : Overrides) :
    s.Planned project solution (s.plan project solution) ∧
      Accounts options o (s.plan project solution) (s.emit project o options solution) ∧
      Isolated options o (s.plan project solution) :=
  ⟨planned project solution s,
    emitAccounts fun _ inside => planProper inside,
    outcomesIsolated options o _⟩

def stock : Solution :=
  ⟨.ofList [("item",
    { name := "items", path := "shop/item", route := "/shop/item", pageKind := .single, tabs := [], actions := [],
      menu := none, fieldApi := true, customSelect := some ⟨"id", "name", none⟩ })]⟩

def strictService : Overrides := SortedMap.empty.insert "field_api_service.ts" "\x7b\x7b page_name \x7d\x7d"

theorem strictServiceIsolated :
    (stock.emit "app" strictService {} "shop").errors =
        ["item/fieldApi: failed to render override field_api_service.ts"] ∧
      (stock.emit "app" strictService {} "shop").files.length = 2 ∧
      ∀ i ∈ stock.plan "app" "shop", (∀ t ∈ i.templates, t.name ≠ "field_api_service.ts") →
        i.outcome {} strictService = i.outcome {} SortedMap.empty :=
  ⟨by decide +kernel, by decide +kernel, (emitIsolated stock "app" "shop" {} SortedMap.empty).2.2.others _ _⟩

end Solution
end ApiScreens
