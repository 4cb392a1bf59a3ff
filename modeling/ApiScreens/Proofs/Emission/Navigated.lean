import ApiScreens.Proofs.Emission.Spliced

/-! The navigation of an emission as its files have it. The lines of a route table with a path or an element are those
of its blocks and their children, a tab navigation has the lines of its targets, and both import what they name. -/
namespace ApiScreens
open ApiScreens.Path Page Script

namespace Script

def dedent (line : String) : String := String.ofList (line.toList.dropWhile (· == '\t'))

def labelled (labels : List String) (lines : Lines) : Lines :=
  (lines.map dedent).filter fun line => labels.any (Text.startsWith line)

variable {labels : List String} {lines more : Lines}

theorem labelledAppend : labelled labels (lines ++ more) = labelled labels lines ++ labelled labels more := by
  simp [labelled]

theorem labelledCons (line : String) :
    labelled labels (line :: lines) = labelled labels [line] ++ labelled labels lines :=
  @labelledAppend labels [line] lines

theorem labelledNest : labelled labels (nest lines) = labelled labels lines := by
  have same : dedent ∘ (fun line => if line = "" then "" else "\t" ++ line) = dedent := by
    funext line
    by_cases empty : line = "" <;> simp [dedent, empty]
  simp only [labelled, nest, List.map_map, same]

theorem labelledEnclosed {head last : String} (opens : labelled labels [head] = [])
    (closes : labelled labels [last] = []) : labelled labels (enclosed head lines last) = labelled labels lines := by
  rw [enclosed, labelledAppend, labelledCons, labelledNest, opens, closes, List.nil_append, List.append_nil]

theorem labelledSeparated {α : Type} {body inner : α → Lines} (xs : List α)
    (each : ∀ x ∈ xs, labelled labels (body x) = inner x) (opens : labelled labels ["\x7b"] = [])
    (closes : labelled labels ["\x7d"] = []) (parted : labelled labels ["\x7d,"] = []) :
    labelled labels (separated (xs.map fun x => block "" (body x) "")) = xs.flatMap inner := by
  induction xs with
  | nil => rfl
  | cons x rest ih =>
    have here := each x List.mem_cons_self
    have later := ih fun y listed => each y (List.mem_cons_of_mem _ listed)
    cases rest with
    | nil =>
      rw [List.flatMap_singleton, ← here]
      exact labelledEnclosed opens closes
    | cons y others =>
      rw [List.map_cons, List.map_cons, separated, block, enclosed, commaAfterLast, labelledAppend]
      · have front : labelled labels (enclosed "\x7b" (body x) "\x7d,") = inner x :=
          (labelledEnclosed opens parted).trans here
        exact congrArg₂ (· ++ ·) front later
      · simp

theorem labelledLine {label : String} (listed : label ∈ labels) (plain : label.toList.head?.any (· != '\t'))
    (rest : String) : labelled labels [label ++ rest] = [label ++ rest] := by
  obtain ⟨c, others, shape⟩ : ∃ c others, label.toList = c :: others := by
    cases chars : label.toList with
    | nil => simp [chars] at plain
    | cons c others => exact ⟨c, others, rfl⟩
  have stays : dedent (label ++ rest) = label ++ rest := by
    refine String.toList_injective ?_
    rw [shape] at plain
    simp [dedent, shape, by simpa using plain]
  have starts : Text.startsWith (label ++ rest) label := Text.startsExactly.mpr (by simp)
  simp only [labelled, List.map_cons, List.map_nil, stays]
  exact List.filter_eq_self.mpr fun line inside => by
    obtain rfl := List.mem_singleton.mp inside
    exact List.any_eq_true.mpr ⟨label, listed, starts⟩

end Script

namespace Page

def ChildRoute.entries (c : ChildRoute) : Lines := ["path: '" ++ c.path ++ "',", "element: " ++ c.element ++ ","]

def RouteBlock.entries (r : RouteBlock) : Lines :=
  ("path: '" ++ r.path ++ "',") :: r.children.flatMap ChildRoute.entries

namespace Routes

def labels : List String := ["path: ", "element: "]

theorem pathLabelled (path : String) : labelled labels ["path: '" ++ path ++ "',"] = ["path: '" ++ path ++ "',"] := by
  have shape : "path: '" ++ path ++ "'," = "path: " ++ ("'" ++ path ++ "',") := String.toList_injective (by simp)
  rw [shape]
  exact labelledLine (by decide) (by decide) _

theorem childEntries (c : ChildRoute) : labelled labels c.entries = c.entries := by
  have element : labelled labels ["element: " ++ c.element ++ ","] = ["element: " ++ c.element ++ ","] := by
    rw [String.append_assoc]
    exact labelledLine (by decide) (by decide) _
  rw [ChildRoute.entries, labelledCons, pathLabelled, element]
  rfl

theorem routeEntries (r : RouteBlock) : labelled labels (["path: '" ++ r.path ++ "',"] ++
    enclosed "children: [" (separated (r.children.map child)) "],") = r.entries := by
  have children : labelled labels (separated (r.children.map child)) = r.children.flatMap ChildRoute.entries :=
    labelledSeparated _ (fun c _ => childEntries c) rfl rfl rfl
  rw [labelledAppend, pathLabelled, labelledEnclosed rfl rfl, children]
  rfl

theorem importUnlabelled (names : List String) (source : String) : labelled labels [importNames names source] = [] := by
  simp [labelled, labels, dedent, importNames, Text.startsWith, Text.after?]

variable (p : Routes)

theorem linesEntries : labelled labels p.lines = p.routes.flatMap RouteBlock.entries := by
  have routes : labelled labels (separated (p.routes.map route)) = p.routes.flatMap RouteBlock.entries :=
    labelledSeparated _ (fun r _ => routeEntries r) rfl rfl rfl
  have opens : labelled labels ["export const " ++ p.routesConst ++ " = ["] = [] := by
    simp [labelled, labels, dedent, Text.startsWith, Text.after?]
  have closes : labelled labels ["];"] = [] := rfl
  have tabs :
      labelled labels (if p.tabImports.isEmpty then [] else [importNames p.tabImports "@primes/tabs"]) = [] := by
    split
    · rfl
    · exact importUnlabelled _ _
  have pages (names : List String) :
      labelled labels (names.map fun page => importNames [page] "@primes/pages") = [] := by
    induction names with
    | nil => rfl
    | cons page rest ih => rw [List.map_cons, labelledCons, importUnlabelled, ih, List.nil_append]
  have react : labelled labels [importDefault "React" "react"] = [] := by decide
  have empty : labelled labels [""] = [] := rfl
  simp only [lines, labelledAppend, react, tabs, pages, empty, labelledEnclosed opens closes, routes, List.nil_append]

theorem pageImportsFrom {wanted : String} (plain : Quotable wanted) (names : List String) (rest : Lines) :
    importsFrom wanted (names.map (fun page => importNames [page] "@primes/pages") ++ rest) =
      (if "@primes/pages" = wanted then names.map fun page => importNames [page] "@primes/pages" else []) ++
        importsFrom wanted rest := by
  induction names with
  | nil => simp
  | cons page others ih =>
    rw [List.map_cons, List.cons_append, importsNames (by decide) plain, ih]
    split <;> simp

/-- The lines of a route table tell its imports, and path and element of each route, and no others. -/
structure Tells : Prop where
  tabs : importsFrom "@primes/tabs" p.lines =
    if p.tabImports = [] then [] else [importNames p.tabImports "@primes/tabs"]
  pages : importsFrom "@primes/pages" p.lines = p.pageImports.map fun page => importNames [page] "@primes/pages"
  entries : labelled labels p.lines = p.routes.flatMap RouteBlock.entries

theorem linesTell : p.Tells := by
  refine ⟨?tabs, ?pages, p.linesEntries⟩
  all_goals
    cases none : p.tabImports <;>
      simp (disch := decide) [lines, none, importsDefault, importsNames, importsEnd, pageImportsFrom]

end Routes

def TabItem.entries (i : TabItem) : Lines := ["to: '" ++ i.target ++ "',", "content: <" ++ i.pageName ++ " />,"]

namespace TabNavigation
variable (nav : TabNavigation)

def registerEntries : Lines :=
  if nav.registerMode = .navigation then ["navigate('" ++ nav.registerPath ++ "');"] else []

/-- The lines of a tab navigation tell the pages that it imports, target and page of each tab, and the target of the
registration button. -/
structure Tells : Prop where
  pages : importsFrom "@primes/pages" nav.lines = [importNames nav.pageImports "@primes/pages"]
  entries : Carries nav.lines (nav.items.flatMap TabItem.entries ++ nav.registerEntries)

theorem linesTell : nav.Tells := by
  have tabs : Carries (separated (nav.items.map item)) (nav.items.flatMap TabItem.entries) :=
    Carries.separated _ fun i _ => (Carries.all i.entries).before [_, _, _]
  have register : Carries nav.handler nav.registerEntries := by
    unfold handler registerEntries
    cases nav.registerMode with
    | navigation => exact ((Carries.one _).block _ _).behind [""]
    | modal => exact .nothing _
    | none => exact .nil
  have carried := nav.partsCarry tabs register (.nothing _)
  rw [List.append_nil] at carried
  exact ⟨nav.pageLine, carried⟩

end TabNavigation
end Page

namespace Solution

theorem navigationClosed (doc : Document) (h : Heuristics) (project : String) (options : WriteOptions)
    {solution : String} (named : solution ≠ "") (whole : '/' ∉ solution.toList) :
    let s := ofDocument doc h solution
    let files := (s.emit project SortedMap.empty options solution).files
    let table := s.routes solution
    ⟨routesPath project solution, Script.text table.lines, options⟩ ∈ files ∧ table.Tells ∧
      (table.routes.map (·.path)).Nodup ∧
      (∀ block ∈ table.routes, (block.children.map (·.path)).Nodup) ∧
      (∀ name ∈ table.tabImports ++ table.pageImports, ∃ f ∈ files, Path.stem f.path = some name) ∧
      ∀ key m, (key, m) ∈ s.modules.entries → ∃ block nav,
        table.routes.filter (fun r => r.path = m.route) = [block] ∧
        m.navigation key = .tabNavigation nav ∧
        ⟨tabPath project solution key, Script.text nav.lines, options⟩ ∈ files ∧ nav.Tells ∧
        m.Reaches block nav ∧
        ∀ name ∈ nav.pageImports, ∃ f ∈ files, Path.stem f.path = some name := by
  have first : Segment solution := ⟨whole, named⟩
  refine ⟨tableEmitted _ project solution options, Routes.linesTell _, routePaths, fun _ => blockChildren,
    fun _ => tableImports first, fun key m inside => ?_⟩
  obtain ⟨nav, data⟩ : ∃ nav, m.navigation key = .tabNavigation nav := ⟨_, rfl⟩
  have emitted := navigationEmitted project options inside
  rw [data] at emitted
  exact ⟨m.routeBlock key, nav, blockFound inside, data, emitted, nav.linesTell, moduleReaches inside data,
    fun _ imported => pageEmitted first inside (navigationPages data imported)⟩

theorem listingImported :
    let s := ofDocument (listings ["order"]) {} "sales"
    let files := (s.emit "web" SortedMap.empty {} "sales").files
    (∃ lines, ⟨routesPath "web" "sales", Script.text lines, {}⟩ ∈ files ∧
      importsFrom "@primes/tabs" lines = ["import { OrderTabNavigation } from '@primes/tabs';"]) ∧
      ∃ f ∈ files, Path.stem f.path = some "OrderTabNavigation" := by
  have imported :
      ((ofDocument (listings ["order"]) {} "sales").routes "sales").tabImports = ["OrderTabNavigation"] := by decide
  obtain ⟨file, tells, _, _, stems, _⟩ :=
    navigationClosed (listings ["order"]) {} "web" {} (by decide : "sales" ≠ "") (by decide)
  have line := tells.tabs
  rw [imported] at line
  refine ⟨⟨_, file, line.trans (by decide)⟩, stems _ (List.mem_append_left _ ?_)⟩
  rw [imported]
  exact List.mem_singleton.mpr rfl

end Solution
end ApiScreens
