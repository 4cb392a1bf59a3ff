import ApiScreens.Proofs.Emission.Paths
import ApiScreens.Proofs.Solutions.Run

/-! Select components over all solutions of a run. They share one directory and are named for the module key alone:
of those with one place the last is left, and the index names each of them. -/
namespace ApiScreens
open Files ApiScreens.Path

namespace Page

def exportLine (name : String) : String := "export " ++ Script.braced name ++ " from './" ++ name ++ "';"

theorem exportLineInjective : Function.Injective exportLine := by
  intro a b same
  have chars := congrArg String.toList same
  simp only [exportLine, Script.braced, String.toList_append, List.append_assoc] at chars
  have length : a.toList.length = b.toList.length := by
    have lengths := congrArg List.length chars
    simp only [List.length_append] at lengths
    omega
  have behind := List.append_cancel_left (List.append_cancel_left chars)
  exact String.toList_injective (List.append_inj behind length).1

def typeLine (e : SelectEntry) : String :=
  "export type " ++ Script.braced e.typeName ++ " from './" ++ e.componentName ++ "';"

theorem exportLineMark (name : String) : (exportLine name).toList[7]? = some '{' := by
  simp only [exportLine, Script.braced, String.toList_append, List.append_assoc]
  rfl

theorem typeLineMark (e : SelectEntry) : (typeLine e).toList[7]? = some 't' := by
  have opening (a b c d : String) : ("export type " ++ a ++ b ++ c ++ d).toList[7]? = some 't' := by
    rw [String.toList_append, String.toList_append, String.toList_append, String.toList_append]
    rfl
  exact opening _ _ _ _

theorem indexCount (entries : List SelectEntry) (name : String) :
    (SelectIndex.lines ⟨entries⟩).count (exportLine name) = (entries.map (·.componentName)).count name := by
  have blank : "" ≠ exportLine name := by
    intro same
    have mark := exportLineMark name
    simp [← same] at mark
  have typed (e : SelectEntry) : typeLine e ≠ exportLine name := by
    intro same
    have mark := exportLineMark name
    rw [← same, typeLineMark] at mark
    contradiction
  have lines : SelectIndex.lines ⟨entries⟩ =
      entries.flatMap (fun e => [exportLine e.componentName, typeLine e]) ++ [""] := rfl
  rw [lines, List.count_append, List.count_eq_zero_of_not_mem (l := [""]) (by simpa using blank.symm), Nat.add_zero]
  clear lines
  induction entries with
  | nil => rfl
  | cons e rest ih =>
    have own : (exportLine e.componentName == exportLine name) = (e.componentName == name) := by
      rw [Bool.eq_iff_iff, beq_iff_eq, beq_iff_eq, exportLineInjective.eq_iff]
    rw [List.flatMap_cons, List.count_append, ih, List.count_cons, List.count_cons_of_ne (typed e),
      List.count_nil, List.map_cons, List.count_cons, own]
    omega

end Page

structure Choice where
  key : String
  module : Module
  select : CustomSelect
  deriving DecidableEq

namespace Choice
variable (c : Choice) (project : String)

def component : String := (Module.selectEntry c.key).componentName

def item : Solution.Item := Solution.selectItem project c.key c.module c.select

def text : String := (c.module.select c.key c.select).text

def place (base : Location) : Location := Disk.locationOf base (c.item project).path

end Choice

namespace Solution
variable (project solution : String) (s : Solution)

def choices : List Choice := s.modules.entries.filterMap fun (key, m) => m.customSelect.map (⟨key, m, ·⟩)

theorem moduleSelects (key : String) (m : Module) :
    (moduleItems project solution key m).filter (·.kind = .customSelect) =
      (m.customSelect.map (selectItem project key m)).toList := by
  have none {items : List Item} (other : ∀ i ∈ items, i.kind ≠ .customSelect) :
      items.filter (·.kind = .customSelect) = [] :=
    List.filter_eq_nil_iff.mpr fun i inside => by simpa using other i inside
  have pages : (m.tabs.map (tabItem project key m)).filter (·.kind = .customSelect) = [] :=
    none (by simp [tabItem])
  have registers : (m.createAction.map (registerItem project key m)).toList.filter (·.kind = .customSelect) = [] :=
    none (by simp [registerItem])
  have navigation : (if m.tabs.isEmpty then [] else [navigationItem project solution key m]).filter
      (·.kind = .customSelect) = [] := by
    split <;> simp [navigationItem]
  have fields : (if m.fieldApi then [fieldItem project solution key] else []).filter
      (·.kind = .customSelect) = [] := by
    split <;> simp [fieldItem]
  rw [moduleItems, List.filter_append, List.filter_append, List.filter_append, List.filter_append, pages, registers,
    navigation, fields]
  cases m.customSelect <;> simp [selectItem]

theorem planSelects : (s.plan project solution).filter (·.kind = .customSelect) =
    s.choices.map (Choice.item · project) := by
  have last : [s.routesItem project solution].filter (·.kind = .customSelect) = [] := by
    simp [routesItem]
  unfold plan choices
  rw [List.filter_append, last, List.append_nil]
  induction s.modules.entries with
  | nil => rfl
  | cons e rest ih =>
    obtain ⟨key, m⟩ := e
    rw [List.flatMap_cons, List.filter_append, ih, moduleSelects, filterMapCons, List.map_append]
    cases chosen : m.customSelect <;> simp [Choice.item, chosen]

theorem planEntries : (s.plan project solution).filterMap (·.entry) =
    s.choices.map fun c => Module.selectEntry c.key := by
  have chosen : (s.plan project solution).filterMap (·.entry) =
      ((s.plan project solution).filter (·.kind = .customSelect)).filterMap (·.entry) := by
    rw [List.filterMap_filter]
    refine List.filterMap_congr fun i inside => ?_
    have entry := (planProper inside).entry
    cases found : i.entry with
    | none => simp
    | some e =>
      rw [found] at entry
      simp [entry.mp rfl]
  rw [chosen, planSelects, List.filterMap_map, ← List.filterMap_eq_map]
  rfl

theorem emittedSelects (options : WriteOptions) :
    (s.emit project SortedMap.empty options solution).customSelects =
      s.choices.map fun c => Module.selectEntry c.key := by
  rw [← planEntries project solution]
  unfold emit Emission.of
  simp only
  induction s.plan project solution with
  | nil => rfl
  | cons i rest ih =>
    obtain ⟨snippet, printed⟩ := printBuiltIn i
    simpa [printed, Except.toOption, filterMapCons] using ih

end Solution

def Files.PlaceEnds (tail : String) (l : Location) : Prop :=
  ∃ front name, l = front ++ [name] ∧ tail.toList <:+ name.toList

theorem Files.PlaceEnds.apart {s t : String} {l k : Location} (one : PlaceEnds s l) (two : PlaceEnds t k)
    (neither : ¬s.toList <:+ t.toList ∧ ¬t.toList <:+ s.toList) : l ≠ k := by
  intro same
  obtain ⟨_, name, here, ends⟩ := one
  obtain ⟨_, other, there, stops⟩ := two
  rw [same, there] at here
  rw [← (List.append_singleton_inj.mp here).2] at ends
  cases List.suffix_or_suffix_of_suffix ends stops with
  | inl first => exact neither.1 first
  | inr second => exact neither.2 second

theorem Path.underPlace (base : Location) (project : String) (parts : List String) (name : String) {tail : String}
    (whole : '/' ∉ tail.toList) (inside : 't' ∈ tail.toList) :
    PlaceEnds tail (Disk.locationOf base (Path.under project (parts ++ [name ++ tail]))) := by
  have front : ∃ front, Path.under project (parts ++ [name ++ tail]) = front ++ tail := by
    rw [Path.under, List.foldl_append, List.foldl_cons, List.foldl_nil]
    unfold Path.append
    split
    · exact ⟨_, rfl⟩
    · split
      · exact ⟨_, (String.append_assoc ..).symm⟩
      · exact ⟨_, (String.append_assoc ..).symm⟩
  obtain ⟨front, same⟩ := front
  rw [same]
  exact placeEnds base front whole inside (by decide)

theorem Choice.itemPath (c : Choice) (project : String) : (c.item project).path =
    append (append project "src/components/customSelect") (c.component ++ ".tsx") := by
  simp only [item, Solution.selectItem, Path.under, component, List.foldl_cons, List.foldl_nil]

theorem Choice.sharedPath {c d : Choice} (same : c.component = d.component) (project : String) :
    (c.item project).path = (d.item project).path := by
  rw [itemPath, itemPath, same]

theorem Choice.itemText (c : Choice) (project : String) : (c.item project).template.text = c.text := by
  simp only [item, Solution.selectItem, text]

theorem Choice.itemEnds (c : Choice) (project : String) :
    (c.item project).path.toList.getLast? = some 'x' := by
  have named : c.component ++ ".tsx" ≠ "" := fun empty => absurd (String.append_eq_empty_iff.mp empty).2 (by decide)
  rw [itemPath, appendEnds _ named, String.toList_append, List.getLast?_append_of_ne_nil _ (by decide)]
  decide

theorem Choice.placeEnds (c : Choice) (project : String) (base : Location) :
    PlaceEnds "SelectComponent.tsx" (c.place project base) := by
  rw [place, item, Solution.selectSpelled]
  exact underPlace base project _ _ (by decide) (by decide)

theorem Solution.otherPlace {s : Solution} {project solution : String} (base : Location) {i : Item}
    (planned : i ∈ s.plan project solution) (page : i.kind ≠ .page) (select : i.kind ≠ .customSelect)
    (c : Choice) : c.place project base ≠ Disk.locationOf base i.path := by
  obtain ⟨parts, name, spelled⟩ := planSpelled planned
  rw [spelled]
  generalize i.kind = kind at page select
  have place : PlaceEnds kind.tail (Disk.locationOf base (Path.under project (parts ++ [name ++ kind.tail]))) :=
    Path.underPlace base project parts name (by cases kind <;> decide) (by cases kind <;> decide)
  refine (c.placeEnds project base).apart place ?_
  cases kind with
  | page => exact absurd rfl page
  | customSelect => exact absurd rfl select
  | tabNavigation => decide
  | fieldApi => decide
  | routes => decide

namespace Solutions
variable (s : Solutions)

def choices : List Choice := s.entries.flatMap fun e => e.2.choices

def items (project : String) : List Solution.Item := s.entries.flatMap fun e => e.2.plan project e.1

def index : Page.SelectIndex := ⟨s.choices.map fun c => Module.selectEntry c.key⟩

def SelectsApart : Prop := (s.choices.map fun c => Naming.pascal c.key).Nodup

instance : Decidable s.SelectsApart := by unfold SelectsApart; infer_instance

def NoPageAt (project : String) (base : Location) (c : Choice) : Prop :=
  ∀ i ∈ s.items project, i.kind = .page → c.place project base ≠ Disk.locationOf base i.path

instance (project : String) (base : Location) (c : Choice) : Decidable (s.NoPageAt project base c) := by
  unfold NoPageAt; infer_instance

theorem itemSelects (project : String) : (s.items project).filter (·.kind = .customSelect) =
    s.choices.map (Choice.item · project) := by
  simp only [items, choices, List.filter_flatMap, List.map_flatMap, Solution.planSelects]

theorem componentsApart : (s.choices.map Choice.component).Nodup ↔ s.SelectsApart := by
  have injective : Function.Injective (· ++ "SelectComponent") := fun a b same => (String.append_left_inj _).mp same
  have spelled : s.choices.map Choice.component =
      (s.choices.map fun c => Naming.pascal c.key).map (· ++ "SelectComponent") := by
    rw [List.map_map]
    rfl
  rw [spelled, List.nodup_map_iff injective, SelectsApart]

theorem exportedOnce :
    (∀ c ∈ s.choices, s.index.lines.count (Page.exportLine c.component) = 1) ↔ s.SelectsApart := by
  have names : s.index.components.map (·.componentName) = s.choices.map Choice.component := by
    rw [index, List.map_map]
    rfl
  rw [← s.componentsApart, List.nodup_iff_count_eq_one, List.forall_mem_map, ← names]
  simp only [← Page.indexCount]

theorem placesApart (project : String) (base : Location) (whole : ∀ c ∈ s.choices, '/' ∉ c.key.toList) :
    (s.choices.map (Choice.place · project base)).Nodup ↔ s.SelectsApart := by
  have place : ∀ c ∈ s.choices, c.place project base =
      Disk.locationOf base (append project "src/components/customSelect") ++ [c.component ++ ".tsx"] := by
    intro c inside
    have clear : '/' ∉ c.component.toList := by
      rw [Choice.component, Module.selectEntry, String.toList_append, List.mem_append, not_or]
      exact ⟨Naming.pascalWhole (whole c inside), by decide⟩
    rw [Choice.place, Choice.itemPath, Disk.locationBehind base _ (fileComponent clear)]
  have injective : Function.Injective fun name : String =>
      Disk.locationOf base (append project "src/components/customSelect") ++ [name ++ ".tsx"] :=
    fun a b same => (String.append_left_inj _).mp (List.append_singleton_inj.mp same).2
  rw [← s.componentsApart, ← List.nodup_map_iff injective, List.map_map, List.map_congr_left place]
  rfl

end Solutions

namespace Generation
variable (g : Generation)

def itemFile (i : Solution.Item) : GeneratedFile := ⟨i.path, i.template.text, g.options⟩

def indexFile (s : Solutions) : GeneratedFile := ⟨g.indexPath, (Template.selectIndex s.index).text, g.options⟩

section
variable (plain : g.overrides = .empty) {s : Solutions}
include plain

theorem plainSources : g.sources s = (s.items g.project).map g.itemFile := by
  simp only [sources, emission, plain, Solution.emittedFiles, Solutions.items, List.map_flatMap]
  rfl

theorem plainIndex (chosen : s.choices ≠ []) : g.indexFiles (g.selects s) = [g.indexFile s] := by
  have entries : g.selects s = s.index.components := by
    simp only [selects, emission, plain, Solution.emittedSelects, Solutions.index, Solutions.choices, List.map_flatMap]
  have render (t : Template) : g.overrides.render t = .ok t.text := by
    rw [plain]
    rfl
  unfold indexFiles
  rw [entries, if_neg (by simpa [Solutions.index] using chosen), render]
  rfl

variable {w : Workspace} (clean : (g.writeAll w s).2.errors = 0)
include clean

theorem plainWritten (chosen : s.choices ≠ []) : ∃ content, Workspace.Written w.tree
    ((s.items g.project).map g.itemFile ++ g.indexFile s :: [g.mergedFile content]) (g.writeAll w s).1.tree := by
  obtain ⟨content, run⟩ := g.writeAllWritten clean
  rw [g.plainSources plain, g.plainIndex plain chosen, List.append_assoc] at run
  exact ⟨content, run⟩

omit plain clean in
theorem mergedEnds (content : String) (base : Location) :
    EndsIn 'n' (Disk.locationOf base (g.mergedFile content).path) := by
  obtain ⟨l, named⟩ := g.mergedPlaceName base
  refine ⟨"config.json", ?_, by decide⟩
  show (g.mergedPlace base).getLast? = _
  rw [named, List.getLast?_concat]

theorem indexWritten (chosen : s.choices ≠ []) : ∃ path, g.options.Lands g.indexPath path ∧
    (g.writeAll w s).1.tree.readText path = .ok (Template.selectIndex s.index).text := by
  obtain ⟨content, run⟩ := g.plainWritten plain clean chosen
  have last : g.indexPath.toList.getLast? = some 's' := by
    rw [indexPath, appendEnds _ (by decide)]
    decide
  refine run.readable (f := g.indexFile s) (d := 'n') last ⟨by decide, by decide⟩ (by decide)
    ⟨by decide, by decide, by decide⟩ fun l apart _ f inside _ same => ?_
  rw [List.mem_singleton.mp inside] at same
  exact apart (same ▸ g.mergedEnds content _)

omit plain clean in
theorem indexPlace (base : Location) : PlaceEnds "index.ts" (Disk.locationOf base g.indexPath) := by
  have path : g.indexPath = Path.under g.project ([] ++ ["src/components/customSelect/" ++ "index.ts"]) := by
    simp only [indexPath, Path.under, List.nil_append, List.foldl_cons, List.foldl_nil]
    rfl
  rw [path]
  exact Path.underPlace base g.project [] _ (by decide) (by decide)

omit plain clean in
theorem itemWritten {u : Tree} {front later : List Solution.Item} {i : Solution.Item} {content : String}
    (run : Workspace.Written w.tree
      ((front ++ i :: later).map g.itemFile ++ g.indexFile s :: [g.mergedFile content]) u)
    (ends : i.path.toList.getLast? = some 'x')
    (others : g.options.overwrite = true →
      (∀ j ∈ later, Disk.locationOf w.tree.base i.path ≠ Disk.locationOf w.tree.base j.path) ∧
      Disk.locationOf w.tree.base i.path ≠ Disk.locationOf w.tree.base g.indexPath) :
    ∃ path, g.options.Lands i.path path ∧ u.readText path = .ok i.template.text := by
  rw [List.map_append, List.map_cons, List.append_assoc, List.cons_append] at run
  refine run.readable (f := g.itemFile i) (d := 'n') ends ⟨by decide, by decide⟩ (by decide)
    ⟨by decide, by decide, by decide⟩ fun l apart own f inside asked same => ?_
  cases List.mem_append.mp inside with
  | inl source =>
    obtain ⟨j, listed, rfl⟩ := List.mem_map.mp source
    exact (others asked).1 j listed ((own asked).symm.trans same)
  | inr last =>
    cases List.mem_cons.mp last with
    | inl index =>
      subst index
      exact (others asked).2 ((own asked).symm.trans same)
    | inr merged =>
      rw [List.mem_singleton.mp merged] at same
      exact apart (same ▸ g.mergedEnds content _)

theorem selectWritten {before after : List Choice} {c : Choice} (order : s.choices = before ++ c :: after)
    (last : g.options.overwrite = true →
      (∀ d ∈ after, c.place g.project w.tree.base ≠ d.place g.project w.tree.base) ∧
        s.NoPageAt g.project w.tree.base c) :
    ∃ path, g.options.Lands (c.item g.project).path path ∧
      (g.writeAll w s).1.tree.readText path = .ok c.text := by
  obtain ⟨content, run⟩ := g.plainWritten plain clean (by simp [order])
  have selects := s.itemSelects g.project
  rw [order, List.map_append, List.map_cons, List.filter_eq_append_iff] at selects
  obtain ⟨front, rest, items, _, selects⟩ := selects
  obtain ⟨between, later, shape, _, _, selects⟩ := List.filter_eq_cons_iff.mp selects
  rw [items, shape, ← List.append_assoc] at run
  rw [← c.itemText g.project]
  -- what is made later is a select of `after`, a page, or ends otherwise than a select does
  refine g.itemWritten run (c.itemEnds g.project) fun asked => ⟨fun j listed => ?_, ?_⟩
  · have planned : j ∈ s.items g.project := by
      rw [items, shape]
      simp [listed]
    by_cases select : j.kind = .customSelect
    · have chosen : j ∈ later.filter (·.kind = .customSelect) := by simp [listed, select]
      rw [selects] at chosen
      obtain ⟨d, inside, rfl⟩ := List.mem_map.mp chosen
      exact (last asked).1 d inside
    · by_cases page : j.kind = .page
      · exact (last asked).2 j planned page
      · obtain ⟨e, _, own⟩ := List.mem_flatMap.mp planned
        exact Solution.otherPlace _ own page select c
  · exact (c.placeEnds g.project w.tree.base).apart (g.indexPlace w.tree.base) (by decide)

theorem selectReplaced (asked : g.options.overwrite = true) {before after : List Choice} {c d : Choice}
    (order : s.choices = before ++ d :: after)
    (last : ∀ e ∈ after, d.place g.project w.tree.base ≠ e.place g.project w.tree.base)
    (free : s.NoPageAt g.project w.tree.base d) (same : c.component = d.component) :
    (g.writeAll w s).1.tree.readText (c.item g.project).path = .ok d.text := by
  obtain ⟨path, own, text⟩ := g.selectWritten plain clean order fun _ => ⟨last, free⟩
  rw [Choice.sharedPath same, ← own.overwritten asked]
  exact text

theorem selectsWritten (apart : s.SelectsApart) (whole : ∀ c ∈ s.choices, '/' ∉ c.key.toList)
    (pages : g.options.overwrite = true → ∀ c ∈ s.choices, s.NoPageAt g.project w.tree.base c) {c : Choice}
    (chosen : c ∈ s.choices) :
    ∃ path, g.options.Lands (c.item g.project).path path ∧
      (g.writeAll w s).1.tree.readText path = .ok c.text := by
  obtain ⟨before, after, order⟩ := List.append_of_mem chosen
  have places := (s.placesApart g.project w.tree.base whole).mpr apart
  rw [order, List.map_append, List.map_cons] at places
  have fresh := (List.nodup_cons.mp (List.nodup_append.mp places).2.1).1
  exact g.selectWritten plain clean order fun asked =>
    ⟨fun d inside same => fresh (List.mem_map.mpr ⟨d, inside, same.symm⟩), pages asked c chosen⟩

end

structure SelectsKept (s : Solutions) (base : Location) (u : Tree) : Prop where
  index : s.choices ≠ [] → ∃ path, g.options.Lands g.indexPath path ∧
    u.readText path = .ok (Template.selectIndex s.index).text
  once : (∀ c ∈ s.choices, s.index.lines.count (Page.exportLine c.component) = 1) ↔ s.SelectsApart
  places : (∀ c ∈ s.choices, '/' ∉ c.key.toList) →
    ((s.choices.map (Choice.place · g.project base)).Nodup ↔ s.SelectsApart)
  last : ∀ before c after, s.choices = before ++ c :: after →
    (g.options.overwrite = true →
      (∀ d ∈ after, c.place g.project base ≠ d.place g.project base) ∧ s.NoPageAt g.project base c) →
    ∃ path, g.options.Lands (c.item g.project).path path ∧ u.readText path = .ok c.text
  all : s.SelectsApart → (∀ c ∈ s.choices, '/' ∉ c.key.toList) →
    (g.options.overwrite = true → ∀ c ∈ s.choices, s.NoPageAt g.project base c) → ∀ c ∈ s.choices,
    ∃ path, g.options.Lands (c.item g.project).path path ∧ u.readText path = .ok c.text

theorem selectsKept {s : Solutions} {w : Workspace} (plain : g.overrides = .empty)
    (clean : (g.writeAll w s).2.errors = 0) : g.SelectsKept s w.tree.base (g.writeAll w s).1.tree where
  index := g.indexWritten plain clean
  once := s.exportedOnce
  places := s.placesApart g.project w.tree.base
  last _ _ _ order free := g.selectWritten plain clean order free
  all apart whole pages _ chosen := g.selectsWritten plain clean apart whole pages chosen

def orderChoice (key value : String) : Choice :=
  { key
    module :=
      { name := "orders", path := "shop/order", route := "/shop/order", pageKind := .single, tabs := [], actions := [],
        menu := none, fieldApi := false, customSelect := some ⟨value, "name", none⟩ }
    select := ⟨value, "name", none⟩ }

def selecting (c : Choice) : Solution := ⟨.ofList [(c.key, c.module)]⟩

def emptyProject : Workspace :=
  { tree := Tree.ofList [] [(["out"], .directory), (["out", "src"], .directory),
      (["out", "src", "components"], .directory), (["out", "src", "components", "customSelect"], .directory),
      (["out", "src", "routes"], .directory)] }

theorem ordersAndItemsKept :
    let g : Generation := ⟨"configs", "out", ⟨true, false⟩, .empty⟩
    let s : Solutions := .ofList [("sales", selecting (orderChoice "order" "id")),
      ("stock", selecting (orderChoice "item" "no"))]
    (g.writeAll emptyProject s).2.errors = 0 ∧ ∀ c ∈ s.choices,
      (g.writeAll emptyProject s).1.tree.readText (c.item g.project).path = .ok c.text := by
  intro g s
  have clean : (g.writeAll emptyProject s).2.errors = 0 := by decide +kernel
  refine ⟨clean, fun c chosen => ?_⟩
  obtain ⟨path, own, text⟩ := (g.selectsKept rfl clean).all (by decide) (by decide) (by decide) c chosen
  rw [← own.overwritten rfl]
  exact text

theorem sameKeyOverwritten :
    let g : Generation := ⟨"configs", "out", ⟨true, false⟩, .empty⟩
    let c := orderChoice "order" "id"
    let d := orderChoice "order" "no"
    let s : Solutions := .ofList [("sales", selecting c), ("stock", selecting d)]
    (g.writeAll emptyProject s).2.errors = 0 ∧ s.choices = [c, d] ∧
      s.index.lines.count (Page.exportLine c.component) = 2 ∧
      (c.item g.project).path = (d.item g.project).path ∧
      (g.writeAll emptyProject s).1.tree.readText (c.item g.project).path = .ok d.text ∧
      c.module.select c.key c.select ≠ d.module.select d.key d.select := by
  intro g c d s
  have clean : (g.writeAll emptyProject s).2.errors = 0 := by decide +kernel
  have order : s.choices = [c] ++ d :: [] := by decide +kernel
  refine ⟨clean, order, by decide, Choice.sharedPath rfl _, ?_, by decide⟩
  exact g.selectReplaced rfl clean rfl order (by simp) (by decide) rfl

end Generation
end ApiScreens
