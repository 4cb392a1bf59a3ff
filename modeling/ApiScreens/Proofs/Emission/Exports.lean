import ApiScreens.Proofs.Emission.Closed
import ApiScreens.Proofs.Emission.Isolation

/-! What the pages of an emission export. Other files import all of them from one place by name alone, so that pages
of different directories must differ in name; the names are made of the resources' Pascal forms. -/
namespace ApiScreens
open Page Script

structure Script.Declares (lines : Lines) (name : String) : Prop where
  constant : ∃ type, "export const " ++ name ++ ": React.FC" ++ type ∈ lines
  last : lines.getLast? = some (exportDefault name)

theorem Script.declaresBlock {before body : Lines} {name head : String} (type : String)
    (shape : head ++ "\x7b" = "export const " ++ name ++ ": React.FC" ++ type) :
    Declares (before ++ block head body ";" ++ ["", exportDefault name]) name where
  constant := ⟨type, by simp [block, enclosed, ← shape]⟩
  last := by simp

namespace Template

def component? : Template → Option String
  | singleTable p => some p.pageName
  | masterDetail p => some p.pageName
  | registerModal p => some p.pageName
  | registerFull p => some p.pageName
  | _ => none

theorem declared {t : Template} {name : String} (component : t.component? = some name) :
    ∃ lines, t.text = Script.text lines ∧ Declares lines name := by
  cases t with
  | singleTable p =>
    cases component
    exact ⟨p.lines, rfl, declaresBlock " = () => \x7b" (by simp [String.append_assoc])⟩
  | masterDetail p =>
    cases component
    exact ⟨p.lines, rfl, declaresBlock " = () => \x7b" (by simp [String.append_assoc])⟩
  | registerModal p =>
    cases component
    exact ⟨p.modalLines, rfl,
      declaresBlock ("<" ++ p.pageName ++ "Props> = (\x7b onClose \x7d) => \x7b")
        (String.toList_injective (by simp))⟩
  | registerFull p =>
    cases component
    exact ⟨p.fullLines, rfl, declaresBlock " = () => \x7b" (by simp [String.append_assoc])⟩
  | _ => contradiction

end Template

namespace Solution

def pageExports (project solution : String) (s : Solution) : List String :=
  ((s.plan project solution).filter (·.kind = .page)).filterMap (·.template.component?)

section
variable (project solution key : String)

theorem tabComponent (m : Module) (t : Tab) : (tabItem project key m t).template.component? = some t.pageName := by
  cases shown : t.layout <;> simp [tabItem, Module.page, shown, Template.component?]

theorem registerComponent (m : Module) (a : Action) :
    (registerItem project key m a).template.component? = some a.pageName := by
  cases mode : a.mode <;> simp [registerItem, Module.registerPage, mode, Template.component?]

theorem pageComponent {s : Solution} {i : Item} (planned : i ∈ s.plan project solution) (kind : i.kind = .page) :
    ∃ name, i.template.component? = some name := by
  rcases (planParts project solution s i).mp planned with ⟨key, m, _, part⟩ | rfl
  · cases part with
    | page => exact ⟨_, tabComponent project key m _⟩
    | register => exact ⟨_, registerComponent project key m _⟩
    | _ => contradiction
  · contradiction

theorem moduleExports (m : Module) :
    ((moduleItems project solution key m).filter (·.kind = .page)).filterMap (·.template.component?) =
      m.pageNames := by
  have tabs : ((m.tabs.map (tabItem project key m)).filter (·.kind = .page)).filterMap
      (·.template.component?) = m.tabs.map (·.pageName) := by
    have every : (m.tabs.map (tabItem project key m)).filter (·.kind = .page) =
        m.tabs.map (tabItem project key m) := by simp [tabItem]
    rw [every, List.filterMap_map, ← List.filterMap_eq_map]
    exact List.filterMap_congr fun t _ => tabComponent project key m t
  have register : ((m.createAction.map (registerItem project key m)).toList.filter (·.kind = .page)).filterMap
      (·.template.component?) = (m.createAction.map (·.pageName)).toList := by
    cases m.createAction with
    | none => rfl
    | some a =>
      have kind : (registerItem project key m a).kind = .page := rfl
      simp [kind, registerComponent]
  have navigation : (if m.tabs.isEmpty then [] else [navigationItem project solution key m]).filter
      (·.kind = .page) = [] := by
    split <;> rfl
  have fields : (if m.fieldApi then [fieldItem project solution key] else []).filter (·.kind = .page) = [] := by
    split <;> rfl
  have select : (m.customSelect.map (selectItem project key m)).toList.filter (·.kind = .page) = [] := by
    cases m.customSelect <;> rfl
  rw [moduleItems, List.filter_append, List.filter_append, List.filter_append, List.filter_append, navigation, fields,
    select, List.append_nil, List.append_nil, List.append_nil, List.filterMap_append, tabs, register, Module.pageNames]

theorem planExports (s : Solution) :
    s.pageExports project solution = s.modules.values.flatMap Module.pageNames := by
  have last : [s.routesItem project solution].filter (·.kind = .page) = [] := rfl
  rw [pageExports, plan, List.filter_append, last, List.append_nil, List.filter_flatMap, List.filterMap_flatMap,
    SortedMap.values, List.flatMap_map]
  exact List.flatMap_congr fun e _ => moduleExports project solution e.1 e.2

end
end Solution

namespace Blueprint

theorem endingsDiffer : ∀ s ∈ pageEndings, ∀ t ∈ pageEndings, s.toList <:+ t.toList → s = t := by decide

theorem pageForms {b c : Blueprint} (one : b.solution = c.solution) {page : String} (here : page ∈ b.build.pageNames)
    (there : page ∈ c.build.pageNames) : Naming.pascal b.entity.name = Naming.pascal c.entity.name := by
  rw [pageNamesSuffixes] at here there
  obtain ⟨s, left, rfl⟩ := List.mem_map.mp here
  obtain ⟨t, right, same⟩ := List.mem_map.mp there
  have chars := congrArg String.toList same
  simp only [String.toList_append] at chars
  -- no ending is the end of another one, so that the names end alike
  have ends : s = t := by
    rcases List.suffix_or_suffix_of_suffix ⟨_, chars⟩ (List.suffix_append _ _) with further | further
    · exact (endingsDiffer t (c.suffixEnding right) s (b.suffixEnding left) further).symm
    · exact endingsDiffer s (b.suffixEnding left) t (c.suffixEnding right) further
  subst ends
  have bases : c.pageBase = b.pageBase := (String.append_left_inj _).mp same
  unfold pageBase Naming.pageBase at bases
  rw [one] at bases
  exact ((String.append_right_inj _).mp bases).symm

theorem listPage (b : Blueprint) : b.pageBase ++ "ListPage" ∈ b.build.pageNames := by
  have list : "ListPage" ∈ (b.pattern.tabs b.heuristics.analyzeTab).map (fun t => pageSuffix t.role) := by
    cases b.pattern <;> cases b.heuristics.analyzeTab <;> decide
  rw [pageNamesSuffixes]
  exact List.mem_map_of_mem (List.mem_append_left _ list)

theorem pagesDiffer (b : Blueprint) : b.build.pageNames.Nodup := by
  rw [pageNamesSuffixes]
  exact b.suffixesNodup.map fun s t same => (String.append_right_inj _).mp same

end Blueprint

namespace Solution
variable (doc : Document) (h : Heuristics) (project domain : String)

theorem exportsApart :
    ((ofDocument doc h domain).pageExports project domain).Nodup ↔
      (doc.entities.map (Naming.pascal ·.name)).Nodup := by
  have permuted := (builtModules doc h domain doc.entities).flatMap_right Module.pageNames
  have each : ∀ n ∈ doc.entities, (Blueprint.mk doc h domain n).build.pageNames.Nodup := fun n _ =>
    Blueprint.pagesDiffer _
  rw [planExports, ofDocument, permuted.nodup_iff, List.flatMap_map, List.nodup_flatMap, and_iff_right each,
    List.Nodup, List.pairwise_map]
  refine List.Pairwise.iff fun n n' => ⟨fun apart same => ?_, fun differ page here there => ?_⟩
  · have base : (Blueprint.mk doc h domain n').pageBase = (Blueprint.mk doc h domain n).pageBase := by
      simp [Blueprint.pageBase, Naming.pageBase, same]
    exact apart (Blueprint.listPage _) (base ▸ Blueprint.listPage ⟨doc, h, domain, n'⟩)
  · exact differ (Blueprint.pageForms (b := ⟨doc, h, domain, n⟩) (c := ⟨doc, h, domain, n'⟩) rfl here there)

theorem tabImportsApart :
    ((ofDocument doc h domain).routes domain).tabImports.Nodup ↔ KeysApart doc.entities := by
  simp only [← tabNames doc h domain, routes, routedBuilt]

theorem exportsDistinct (options : WriteOptions) :
    let s := ofDocument doc h domain
    let files := (s.emit project SortedMap.empty options domain).files
    (∀ i ∈ s.plan project domain, i.kind = .page →
      ⟨i.path, i.template.text, options⟩ ∈ files ∧
        ∃ name lines, i.template.component? = some name ∧ i.template.text = Script.text lines ∧
          Declares lines name) ∧
      ⟨routesPath project domain, (Template.routes (s.routes domain)).text, options⟩ ∈ files ∧
      ((s.pageExports project domain).Nodup ↔ (doc.entities.map (Naming.pascal ·.name)).Nodup) ∧
      ((s.routes domain).tabImports.Nodup ↔ KeysApart doc.entities) := by
  refine ⟨fun i planned kind => ⟨itemEmitted options planned, ?_⟩, tableEmitted _ project domain options,
    exportsApart doc h project domain, tabImportsApart doc h domain⟩
  obtain ⟨name, component⟩ := pageComponent project domain planned kind
  obtain ⟨lines, text, declares⟩ := Template.declared component
  exact ⟨name, lines, component, text, declares⟩

theorem samePascalExportedTwice :
    let s := ofDocument (listings ["tax-invoice", "tax_invoice"]) {} "sales"
    s.modules.keys = ["taxInvoice", "taxInvoice_1"] ∧
      s.pageExports "web" "sales" = ["SalesTaxInvoiceListPage", "SalesTaxInvoiceListPage"] ∧
      ¬ (s.pageExports "web" "sales").Nodup := by
  have twice : (ofDocument (listings ["tax-invoice", "tax_invoice"]) {} "sales").pageExports "web" "sales" =
      ["SalesTaxInvoiceListPage", "SalesTaxInvoiceListPage"] := by decide +kernel
  exact ⟨by decide +kernel, twice, by rw [twice]; decide⟩

end Solution
end ApiScreens
