import ApiScreens.Proofs.Module.Built
import ApiScreens.Proofs.Pattern

/-! The parts of a module agree. Its kind, its tabs and its registration form are made one by one, each from
the pattern of the entity and from what it finds in the entity itself. -/
namespace ApiScreens

namespace Pattern

theorem detailDecides (doc : Document) (h : Heuristics) (n : Entity) :
    (Pattern.of doc h n).isMasterDetail = n.hasDetail := by
  unfold Pattern.of
  cases n.hasDetail <;> cases n.writable <;> cases createsComplex doc h n <;> rfl

theorem createRegisters (doc : Document) (h : Heuristics) {n : Entity} (create : n.hasCreate = true) :
    Pattern.of doc h n ≠ .singleOnly := by
  have writable : n.writable = true := by simp [Entity.writable, create]
  unfold Pattern.of
  cases n.hasDetail <;> cases createsComplex doc h n <;> simp [writable]

theorem tabsOpen (p : Pattern) (analyze : Bool) :
    ∃ first rest, p.tabs analyze = first :: rest ∧ first.isDefault = true ∧
      (∀ t ∈ rest, t.isDefault = false) ∧ (first.id = "related-list" ↔ p.isMasterDetail = true) := by
  cases p with
  | singleOnly => exact ⟨.list, [], rfl, rfl, by decide, by decide⟩
  | singleWithRegister => exact ⟨.list, [], rfl, rfl, by decide, by decide⟩
  | masterDetailSimple => exact ⟨.relatedList, [.overallList], rfl, rfl, by decide, by decide⟩
  | masterDetailFull =>
    cases analyze with
    | false => exact ⟨.relatedList, [.overallList], rfl, rfl, by decide, by decide⟩
    | true => exact ⟨.relatedList, [.overallList, .analyze], rfl, rfl, by decide, by decide⟩

theorem tabKinds (p : Pattern) (analyze : Bool) :
    ∀ t ∈ p.tabs analyze, t.kind = .masterDetail ↔ t.role = .relatedList := by
  cases p <;> cases analyze <;> decide

theorem tabsAnalyze (p : Pattern) (analyze : Bool) :
    (∃ t ∈ p.tabs analyze, t.id = "analyze") ↔ p = .masterDetailFull ∧ analyze = true := by
  cases p <;> cases analyze <;> decide

end Pattern

def TabLayout.isMasterDetail : TabLayout → Bool
  | .masterDetail .. => true
  | .single .. => false

namespace Blueprint

structure Consistent (b : Blueprint) (m : Module) : Prop where
  detail : m.pageKind = .masterDetail ↔ ∃ e ∈ b.entity.endpoints, "/detail".toList <:+: e.path.toList
  first : m.pageKind = .masterDetail ↔ m.tabs.head?.map (·.id) = some "related-list"
  layout : ∀ t ∈ m.tabs, t.kind = .masterDetail ↔ t.layout.isMasterDetail = true
  opens : ∃ first rest, m.tabs = first :: rest ∧ first.isDefault = true ∧
    (∀ t ∈ rest, t.isDefault = false) ∧ m.defaultTab = some first
  ids : (m.tabs.map (·.id)).Nodup
  pages : m.pageNames.Nodup
  creates : b.entity.createEndpoint.isSome → ∃ a, m.actions = [a] ∧ a.kind = .create
  reads : b.entity.createEndpoint = none → m.actions = []
  navigates : ∀ a ∈ m.actions,
    (a.mode = .navigation ∧ a.path = some (m.route ++ "/register")) ↔ m.pageKind = .masterDetail
  modal : ∀ a ∈ m.actions, (a.mode = .modal ∧ a.path = none) ↔ m.pageKind ≠ .masterDetail
  analyze : (∃ t ∈ m.tabs, t.isAnalyze = true) ↔
    b.pattern = .masterDetailFull ∧ b.heuristics.analyzeTab = true

theorem buildKind (b : Blueprint) : b.build.pageKind = .masterDetail ↔ b.pattern.isMasterDetail = true := by
  simp [build, pageKind]

theorem buildFirst (b : Blueprint) :
    b.build.tabs.head?.map (·.id) = some "related-list" ↔ b.pattern.isMasterDetail = true := by
  obtain ⟨first, rest, shape, _, _, related⟩ := b.pattern.tabsOpen b.heuristics.analyzeTab
  simp [build, shape, tab, related]

theorem buildDetail (b : Blueprint) (extracted : b.entity ∈ b.doc.entities) :
    b.build.pageKind = .masterDetail ↔ ∃ e ∈ b.entity.endpoints, "/detail".toList <:+: e.path.toList := by
  rw [buildKind, pattern, Pattern.detailDecides]
  obtain ⟨whole, _⟩ := Document.entitiesMem.mp extracted
  rw [whole]
  exact Document.entityDetail _

theorem tabLayout (b : Blueprint) {t : TabTemplate} (fits : t.kind = .masterDetail ↔ t.role = .relatedList) :
    (b.tab t).kind = .masterDetail ↔ (b.tab t).layout.isMasterDetail = true := by
  have shows : (b.layout t.role).isMasterDetail = true ↔ t.role = .relatedList := by
    cases t.role <;> simp [layout, TabLayout.isMasterDetail]
  exact fits.trans shows.symm

theorem buildOpens (b : Blueprint) :
    ∃ first rest, b.build.tabs = first :: rest ∧ first.isDefault = true ∧
      (∀ t ∈ rest, t.isDefault = false) ∧ b.build.defaultTab = some first := by
  obtain ⟨first, rest, shape, marked, others, _⟩ := b.pattern.tabsOpen b.heuristics.analyzeTab
  have tabs : b.build.tabs = b.tab first :: rest.map b.tab := by simp [build, shape]
  refine ⟨b.tab first, rest.map b.tab, tabs, marked, ?_, ?_⟩
  · intro t inside
    obtain ⟨template, listed, rfl⟩ := List.mem_map.mp inside
    exact others template listed
  · have found : (b.tab first).isDefault = true := marked
    simp [Module.defaultTab, tabs, found]

theorem buildIds (b : Blueprint) : (b.build.tabs.map (·.id)).Nodup := by
  have templates := (b.pattern.tabIds b.heuristics.analyzeTab).of_append_left
  simpa [build, tab, Function.comp_def] using templates

theorem createMade (b : Blueprint) {e : Endpoint} (found : b.entity.createEndpoint = some e) :
    ∃ a, b.createAction = some a := by
  have create : b.entity.hasCreate = true := by simp [Entity.hasCreate, found]
  have shown : b.pattern ≠ .singleOnly := Pattern.createRegisters b.doc b.heuristics create
  simp [createAction, shown, found]

theorem createNone (b : Blueprint) (missing : b.entity.createEndpoint = none) : b.createAction = none := by
  simp [createAction, missing]

theorem createMode {b : Blueprint} {a : Action} (made : b.createAction = some a) :
    if b.pattern.isMasterDetail then a.mode = .navigation ∧ a.path = some (b.route ++ "/register")
    else a.mode = .modal ∧ a.path = none := by
  unfold createAction at made
  split at made
  · contradiction
  · obtain ⟨e, _, rfl⟩ := Option.map_eq_some_iff.mp made
    cases b.pattern.isMasterDetail <;> simp

theorem buildAnalyze (b : Blueprint) :
    (∃ t ∈ b.build.tabs, t.isAnalyze = true) ↔ b.pattern = .masterDetailFull ∧ b.heuristics.analyzeTab = true := by
  rw [← Pattern.tabsAnalyze]
  simp [build, tab, Tab.isAnalyze]

theorem buildConsistent (b : Blueprint) (extracted : b.entity ∈ b.doc.entities) : b.Consistent b.build where
  detail := b.buildDetail extracted
  first := b.buildKind.trans b.buildFirst.symm
  layout t inside := by
    obtain ⟨template, listed, rfl⟩ := List.mem_map.mp inside
    exact b.tabLayout (b.pattern.tabKinds _ template listed)
  opens := b.buildOpens
  ids := b.buildIds
  pages := by
    rw [pageNamesSuffixes]
    exact b.suffixesNodup.map fun _ _ same => (String.append_right_inj _).mp same
  creates listed := by
    obtain ⟨e, found⟩ := Option.isSome_iff_exists.mp listed
    obtain ⟨a, made⟩ := b.createMade found
    exact ⟨a, by simp [build, made], createKind made⟩
  reads missing := by simp [build, b.createNone missing]
  navigates a inside := by
    have mode := createMode (Option.mem_toList.mp inside)
    rw [b.buildKind]
    split at mode
    · rename_i shown
      exact iff_of_true mode shown
    · rename_i alone
      exact iff_of_false (fun navigates => by simp [mode.1] at navigates) alone
  modal a inside := by
    have mode := createMode (Option.mem_toList.mp inside)
    rw [ne_eq, b.buildKind]
    split at mode
    · rename_i shown
      exact iff_of_false (fun modal => by simp [mode.1] at modal) (not_not_intro shown)
    · rename_i alone
      exact iff_of_true mode alone
  analyze := b.buildAnalyze

def orderScreens : Blueprint :=
  ⟨Document.nestedOrders, { analyzeTab := true }, "shop", Document.nestedOrders.entity "order"⟩

theorem orderScreensConsistent :
    orderScreens.entity ∈ orderScreens.doc.entities ∧ orderScreens.Consistent orderScreens.build ∧
      orderScreens.build.tabs.map (·.id) = ["related-list", "list", "analyze"] ∧
      orderScreens.build.actions.map (·.path) = [some "/shop/order/register"] := by
  have extracted : orderScreens.entity ∈ orderScreens.doc.entities := by decide
  exact ⟨extracted, buildConsistent orderScreens extracted, by decide, by decide⟩

end Blueprint
end ApiScreens
