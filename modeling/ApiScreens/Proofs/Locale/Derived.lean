import ApiScreens.Proofs.Locale.Fresh
import ApiScreens.Proofs.Locale.Sync
import ApiScreens.Proofs.Naming.Form

/-! The texts of solutions in an empty catalog. Their keys are made of names, and a dot in a name or a solution named
like the titles of pages can put one text in the way of another; plain names cannot. -/
namespace ApiScreens.Locale
open Catalog

theorem stepsLeaf {front around leaf : String} {parts : List String} (shape : front = around ++ ".")
    (split : steps around = parts) (plain : '.' ∉ leaf.toList) : steps (front ++ leaf) = parts ++ [leaf] := by
  rw [shape, stepsBehind, split, stepsPlain plain]

inductive Place (solution : String) : List String → Prop where
  | tabs (group leaf : String) : Place solution ["tabs", group, leaf]
  | title (leaf : String) : Place solution ["pages", "titles", leaf]
  | select (leaf : String) : Place solution ["select", leaf]
  | own (key leaf : String) : Place solution ["pages", solution, key, leaf]

theorem placesApart {solution other : String} {p q : List String} (first : Place solution p) (second : Place other q)
    (untitled : other ≠ "titles") (leads : p <+: q) : p = q := by
  have titled : "titles" ≠ other := untitled.symm
  cases first <;> cases second <;> simp_all [List.cons_prefix_cons]

section
variable {solution key : String} {name : Phrase} {m : Module} {e : String × Phrase} (plain : '.' ∉ key.toList)
include plain

theorem stepsTagged {front around tag : String} {parts : List String} (shape : front = around ++ ".")
    (split : steps around = parts) (clear : '.' ∉ tag.toList) :
    steps (front ++ key ++ tag) = parts ++ [key ++ tag] := by
  rw [String.append_assoc]
  exact stepsLeaf shape split (by simp [plain, clear])

theorem titlePlace (listed : e ∈ titleTexts key name) : Place solution (steps e.1) := by
  have titles : steps "tabs.titles" = ["tabs", "titles"] := by decide
  simp only [titleTexts, List.mem_cons, List.not_mem_nil, or_false] at listed
  rcases listed with rfl | rfl
  · rw [stepsLeaf (by decide) titles plain]
    exact .tabs _ _
  · rw [stepsTagged plain (by decide) titles (by decide)]
    exact .tabs _ _

theorem pagePlace (listed : e ∈ pageTexts key name m) : Place solution (steps e.1) := by
  have titles : steps "pages.titles" = ["pages", "titles"] := by decide
  rw [pageTexts, List.mem_cons] at listed
  rcases listed with rfl | detail
  · rw [stepsTagged plain (by decide) titles (by decide)]
    exact .title _
  · split at detail <;> simp only [List.mem_cons, List.not_mem_nil, or_false] at detail
    rw [detail, stepsTagged plain (by decide) titles (by decide)]
    exact .title _

theorem dialogPlace (listed : e ∈ dialogTexts key name m) : Place solution (steps e.1) := by
  obtain ⟨a, _, rfl⟩ := List.mem_map.mp listed
  have dialogs : steps "tabs.dialogs" = ["tabs", "dialogs"] := by decide
  cases a.kind with
  | create =>
    rw [stepsTagged plain (by decide) dialogs (by decide)]
    exact .tabs _ _
  | edit =>
    dsimp only
    rw [stepsTagged plain (by decide) dialogs (by decide)]
    exact .tabs _ _

theorem selectPlace (listed : e ∈ selectTexts key name m) : Place solution (steps e.1) := by
  have selects : steps "select" = ["select"] := by decide
  unfold selectTexts at listed
  split at listed <;> simp only [List.mem_cons, List.not_mem_nil, or_false] at listed
  rw [listed, stepsTagged plain (by decide) selects (by decide)]
  exact .select _

theorem ownPlace (named : '.' ∉ solution.toList) (listed : e ∈ ownTexts solution key name) :
    Place solution (steps e.1) := by
  obtain ⟨⟨leaf, korean, english⟩, kind, rfl⟩ := List.mem_map.mp listed
  have pages : steps "pages" = ["pages"] := by decide
  have clear : '.' ∉ leaf.toList := by
    simp only [List.mem_cons, Prod.mk.injEq, List.not_mem_nil, or_false] at kind
    rcases kind with ⟨rfl, _⟩ | ⟨rfl, _⟩ | ⟨rfl, _⟩ <;> decide
  have around : steps ("pages." ++ solution ++ "." ++ key) = ["pages", solution, key] := by
    rw [stepsBehind, stepsPlain plain, stepsLeaf (by decide) pages named]
    rfl
  rw [stepsLeaf rfl around clear]
  exact .own _ _

end

theorem tabPlace {solution : String} {m : Module} (plain : ∀ t ∈ m.tabs, '.' ∉ t.id.toList) {e : String × Phrase}
    (listed : e ∈ tabTexts m) : Place solution (steps e.1) := by
  obtain ⟨t, shown, rfl⟩ := List.mem_map.mp listed
  have labels : steps "tabs.labels" = ["tabs", "labels"] := by decide
  rw [stepsLeaf (by decide) labels (plain t (List.mem_filter.mp shown).1)]
  exact .tabs _ _

theorem textPlace {solution key : String} {m : Module} (named : '.' ∉ solution.toList) (keyed : '.' ∉ key.toList)
    (tabs : ∀ t ∈ m.tabs, '.' ∉ t.id.toList) {e : String × Phrase} (listed : e ∈ moduleTexts solution key m) :
    Place solution (steps e.1) := by
  have plain : '.' ∉ (Naming.camel key).toList := fun dot => keyed (Naming.camelLow (by decide) dot)
  simp only [moduleTexts, List.mem_append] at listed
  rcases listed with ((((title | tab) | page) | dialog) | select) | own
  · exact titlePlace plain title
  · exact tabPlace tabs tab
  · exact pagePlace plain page
  · exact dialogPlace plain dialog
  · exact selectPlace plain select
  · exact ownPlace plain named own

structure Plain (s : Solutions) : Prop where
  solutions : ∀ e ∈ s.entries, '.' ∉ e.1.toList ∧ e.1 ≠ "titles"
  modules : ∀ e ∈ s.entries, ∀ key ∈ e.2.modules.keys, '.' ∉ key.toList
  tabs : ∀ e ∈ s.entries, ∀ m ∈ e.2.modules.values, ∀ t ∈ m.tabs, '.' ∉ t.id.toList

theorem plainPlace {s : Solutions} (plain : Plain s) {key : String} (listed : key ∈ (solutionTexts s).keys) :
    ∃ solution ≠ "titles", Place solution (steps key) := by
  rw [← SortedMap.hasKey, solutionTexts, SortedMap.hasOfList] at listed
  obtain ⟨e, text, rfl⟩ := List.mem_map.mp listed
  obtain ⟨⟨solution, c⟩, entry, inside⟩ := List.mem_flatMap.mp text
  obtain ⟨⟨moduleKey, m⟩, found, text⟩ := List.mem_flatMap.mp inside
  obtain ⟨clear, untitled⟩ := plain.solutions _ entry
  have keyed := plain.modules _ entry moduleKey (List.mem_map.mpr ⟨_, found, rfl⟩)
  have tabs := plain.tabs _ entry m (List.mem_map.mpr ⟨_, found, rfl⟩)
  exact ⟨solution, untitled, textPlace clear keyed tabs text⟩

theorem plainApart {s : Solutions} (plain : Plain s) {key other : String} (listed : key ∈ (solutionTexts s).keys)
    (beside : other ∈ (solutionTexts s).keys) : ¬Beyond other key := by
  intro beyond
  obtain ⟨leads, proper⟩ := beyondSteps beyond
  obtain ⟨_, _, first⟩ := plainPlace plain beside
  obtain ⟨_, untitled, second⟩ := plainPlace plain listed
  exact proper (placesApart first second untitled leads)

theorem textsReach (s : Solutions) (l : Language) :
    let derived := textsIn l (solutionTexts s)
    let merged := Catalog.merge {} derived
    (∀ key v, derived.get? key = some v →
      merged.1.get? key = if ∀ o ∈ derived.keys, ¬Beyond o key then some v else none) ∧
    (merged.2 = derived.size ↔ ∀ key ∈ derived.keys, ∀ o ∈ derived.keys, ¬Beyond o key) ∧
    (Plain s → merged.2 = derived.size ∧ ∀ key v, derived.get? key = some v → merged.1.get? key = some v) := by
  intro derived merged
  obtain ⟨texts, count⟩ := mergeFresh derived
  have whole : merged.2 = derived.size ↔ ∀ key ∈ derived.keys, ∀ o ∈ derived.keys, ¬Beyond o key := by
    have size : derived.size = derived.keys.length := (List.length_map _).symm
    rw [count, size, List.countP_eq_length]
    simp only [decide_eq_true_eq]
  refine ⟨fun key v found => texts (key, v) (SortedMap.entryOfGet.mp found), whole, fun plain => ?_⟩
  have keys : derived.keys = (solutionTexts s).keys := textsKeys l (solutionTexts s)
  have apart : ∀ key ∈ derived.keys, ∀ o ∈ derived.keys, ¬Beyond o key := by
    rw [keys]
    exact fun key listed o beside => plainApart plain listed beside
  refine ⟨whole.mpr apart, fun key v found => ?_⟩
  have entry := SortedMap.entryOfGet.mp found
  rw [texts (key, v) entry, if_pos (apart key (List.mem_map.mpr ⟨_, entry, rfl⟩))]

def bareSolution (solution : String) (modules : List (String × String)) : Solutions :=
  let bare (name : String) : Module :=
    { name := name, path := "", route := "", pageKind := .single, tabs := [], actions := [], menu := none,
      fieldApi := false, customSelect := none }
  .ofList [(solution, ⟨.ofList (modules.map fun (key, name) => (key, bare name))⟩)]

theorem salesTextsReach :
    let s := bareSolution "sales" [("order", "주문 관리"), ("orderList", "주문서 관리")]
    Plain s ∧ (Catalog.merge {} (textsIn .english (solutionTexts s))).2 = 12 := by
  have plain : Plain (bareSolution "sales" [("order", "주문 관리"), ("orderList", "주문서 관리")]) :=
    ⟨by decide, by decide, by decide⟩
  have reached := ((textsReach _ .english).2.2 plain).1
  exact ⟨plain, reached.trans (by decide +kernel)⟩

theorem titlesInTheWay :
    let s := bareSolution "titles" [("order", "주문 관리"), ("orderList", "주문서 관리")]
    let derived := textsIn .korean (solutionTexts s)
    let merged := Catalog.merge {} derived
    (∀ e ∈ derived.entries, e.2 ≠ "") ∧ derived.size = 12 ∧ merged.2 = 9 ∧
      derived.get? "pages.titles.orderList.list" = some "주문서 목록" ∧
      merged.1.get? "pages.titles.orderList.list" = none := by
  decide +kernel

end ApiScreens.Locale
