import ApiScreens.Chart.Generate
import ApiScreens.Proofs.Script.Attribute
import ApiScreens.Proofs.Script.Splice

/-! The attributes of chart pages. Each page is printed with an attribute to a line for every property that its entry
gives, and the exact condition is stated under which such an attribute passes the value of the property. -/
namespace ApiScreens
open Json (Value Members Numeral)
open Script

theorem Page.Analysis.attributesCarried (p : Page.Analysis) : Carries p.lines p.extraProps := by
  have attributes := (Carries.all p.extraProps).before
    [Page.quotedAttribute "domain" p.domain, Page.quotedAttribute "dataType" p.dataType,
      Page.quotedAttribute "chartType" p.chartType, Page.quotedAttribute "timeRange" p.timeRange,
      Page.quotedAttribute "title" p.chartTitle]
  have element := (attributes.enclosed "<AnalysisChartComponent" "/>").enclosed "<div className=\"p-4 h-full flex flex-col gap-4\">" "</div>"
  exact (((element.enclosed "return (" ");").block _ ";").before _).behind _

namespace ChartPages
variable {project : String} {o : Overrides} {options : WriteOptions}

theorem fileBuiltIn (builtIn : o.get? "analysis_page.tsx" = none) (p : ChartPage) :
    file project o options p = .ok ⟨filePath project p, Script.text p.analysis.lines, options⟩ := by
  have own : o.get? (Template.analysis p.analysis).name = none := builtIn
  simp only [file, Overrides.render, own]
  rfl

theorem printedBuiltIn (builtIn : o.get? "analysis_page.tsx" = none) (c : ChartPages) :
    c.pages.map (file project o options) =
      c.pages.map fun p => .ok ⟨filePath project p, Script.text p.analysis.lines, options⟩ :=
  List.map_congr_left fun p _ => fileBuiltIn builtIn p

theorem pageEmitted (builtIn : o.get? "analysis_page.tsx" = none) {c : ChartPages} {p : ChartPage} (listed : p ∈ c.pages) :
    ⟨filePath project p, Script.text p.analysis.lines, options⟩ ∈ (c.emit project o options).1 := by
  simp only [emit, printedBuiltIn builtIn]
  exact List.mem_filterMap.mpr ⟨_, List.mem_map.mpr ⟨p, listed, rfl⟩, rfl⟩

theorem attributesPassed (c : ChartPages) (project : String) (o : Overrides) (options : WriteOptions)
    (builtIn : o.get? "analysis_page.tsx" = none) (names : AttributeNames) :
    (c.emit project o options).2 = 0 ∧
    ∀ p ∈ c.pages, ∃ lines,
      ⟨filePath project p, Script.text lines, options⟩ ∈ (c.emit project o options).1 ∧
      Carries lines (p.extra.map fun (name, v) => ChartPage.attributeText name v) ∧
      ∀ name v, (name, v) ∈ p.extra →
        (ChartPage.Passes names name v ↔ names.admits name = true ∧ ChartPage.Passable v) := by
  constructor
  · simp [emit, printedBuiltIn builtIn, Function.comp_def, Except.toOption]
  · exact fun p listed => ⟨p.analysis.lines, pageEmitted builtIn listed, p.analysis.attributesCarried,
      fun _ _ _ => ChartPage.passesExactly⟩

def latinNames : AttributeNames where
  admits name := name.toList.all (fun c => isWordChar c || c = '-') && name.toList.head?.any (!startsWithDigit ·)
  whole := by
    intro name admitted inside
    have each := (Bool.and_eq_true_iff.mp admitted).1
    exact absurd (List.all_eq_true.mp each '=' inside) (by decide)
where
  startsWithDigit (c : Char) : Bool := Number.isDigit c || c = '-'

def orderChart (extra : Members) : ChartPages :=
  .ofList [("sales", .ofList [("order",
    ⟨"sales/OrderChart", "OrderChart", "sales", "order", "line", "weekly", "Orders", extra⟩)])]

theorem legendPassed :
    (SortedMap.empty : Overrides).get? "analysis_page.tsx" = none ∧
      ∃ p ∈ (orderChart [("showLegend", .bool true), ("unit", .string "KRW")]).pages, ∃ lines,
        ⟨filePath "app" p, Script.text lines, {}⟩ ∈
          ((orderChart [("showLegend", .bool true), ("unit", .string "KRW")]).emit "app" SortedMap.empty {}).1 ∧
        Carries lines ["showLegend=\x7btrue\x7d", "unit=\"KRW\""] ∧
        ChartPage.Passes latinNames "showLegend" (.bool true) ∧ ChartPage.Passes latinNames "unit" (.string "KRW") := by
  obtain ⟨_, pages⟩ := attributesPassed (orderChart [("showLegend", .bool true), ("unit", .string "KRW")]) "app"
    SortedMap.empty {} rfl latinNames
  obtain ⟨lines, file, carries, passes⟩ := pages _ (List.mem_singleton.mpr rfl)
  have legend := passes "showLegend" (.bool true) (by simp)
  have unit := passes "unit" (.string "KRW") (by simp)
  exact ⟨rfl, _, List.mem_singleton.mpr rfl, lines, file, carries, legend.mpr ⟨by decide, .bool true⟩,
    unit.mpr ⟨by decide, (by decide : Unescaped "KRW")⟩⟩

theorem quotedTextCut :
    ∃ p ∈ (orderChart [("note", .string "say \"hi\"")]).pages, ∃ lines,
      ⟨filePath "app" p, Script.text lines, {}⟩ ∈
        ((orderChart [("note", .string "say \"hi\"")]).emit "app" SortedMap.empty {}).1 ∧
      Carries lines ["note=\"say \\\"hi\\\"\""] ∧
      ∀ rest, attribute? latinNames ("note=\"say \\\"hi\\\"\"".toList ++ rest) =
        some (("note", .string "say \\"), "hi\\\"\"".toList ++ rest) := by
  refine ⟨_, List.mem_singleton.mpr rfl, _, pageEmitted rfl (List.mem_singleton.mpr rfl),
    Page.Analysis.attributesCarried _, fun rest => ?_⟩
  have shape : "note=\"say \\\"hi\\\"\"".toList ++ rest =
      "note".toList ++ '=' :: '"' :: ("say \\".toList ++ '"' :: ("hi\\\"\"".toList ++ rest)) := by simp
  have read : raw? ("say \\".toList ++ '"' :: ("hi\\\"\"".toList ++ rest)) = some ("say \\", _) :=
    rawWhole.mpr ⟨rfl, by decide⟩
  rw [shape, attributeRead (by decide), initializer?, read]
  rfl

end ChartPages
end ApiScreens
