import ApiScreens.Json.Printer
import ApiScreens.Page.Analysis
import ApiScreens.SortedMap

/-! Chart pages as the merged file describes them, by domain and kind of data. What cannot be read as a
page is passed over; a page that does not name its domain or kind of data has those of its place. -/
namespace ApiScreens
open Json (Value Members)

structure ChartPage where
  path : String
  componentName : String
  domain : String
  dataType : String
  chartType : String
  timeRange : String
  title : String
  extra : Members
  deriving DecidableEq, Repr

abbrev ChartPages := SortedMap (SortedMap ChartPage)

namespace ChartPage

def fieldNames : List String :=
  ["path", "component", "domain", "dataType", "chartType", "timeRange", "chartTitle",
   "additionalProps"]

def fields? (names : List String) : Value → Option (List (Option Value))
  | .object ms => some (names.map fun name => Members.get? ms name)
  | .array items =>
      if items.length ≤ names.length then some ((List.range names.length).map (items[·]?)) else none
  | _ => none

def textOr (default : String) : Option Value → Option String
  | none => some default
  | some v => v.string?

def membersOr (default : Members) : Option Value → Option Members
  | none => some default
  | some v => v.members?

def read (v : Value) : Option ChartPage := do
  match ← fields? fieldNames v with
  | [path, component, domain, dataType, chartType, timeRange, title, extra] =>
      some
        { path := ← path.bind Value.string?
          componentName := ← component.bind Value.string?
          domain := ← textOr "" domain
          dataType := ← textOr "" dataType
          chartType := ← textOr "line" chartType
          timeRange := ← textOr "weekly" timeRange
          title := ← textOr "" title
          extra := ← membersOr [] extra }
  | _ => none

def toJson (p : ChartPage) : Value := .object <| fieldNames.zip
  [.string p.path, .string p.componentName, .string p.domain, .string p.dataType,
   .string p.chartType, .string p.timeRange, .string p.title, .object p.extra]

def placed (domain dataType : String) (p : ChartPage) : ChartPage :=
  { p with
    domain := if p.domain = "" then domain else p.domain
    dataType := if p.dataType = "" then dataType else p.dataType }

def attributeText (name : String) : Value → String
  | .string s => name ++ "=" ++ (Value.string s).compact
  | v => name ++ "=\x7b" ++ v.compact ++ "\x7d"

def analysis (p : ChartPage) : Page.Analysis where
  componentName := p.componentName
  domain := p.domain
  dataType := p.dataType
  chartType := p.chartType
  timeRange := p.timeRange
  chartTitle := p.title
  extraProps := p.extra.map fun (name, v) => attributeText name v

end ChartPage

namespace ChartPages

def ofDomain (domain : String) (ms : Members) : SortedMap ChartPage :=
  .ofList <| ms.filterMap fun (dataType, v) =>
    (ChartPage.read v).map fun p => (dataType, p.placed domain dataType)

def ofTable (domains : Members) : ChartPages :=
  .ofList <| domains.filterMap fun (domain, v) => do
    let pages := ofDomain domain (← v.members?)
    if pages.size = 0 then none else some (domain, pages)

def pages (c : ChartPages) : List ChartPage := c.values.flatMap SortedMap.values

def toJson (c : ChartPages) : Value :=
  .object <| c.entries.map fun (domain, ps) =>
    (domain, .object (ps.entries.map fun (dataType, p) => (dataType, p.toJson)))

end ChartPages
end ApiScreens
