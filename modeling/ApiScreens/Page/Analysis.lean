import ApiScreens.Page.Table

/-! Pages that show one chart. -/
namespace ApiScreens.Page
open Script

structure Analysis where
  componentName : String
  domain : String
  dataType : String
  chartType : String
  timeRange : String
  chartTitle : String
  extraProps : List String
  deriving DecidableEq, Repr

def Analysis.lines (p : Analysis) : Lines :=
  [importNames ["AnalysisChartComponent"] "@primes/components/chart/AnalysisChartComponent",
   ""] ++
  component p.componentName
    (enclosed "return ("
      (enclosed "<div className=\"p-4 h-full flex flex-col gap-4\">"
        (leaf "AnalysisChartComponent"
          ([quotedAttribute "domain" p.domain, quotedAttribute "dataType" p.dataType,
            quotedAttribute "chartType" p.chartType, quotedAttribute "timeRange" p.timeRange,
            quotedAttribute "title" p.chartTitle] ++ p.extraProps))
        "</div>")
      ");") ++
  ["", exportDefault p.componentName]

end ApiScreens.Page
