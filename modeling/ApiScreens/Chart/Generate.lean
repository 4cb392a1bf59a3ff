import ApiScreens.Chart.Page
import ApiScreens.Output.Batch
import ApiScreens.Solutions.Directory
import ApiScreens.Template

/-! Generating the chart pages of a merged file. A page that fails is counted and the others are made all
the same. -/
namespace ApiScreens
open Files (Tree)
open Json (Members)

namespace ChartPages

def load (t : Tree) (path : String) : ChartPages :=
  match (t.readObject path).get? Solutions.chartKey with
  | some (.object domains) => ofTable domains
  | _ => .empty

def filePath (project : String) (p : ChartPage) : String :=
  Path.under project
    ["src/pages", if Text.endsWith p.path ".tsx" then p.path else p.path ++ ".tsx"]

def file (project : String) (o : Overrides) (options : WriteOptions) (p : ChartPage) :
    Except RenderError GeneratedFile :=
  (o.render (.analysis p.analysis)).map fun content => ⟨filePath project p, content, options⟩

def emit (c : ChartPages) (project : String) (o : Overrides) (options : WriteOptions) :
    List GeneratedFile × Nat :=
  let outcomes := c.pages.map (file project o options)
  (outcomes.filterMap Except.toOption, outcomes.countP fun r => r.toOption.isNone)

end ChartPages

structure ChartReport where
  written : Nat := 0
  failed : Nat := 0
  deriving DecidableEq, Repr

def Workspace.generateCharts (w : Workspace) (path project : String) (o : Overrides)
    (options : WriteOptions) : Workspace × ChartReport :=
  let pages := ChartPages.load w.tree path
  if pages.size = 0 then (w.print ("⚠️  No analysis pages in " ++ path), {})
  else
    let (files, unprinted) := pages.emit project o options
    let (w, report) := w.writeAll files
    (w.print ("✅ Generated " ++ toString report.success ++ " analysis pages"),
     ⟨report.success, unprinted + report.failed⟩)

end ApiScreens
