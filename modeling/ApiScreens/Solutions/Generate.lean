import ApiScreens.Emission
import ApiScreens.Output.Batch
import ApiScreens.Solutions.Directory

/-! Generating the screens of all solutions of a directory into a project. Solutions are written one after
another, the index of select components after them and the merged file last. Only a directory that
cannot be read ends a run; all else that fails is counted. -/
namespace ApiScreens
open Json (Members)

structure Generation where
  configs : String
  project : String
  options : WriteOptions := {}
  overrides : Overrides := .empty

structure GenerationStats where
  solutions : Nat := 0
  pages : Nat := 0
  tabNavigations : Nat := 0
  routes : Nat := 0
  errors : Nat := 0
  deriving DecidableEq, Repr

namespace GenerationStats

def count (s : GenerationStats) (e : Solution.Emission) (failed : Nat) : GenerationStats :=
  { solutions := s.solutions + 1
    pages := s.pages + e.pages
    tabNavigations := s.tabNavigations + e.tabNavigations
    routes := s.routes + e.routes
    errors := s.errors + e.errors.length + failed }

def lines (s : GenerationStats) (duration : String) : List String :=
  ["\n🎉 Generation finished", "📊 Stats:", "   - solutions: " ++ toString s.solutions,
   "   - pages: " ++ toString s.pages, "   - tab navigations: " ++ toString s.tabNavigations,
   "   - routes: " ++ toString s.routes, "   - errors: " ++ toString s.errors,
   "   - duration: " ++ duration] ++
    if s.errors = 0 then [] else ["⚠️  Some files failed, see the log for details"]

end GenerationStats

namespace Generation

def emission (g : Generation) (name : String) (s : Solution) : Solution.Emission :=
  s.emit g.project g.overrides g.options name

def snippetLines (s : Solution.Snippet) : List String :=
  ["📝 Add the field API function to " ++ s.path ++ " by hand:", s.code]

def openingLines (name : String) (e : Solution.Emission) : List String :=
  ["\n📁 Processing solution: " ++ name] ++ e.snippets.flatMap snippetLines ++
    if e.files = [] then []
    else ["📦 [" ++ name ++ "] writing " ++ toString e.files.length ++ " files"]

def writeSolution (g : Generation) (w : Workspace) (stats : GenerationStats) (name : String)
    (s : Solution) : Workspace × GenerationStats :=
  let e := g.emission name s
  let (w, report) := (w.printAll (openingLines name e)).writeAll e.files
  (w.print ("✅ [" ++ name ++ "] done"), stats.count e report.failed)

def writeSolutions (g : Generation) (w : Workspace) (s : Solutions) : Workspace × GenerationStats :=
  s.entries.foldl (fun (w, stats) (name, solution) => g.writeSolution w stats name solution) (w, {})

def selects (g : Generation) (s : Solutions) : List Page.SelectEntry :=
  s.entries.flatMap fun (name, solution) => (g.emission name solution).customSelects

def indexPath (g : Generation) : String :=
  Path.append g.project "src/components/customSelect/index.ts"

def writeIndex (g : Generation) (w : Workspace) (entries : List Page.SelectEntry) :
    Workspace × Nat :=
  if entries = [] then (w, 0)
  else match g.overrides.render (.selectIndex ⟨entries⟩) with
    | .error _ => (w, 1)
    | .ok content =>
        let (w, report) := w.writeAll [⟨g.indexPath, content, g.options⟩]
        (w, report.failed)

def writeMerged (g : Generation) (w : Workspace) (s : Solutions) : Workspace × Nat :=
  match w.writeMerged (Solutions.mergedPath g.configs) s.merged with
  | (w, .ok _) => (w, 0)
  | (w, .error _) => (w, 1)

def writeAll (g : Generation) (w : Workspace) (s : Solutions) : Workspace × GenerationStats :=
  let (w, stats) := g.writeSolutions w s
  let (w, unindexed) := g.writeIndex w (g.selects s)
  let (w, unmerged) := g.writeMerged w s
  (w, { stats with errors := stats.errors + unindexed + unmerged })

def run (g : Generation) (w : Workspace) : Workspace × Except InputError GenerationStats :=
  match w.loadSolutions g.configs with
  | (w, .error e) => (w, .error e)
  | (w, .ok s) =>
      let (w, stats) := g.writeAll w s
      (w, .ok stats)

end Generation
end ApiScreens
