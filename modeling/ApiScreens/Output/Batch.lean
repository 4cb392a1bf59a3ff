import ApiScreens.Output.Write

/-! Writing many files. One that fails is recorded and the others are written all the same. -/
namespace ApiScreens

structure WriteFailure where
  path : String
  error : WriteError
  deriving DecidableEq, Repr

structure BatchReport where
  success : Nat := 0
  failed : Nat := 0
  total : Nat := 0
  errors : List WriteFailure := []
  deriving DecidableEq, Repr

namespace BatchReport

def isClean (r : BatchReport) : Bool := r.failed == 0

def absorb (r s : BatchReport) : BatchReport :=
  ⟨r.success + s.success, r.failed + s.failed, r.total + s.total, r.errors ++ s.errors⟩

def add (r : BatchReport) (path : String) : Except WriteError WriteOutcome → BatchReport
  | .ok _ => { r with success := r.success + 1, total := r.total + 1 }
  | .error e =>
      { r with failed := r.failed + 1, total := r.total + 1, errors := r.errors ++ [⟨path, e⟩] }

end BatchReport

def Workspace.writeAll (w : Workspace) (files : List GeneratedFile) : Workspace × BatchReport :=
  files.foldl (fun (w, report) f =>
    let (w, outcome) := w.write f
    (w, report.add f.path outcome)) (w, {})

end ApiScreens
