import ApiScreens.Files.Object
import ApiScreens.Input.Error
import ApiScreens.Json.Printer
import ApiScreens.Output.Write
import ApiScreens.Solutions.Merged

/-! Solutions on disk: a directory with a file for each, and the merged file beside it. A file that is no
solution is passed over with a line about it. -/
namespace ApiScreens
open Files (Tree)
open Json (Members Value)

namespace Solutions

structure Candidate where
  path : String
  name : String
  content : Except String Solution

def read (t : Tree) (path : String) : Except String Solution :=
  match t.readText path with
  | .error e => .error e.message
  | .ok text => (Solution.parse text).elim (.error "this is no solution") .ok

def candidate (t : Tree) (directory name : String) : Option Candidate :=
  match Path.splitName name with
  | (stem, some "json") =>
      let path := Path.append directory name
      some ⟨path, Naming.camel stem, read t path⟩
  | _ => none

def candidates (t : Tree) (directory : String) : Except InputError (List Candidate) :=
  match t.names directory with
  | .error e => .error ⟨.solutions, directory, e⟩
  | .ok names => .ok (names.filterMap (candidate t directory))

def Candidate.line (c : Candidate) : String :=
  match c.content with
  | .ok s => "📋 Loaded " ++ c.path ++ ": " ++ toString s.modules.size ++ " modules"
  | .error reason => "⚠️  Skipping " ++ c.path ++ ": " ++ reason

def ofCandidates (cs : List Candidate) : Solutions :=
  .ofList <| cs.filterMap fun c => match c.content with
    | .ok s => some (c.name, s)
    | .error _ => none

def ofDirectory (t : Tree) (directory : String) : Except InputError Solutions :=
  (candidates t directory).map ofCandidates

def keepingCharts (t : Tree) (path : String) (merged : Members) : Members :=
  match (t.readObject path).get? chartKey with
  | none => merged
  | some charts => merged.set chartKey charts

end Solutions

namespace Workspace

def loadSolutions (w : Workspace) (directory : String) :
    Workspace × Except InputError Solutions :=
  match Solutions.candidates w.tree directory with
  | .error e => (w, .error e)
  | .ok cs => (w.printAll (cs.map Solutions.Candidate.line), .ok (Solutions.ofCandidates cs))

def replaceText (w : Workspace) (path content : String) :
    Workspace × Except WriteError WriteOutcome :=
  w.write ⟨path, content, ⟨true, false⟩⟩

def writeMerged (w : Workspace) (path : String) (merged : Members) :
    Workspace × Except WriteError WriteOutcome :=
  w.replaceText path (Value.object (Solutions.keepingCharts w.tree path merged)).pretty

end Workspace
end ApiScreens
