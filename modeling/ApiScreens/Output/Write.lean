import ApiScreens.Naming
import ApiScreens.Output.File
import ApiScreens.Workspace

/-! Writing one file without losing what is there. A file in the way is overwritten, copied to a backup
before that, or left alone while the text goes to a sibling with a number. -/
namespace ApiScreens
open Files

def Files.Tree.numberedPath (t : Tree) (p : String) : String :=
  Path.numbered p <| Naming.leastFree t.entries.length fun n => !t.present (Path.numbered p n)

def Files.Tree.backupPath (t : Tree) (p stamp : String) : String :=
  if t.present (Path.backup p stamp) then
    let again (n : Nat) : String := Path.backup p (stamp ++ "-" ++ toString n)
    again (Naming.leastFree t.entries.length fun n => !t.present (again n))
  else Path.backup p stamp

namespace Workspace

def makeRoom (w : Workspace) (path : String) : Workspace × Except WriteError Unit :=
  match (Path.parent path).filter (· ≠ "") with
  | none => (w, .ok ())
  | some around =>
      match w.tree.makeDirectories around with
      | (t, none) => (w.withTree t, .ok ())
      | (t, some e) => (w.withTree t, .error ⟨.createDirectory, around, e⟩)

def put (w : Workspace) (path content line : String) (outcome : WriteOutcome) :
    Workspace × Except WriteError WriteOutcome :=
  match w.tree.write path (.text content) with
  | .ok t => ((w.withTree t).print line, .ok outcome)
  | .error e => (w, .error ⟨.write, path, e⟩)

def backUp (w : Workspace) (path : String) : Workspace × Except WriteError String :=
  let (time, w) := w.now
  let target := w.tree.backupPath path time.stamp
  match w.tree.copy path target with
  | .ok t => ((w.withTree t).print ("📦 Backup created: " ++ target), .ok target)
  | .error e => (w, .error ⟨.backUp, path, e⟩)

def overwrite (w : Workspace) (f : GeneratedFile) (backup : Option String) :
    Workspace × Except WriteError WriteOutcome :=
  w.put f.path f.content ("✅ Overwritten: " ++ f.path) (.overwritten f.path backup)

def replace (w : Workspace) (f : GeneratedFile) : Workspace × Except WriteError WriteOutcome :=
  if f.options.backup then
    match w.backUp f.path with
    | (w, .ok target) => w.overwrite f (some target)
    | (w, .error e) => (w, .error e)
  else w.overwrite f none

def putBeside (w : Workspace) (f : GeneratedFile) : Workspace × Except WriteError WriteOutcome :=
  let written := w.tree.numberedPath f.path
  w.put written f.content ("⚠️  " ++ f.path ++ " exists, wrote " ++ written ++ " instead")
    (.renamed f.path written)

def write (w : Workspace) (f : GeneratedFile) : Workspace × Except WriteError WriteOutcome :=
  match w.makeRoom f.path with
  | (w, .error e) => (w, .error e)
  | (w, .ok ()) =>
      if !w.tree.present f.path then
        w.put f.path f.content ("✅ Created: " ++ f.path) (.created f.path)
      else if f.options.overwrite then w.replace f
      else w.putBeside f

end Workspace

end ApiScreens
