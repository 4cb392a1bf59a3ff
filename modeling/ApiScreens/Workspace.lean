import ApiScreens.Clock
import ApiScreens.Files.Tree

/-! What a run works on: a file tree, the lines printed so far, and a clock that is read one answer
after another. -/
namespace ApiScreens
open Files (Tree)

structure Workspace where
  tree : Tree := {}
  printed : List String := []
  clock : Nat → Instant := fun n => ⟨n⟩
  readings : Nat := 0

abbrev Run := StateM Workspace

namespace Workspace

def print (w : Workspace) (line : String) : Workspace := { w with printed := w.printed ++ [line] }

def printAll (w : Workspace) (lines : List String) : Workspace :=
  { w with printed := w.printed ++ lines }

def withTree (w : Workspace) (t : Tree) : Workspace := { w with tree := t }

def now (w : Workspace) : Instant × Workspace :=
  (w.clock w.readings, { w with readings := w.readings + 1 })

end Workspace

def Run.print (line : String) : Run Unit := modify (·.print line)

def Run.tree : Run Tree := return (← get).tree

end ApiScreens
