import ApiScreens.Files.Tree
import ApiScreens.Locale.Calls

/-! The keys used by a tree of sources. Some directories below its root are passed over with all that is
in them; files that hold no text are passed over alone. -/
namespace ApiScreens.Locale
open Files

def skippedDirectories : List String := ["node_modules", ".git", "dist", "build"]

def sourceExtensions : List String := ["ts", "tsx", "js", "jsx"]

def isReached (names : List String) : Bool := names.dropLast.all (· ∉ skippedDirectories)

def isSource (name : String) : Bool := (Path.extension name).any (· ∈ sourceExtensions)

def keysOf (root : String) : List String × Entry → List String
  | (names, .file (.text source)) =>
      if isReached names && isSource ((names.getLast?).getD root) then keysUsed source else []
  | _ => []

def usedKeys (t : Tree) (root : String) : List String :=
  match t.locate root with
  | .ok (.present l _) => sortedDistinct ((t.below l).flatMap (keysOf root))
  | _ => []

end ApiScreens.Locale
