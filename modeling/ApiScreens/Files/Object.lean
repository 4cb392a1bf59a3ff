import ApiScreens.Files.Tree
import ApiScreens.Json.Reader

/-! Files that hold one JSON object. What cannot be read as one counts as empty. -/
namespace ApiScreens.Files
open Json (Value Members)

def objectOf (text : String) : Members := ((Value.parse text).bind Value.members?).getD []

def Tree.readObject (t : Tree) (path : String) : Members :=
  match t.readText path with
  | .ok text => objectOf text
  | .error _ => []

end ApiScreens.Files
