import ApiScreens.Files.Tree
import ApiScreens.Input.Error
import ApiScreens.Template

/-! Overrides in a directory: every file whose name ends in the extension of overrides, named for the
file that it replaces. -/
namespace ApiScreens.Overrides
open Files (Tree)

def extension : String := "j2"

def read (t : Tree) (directory name : String) : Option (Except InputError (String × String)) :=
  match Path.splitName name with
  | (stem, some ext) =>
      if ext = extension then
        let path := Path.append directory name
        some <| match t.readText path with
          | .ok source => .ok (stem, source)
          | .error e => .error ⟨.override, path, e⟩
      else none
  | _ => none

def load (t : Tree) (directory : String) : Except InputError Overrides :=
  match t.names directory with
  | .error e => .error ⟨.overrides, directory, e⟩
  | .ok names => ((names.filterMap (read t directory)).mapM id).map .ofList

end ApiScreens.Overrides
