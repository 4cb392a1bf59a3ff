import ApiScreens.Workspace
import Std.Time.DateTime.Timestamp

/-! The disk as a file tree. What a run may look at is read before it, and what it changed is written
after it. Links to directories are not followed, and a file that was not read is never written over. -/
namespace ApiScreens.Disk
open Files

def contentsOf (bytes : ByteArray) : Contents :=
  match String.fromUTF8? bytes with
  | some s => .text s
  | none => .raw bytes.toList

def bytesOf : Contents → ByteArray
  | .text s => s.toUTF8
  | .raw bytes => ⟨bytes.toArray⟩

def pathOf (l : Location) : String := "/" ++ Text.joinWith "/" l

def locationOf (base : Location) (path : String) : Location :=
  (Tree.steps path).foldl step (if Path.isAbsolute path then [] else base)
where
  step (l : Location) (name : String) : Location :=
    if name = "." then l else if name = ".." then l.dropLast else l ++ [name]

partial def entriesAt (l : Location) : IO (List (Location × Entry)) := do
  let path := (← IO.currentDir) / pathOf l
  try
    if ← path.isDir then
      if l ≠ [] && (← path.symlinkMetadata).type == .symlink then return [(l, .directory)]
      let inside ← (← path.readDir).toList.mapM fun e => entriesAt (l ++ [e.fileName])
      return (if l = [] then [] else [(l, .directory)]) ++ inside.flatten
    else return [(l, .file (contentsOf (← IO.FS.readBinFile path)))]
  catch _ => return []

def outermost (ls : List Location) : List Location :=
  ls.eraseDups.filter fun l => !ls.any fun k => k ≠ l && k.isPrefixOf l

def around (l : Location) : List Location := (List.range l.length).tail.map (l.take ·)

def read (paths : List String) : IO Tree := do
  let here ← IO.currentDir
  let base := Tree.steps here.toString
  let roots := outermost (paths.map (locationOf base))
  let outer := ((base :: roots).flatMap around ++ [base]).eraseDups.filter (· ∉ roots)
  let directories ← outer.filterM fun l => (here / pathOf l).isDir
  let inside ← roots.mapM entriesAt
  return .ofList base (directories.map (·, .directory) ++ inside.flatten)

def write (before after : Tree) : IO Unit := do
  let here ← IO.currentDir
  for (l, e) in after.entries do
    if before.at? l ≠ some e then
      let path := here / pathOf l
      match e with
      | .directory => IO.FS.createDirAll path
      | .file c =>
          if (before.at? l).isNone && (← path.pathExists) then
            throw (IO.userError (pathOf l ++ " is in the way"))
          IO.FS.writeBinFile path (bytesOf c)

def environment : IO (List (String × String)) := do
  let bytes ← try IO.FS.readBinFile "/proc/self/environ" catch _ => return []
  return (Text.splitOn (Char.ofNat 0) ((String.fromUTF8? bytes).getD "")).filterMap (Text.cutAt '=')

def clock : IO (Nat → Instant) := do
  let start ← Std.Time.Timestamp.now
  return fun n => ⟨start.toNanosecondsSinceUnixEpoch.toInt.toNat + n⟩

end ApiScreens.Disk
