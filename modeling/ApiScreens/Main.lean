import ApiScreens.Command.Reach
import ApiScreens.Command.Reader
import ApiScreens.Command.Run
import ApiScreens.Disk

/-! The command line. It reads the files that a command names, carries the command out, writes what
changed and prints what there is to say. It has no connection to a server: descriptions are read from
files, and fetching one fails. -/
namespace ApiScreens.Main

def usageText : String :=
  "Screens from API descriptions\n\n" ++
  "  swagger [DOMAIN] [--out DIR] [--spec-file FILE] [--probe]\n" ++
  "  generate [--configs DIR] [--project DIR] [-f|--force] [--no-backup] [--templates DIR]\n" ++
  "  analysis [--config FILE] [--project DIR] [-f|--force] [--templates DIR]\n" ++
  "  locale sync [--src DIR] [--locales DIR]\n" ++
  "  locale keys [--configs DIR] [--locales DIR]\n\n" ++
  "  --settings FILE stands anywhere"

def carryOut (vars : Environment.Variables) (line : CommandLine) : IO UInt32 := do
  let tree ← Disk.read line.paths
  let (w, outcome) := line.run { vars } { tree, clock := ← Disk.clock }
  for text in w.printed do IO.println text
  Disk.write tree w.tree
  match outcome with
  | .ok () => return 0
  | .error e =>
      IO.eprintln ("Error: " ++ e.message)
      return 1

def run (args : List String) : IO UInt32 := do
  let vars ← Disk.environment
  match CommandLine.parse vars args with
  | .ok line => carryOut vars line
  | .error .help | .error .version =>
      IO.println usageText
      return 0
  | .error e =>
      IO.eprintln ("error: " ++ e.message ++ "\n\n" ++ usageText)
      return 2

end ApiScreens.Main

def main (args : List String) : IO UInt32 := ApiScreens.Main.run args
