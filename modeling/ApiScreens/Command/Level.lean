import ApiScreens.Command.Line

/-! The levels of the command line and what may stand on each. Commands lead from one level to the next;
the last level stands for one command. -/
namespace ApiScreens.CommandLine

inductive Leaf where
  | swagger | generate | charts | localeSync | localeKeys
  deriving DecidableEq, Repr

inductive Level where
  | top
  | locale
  | leaf (l : Leaf)
  deriving DecidableEq, Repr

namespace Level

def commands : Level → List (String × Level)
  | top =>
      [("swagger", leaf .swagger), ("generate", leaf .generate), ("analysis", leaf .charts),
       ("locale", locale)]
  | locale => [("sync", leaf .localeSync), ("keys", leaf .localeKeys)]
  | leaf _ => []

def settingsOption : String := "settings"

def options (l : Level) : List String :=
  settingsOption :: match l with
    | leaf .swagger => ["out", "spec-file"]
    | leaf .generate => ["configs", "project", "templates"]
    | leaf .charts => ["config", "project", "templates"]
    | leaf .localeSync => ["src", "locales"]
    | leaf .localeKeys => ["configs", "locales"]
    | _ => []

def switches : Level → List String
  | leaf .swagger => ["probe"]
  | leaf .generate => ["force", "no-backup"]
  | leaf .charts => ["force"]
  | _ => []

def positional : Level → Option String
  | leaf .swagger => some "domain"
  | _ => none

def inquiry? (l : Level) (name : String) : Option UsageError :=
  if name = "help" then some .help
  else if name = "version" ∧ l = top then some .version
  else none

def longName? : Char → Option String
  | 'h' => some "help"
  | 'V' => some "version"
  | 'f' => some "force"
  | _ => none

def helpAbout (l : Level) : List String → UsageError
  | [] => .help
  | name :: rest => match l.commands.lookup name with
    | some inner => helpAbout inner rest
    | none => if name = "help" ∧ l.commands ≠ [] ∧ rest = [] then .help else .unknownCommand

end Level
end ApiScreens.CommandLine
