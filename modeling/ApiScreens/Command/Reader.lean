import ApiScreens.Command.Level
import ApiScreens.Settings.Environment

/-! Reading a command line word by word. The value of an option is looked at when the next one begins or
the line ends, so of two faults the one that is met first is the error. -/
namespace ApiScreens.CommandLine

structure Reading where
  values : List (String × String) := []
  switches : List String := []
  pending : Option (String × Option String) := none
  literal : Bool := false
  deriving DecidableEq, Repr

namespace Reading

def value? (r : Reading) (name : String) : Option String := r.values.lookup name

def has (r : Reading) (name : String) : Bool := name ∈ r.switches

def isAwaiting (r : Reading) : Bool :=
  !r.literal && r.pending.any fun (_, v) => v.isNone

def record (l : Level) (r : Reading) (name v : String) : Except UsageError Reading :=
  if (r.value? name).isSome then .error .givenTwice
  else if v = "" ∧ name ∈ l.options then .error .invalidValue
  else .ok { r with values := r.values ++ [(name, v)] }

def settle (l : Level) (r : Reading) : Except UsageError Reading :=
  match r.pending with
  | none => .ok r
  | some (_, none) => .error .invalidValue
  | some (name, some v) => record l { r with pending := none } name v

def switch (l : Level) (r : Reading) (name : String) : Except UsageError Reading :=
  match l.inquiry? name with
  | some e => do
      let _ ← settle l r
      .error e
  | none =>
      if name ∈ l.switches then do
        let r ← settle l r
        if r.has name then .error .givenTwice
        else .ok { r with switches := r.switches ++ [name] }
      else .error .unknownArgument

def long (l : Level) (r : Reading) (name : String) : Option String → Except UsageError Reading
  | none =>
      if name ∈ l.options then do
        let r ← settle l r
        .ok { r with pending := some (name, none) }
      else switch l r name
  | some v =>
      if name ∈ l.options then do
        let r ← settle l r
        record l r name v
      else if name ∈ l.switches ∨ (l.inquiry? name).isSome then .error .unneededValue
      else .error .unknownArgument

def short (l : Level) (r : Reading) : List Char → Except UsageError Reading
  | [] => .ok r
  | c :: rest => match Level.longName? c with
    | none => .error .unknownArgument
    | some name => do
        let r ← switch l r name
        short l r rest

def positional (l : Level) (r : Reading) (word : String) : Except UsageError Reading :=
  match l.positional with
  | some name =>
      if (r.value? name).isSome ∨ r.pending.any (·.1 = name) then .error .unknownArgument
      else do
        let r ← settle l r
        .ok { r with pending := some (name, some word) }
  | none =>
      let isCommand := word = "help" ∨ (l.commands.lookup word).isSome
      if l.commands = [] ∨ (r.literal ∧ isCommand) then .error .unknownArgument
      else .error .unknownCommand

def plain (l : Level) (r : Reading) (word : String) : Except UsageError Reading :=
  if r.isAwaiting then
    .ok { r with pending := r.pending.map fun (name, _) => (name, some word) }
  else positional l r word

def longParts (body : List Char) : String × Option String :=
  match body.dropWhile (· != '=') with
  | [] => (String.ofList body, none)
  | _ :: v => (String.ofList (body.takeWhile (· != '=')), some (String.ofList v))

def read (l : Level) (r : Reading) (word : String) : Except UsageError Reading :=
  if r.literal then positional l r word
  else match word.toList with
    | ['-', '-'] => .ok { r with literal := true }
    | '-' :: '-' :: body => long l r (longParts body).1 (longParts body).2
    | '-' :: c :: letters => short l r (c :: letters)
    | _ => plain l r word

def close (l : Level) (preset : Option String) (r : Reading) : Except UsageError Reading := do
  let r ← settle l r
  if (r.value? Level.settingsOption).isNone ∧ preset = some "" then .error .invalidValue
  else .ok r

def isEmpty (preset : Option String) (r : Reading) : Bool :=
  r.values = [] && r.switches = [] && preset.isNone

end Reading

structure Chosen where
  leaf : Leaf
  reading : Reading
  settings : Option String
  deriving DecidableEq, Repr

def finish (preset : Option String) (l : Level) (r : Reading) : Except UsageError Chosen := do
  let r ← r.close l preset
  match l with
  | .leaf command => .ok ⟨command, r, r.value? Level.settingsOption⟩
  | _ => .error (if r.isEmpty preset then .nothingGiven else .commandMissing)

/-- The words from a level on. A settings file named further on counts before one named here. -/
def choose (preset : Option String) (l : Level) (r : Reading) :
    List String → Except UsageError Chosen
  | [] => finish preset l r
  | word :: rest =>
      let command := if r.literal || r.isAwaiting then none else l.commands.lookup word
      match command with
      | some inner => do
          let chosen ← choose preset inner {} rest
          let r ← r.close l preset
          .ok { chosen with settings := chosen.settings.or (r.value? Level.settingsOption) }
      | none =>
          if !r.literal && !r.isAwaiting && word = "help" && l.commands ≠ [] then
            .error (l.helpAbout rest)
          else do
            let r ← r.read l word
            choose preset l r rest

def commandOf (leaf : Leaf) (r : Reading) : Command :=
  let path (name default : String) : String := (r.value? name).getD default
  match leaf with
  | .swagger => .swagger (r.value? "domain") (path "out" "configs") (r.value? "spec-file") (r.has "probe")
  | .generate => .generate (path "configs" "configs") (path "project" ".") (r.has "force")
      (r.has "no-backup") (r.value? "templates")
  | .charts => .charts (path "config" "config.json") (path "project" ".") (r.has "force")
      (r.value? "templates")
  | .localeSync => .localeSync (path "src" "src") (path "locales" "src/locales")
  | .localeKeys => .localeKeys (path "configs" "configs") (path "locales" "src/locales")

def settingsVariable : String := "UISCAFFOLD_SETTINGS"

def defaultSettings : String := "uiscaffold.toml"

def parse (vars : Environment.Variables) (words : List String) : Except UsageError CommandLine := do
  let preset := vars.reverse.lookup settingsVariable
  let chosen ← choose preset .top {} words
  .ok ⟨(chosen.settings.or preset).getD defaultSettings, commandOf chosen.leaf chosen.reading⟩

end ApiScreens.CommandLine
