import ApiScreens.Chart.Generate
import ApiScreens.Command.Line
import ApiScreens.Domain.Offline
import ApiScreens.Locale.Sync
import ApiScreens.Override.Directory
import ApiScreens.Settings.File
import ApiScreens.Solutions.Generate

/-! Carrying out a command line. Only what a command cannot do without ends it with an error; a file or
domain that fails is reported and the rest is done all the same. -/
namespace ApiScreens
open Server (Access Wire)

inductive RunError where
  | settings (e : SettingsError)
  | environment (e : SettingsError)
  | input (e : InputError)
  | description (e : DescriptionError)
  deriving DecidableEq, Repr

def RunError.message : RunError → String
  | settings e => e.message
  | environment e => "failed to load swagger environment: " ++ e.message
  | input e => e.message
  | description e => e.message

structure Surroundings where
  vars : Environment.Variables := []
  wire : Wire := { answers := fun _ => .error .unreachable }

namespace Surroundings

def server (s : Surroundings) (env : Environment) : Access :=
  { base := env.baseUrl, credentials := env.credentials, wire := s.wire }

def prober (s : Surroundings) (probe : Bool) : Option Access :=
  if probe then ((Environment.ofVariables s.vars).toOption).map s.server else none

end Surroundings

namespace Command

def summarized (w : Workspace) : Except RunError DomainSummary → Workspace × Except RunError Unit
  | .ok summary => (w.printAll summary.lines, .ok ())
  | .error e => (w, .error e)

def fetchAll (s : Surroundings) (o : DomainOptions) (w : Workspace) :
    Workspace × Except RunError Unit :=
  match Environment.ofVariables s.vars with
  | .error e => (w, .error (.environment e))
  | .ok env =>
      let (w, _, outcome) := o.run env w (s.server env)
      summarized w (outcome.mapError .settings)

def readOne (s : Surroundings) (o : DomainOptions) (path : String) (w : Workspace) :
    Workspace × Except RunError Unit :=
  let (w, _, outcome) := o.runOffline path w (s.prober o.probe)
  summarized w (outcome.mapError .description)

def overridesOf (w : Workspace) : Option String → Except RunError Overrides
  | none => .ok .empty
  | some directory => (Overrides.load w.tree directory).mapError .input

def generateScreens (g : Generation) (w : Workspace) : Workspace × Except RunError Unit :=
  let (start, w) := w.now
  match g.run w with
  | (w, .error e) => (w, .error (.input e))
  | (w, .ok stats) =>
      let (finish, w) := w.now
      (w.printAll (stats.lines (start.duration finish)), .ok ())

def syncKeys (w : Workspace) (configs locales : String) : Workspace × Except RunError Unit :=
  match w.loadSolutions configs with
  | (w, .error e) => (w, .error (.input e))
  | (w, .ok solutions) =>
      let (w, r) := Locale.syncSolutions w solutions locales
      (w.printAll r.lines, .ok ())

def run (settings : Settings) (s : Surroundings) (w : Workspace) :
    Command → Workspace × Except RunError Unit
  | .swagger domain out specFile probe =>
      let o : DomainOptions := ⟨domain, out, probe, settings.heuristics⟩
      match specFile with
      | none => fetchAll s o w
      | some path => readOne s o path w
  | .generate configs project force noBackup templates =>
      match overridesOf w templates with
      | .error e => (w, .error e)
      | .ok overrides =>
          let options := Settings.writeOptions settings.output force noBackup
          generateScreens ⟨configs, project, options, overrides⟩ w
  | .charts config project force templates =>
      match overridesOf w templates with
      | .error e => (w, .error e)
      | .ok overrides =>
          ((w.generateCharts config project overrides ⟨force, settings.output.backup⟩).1, .ok ())
  | .localeSync src locales =>
      let (w, r) := Locale.syncSources w src locales
      (w.printAll r.lines, .ok ())
  | .localeKeys configs locales => syncKeys w configs locales

end Command

def CommandLine.run (l : CommandLine) (s : Surroundings) (w : Workspace) :
    Workspace × Except RunError Unit :=
  match Settings.load w.tree l.settings with
  | .error e => (w, .error (.settings e))
  | .ok settings => l.command.run settings s w

end ApiScreens
