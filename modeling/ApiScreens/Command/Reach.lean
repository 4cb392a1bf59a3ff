import ApiScreens.Command.Line
import ApiScreens.Solutions.Merged

/-! The paths that a command line may look at or write below. -/
namespace ApiScreens

def Command.paths : Command → List String
  | .swagger _ out specFile _ => out :: specFile.toList
  | .generate configs project _ _ templates =>
      [configs, Solutions.mergedPath configs, project] ++ templates.toList
  | .charts config project _ templates => [config, project] ++ templates.toList
  | .localeSync src locales => [src, locales]
  | .localeKeys configs locales => [configs, locales]

def CommandLine.paths (l : CommandLine) : List String := l.settings :: l.command.paths

end ApiScreens
