import FeatureAudit.CommandLine.Run

/-!
The paths that a command may touch. Settings name paths too, so what is reached depends on the
settings that are known so far: a workspace that holds the paths of `Command.paths` is one in which
a second look finds the rest.
-/
namespace FeatureAudit.CommandLine

/-- The paths from which settings may be read. -/
def settingsPaths (file : String) : List Path :=
  if file.isEmpty then settingsFileNames.map Path.ofString else [Path.ofString file]

/-- The paths that settings name: the dataset, whose name may start with a tilde, and the report. -/
def namedPaths (ws : Workspace) : Except SettingsError Settings → List Path
  | .ok s =>
    let named (name? : Option String) := name?.toList.filter fun name => !name.isEmpty
    ((named s.dataset).filterMap fun name => (ws.resolve name).toOption) ++
      (named s.outputFile).map Path.ofString
  | .error _ => []

/-- The paths that an audit may touch. -/
def ScanOptions.paths (o : ScanOptions) (ws : Workspace) : List Path :=
  Path.ofString o.path :: settingsPaths o.settingsFile ++ namedPaths ws (o.settings ws [])

/-- The paths that a command may touch. -/
def Command.paths (ws : Workspace) : Command → List Path
  | .analyze o _ _ => o.paths ws
  | .ci o _ _ => o.paths ws
  | .check _ settingsFile _ =>
    settingsPaths settingsFile ++
      namedPaths ws (Settings.load ws.room ws.files ws.environment { file := settingsFile })
  | .init _ => [madeSettingsPath]

/-- The paths that a command line may touch. -/
def Invocation.paths (ws : Workspace) : Invocation → List Path
  | .run command => command.paths ws
  | _ => []

end FeatureAudit.CommandLine
