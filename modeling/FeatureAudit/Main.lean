import FeatureAudit.CommandLine.Help
import FeatureAudit.CommandLine.Reach
import FeatureAudit.Instant
import Std.Time.DateTime.Timestamp

/-!
The program. It gathers the files and variables that a command line may touch, answers the command
line in them, and writes what the answer has changed.
-/
namespace FeatureAudit

open CommandLine

namespace Program

/-- How deeply directories are walked into. -/
def walkLimit : Nat := 100

/-- A path as the system knows it. -/
def systemName (names : List String) : String := "/" ++ "/".intercalate names

/-- Gather the sources inside a directory. What cannot be opened is left out. -/
def gatherInside : Nat → List String → Files → IO Files
  | 0, _, fs => pure fs
  | depth + 1, names, fs => do
    let mut gathered := fs
    for entry in ← (System.mkFilePath [systemName names]).readDir do
      let inner := names ++ [entry.fileName]
      try
        if ← entry.path.isDir then
          unless excludedDirectories.contains entry.fileName do
            gathered ← gatherInside depth inner (gathered.set inner .directory)
        else if (fileKind? entry.fileName).isSome then
          gathered := gathered.put inner (← IO.FS.readBinFile entry.path).toList
      catch _ => pure ()
    return gathered

/-- Gather the directories that hold a name. -/
def gatherAbove (names : List String) (fs : Files) : IO Files :=
  (List.range names.length).foldlM (fun gathered i => do
    let above := names.take i
    if above.isEmpty || (gathered.entryAt? above).isSome then return gathered
    else if ← (System.mkFilePath [systemName above]).isDir then
      return gathered.set above .directory
    else return gathered) fs

/-- Gather what a path leads to: a file, or a directory with the sources inside it. -/
def gather (fs : Files) (path : Path) : IO Files := do
  if path.hasNull then return fs
  let names := (path.resolved fs.directory).parts
  let gathered ← gatherAbove names fs
  let place := System.mkFilePath [systemName names]
  if ← place.isDir then
    gatherInside walkLimit names (if names.isEmpty then gathered else gathered.set names .directory)
  else if ← place.pathExists then
    return gathered.put names (← IO.FS.readBinFile place).toList
  else return gathered

/-- The variables that settings may come from and the one of the home directory, as they are set. -/
def environment : IO Environment :=
  (homeVariable :: settingsVariables).filterMapM fun name => do
    return (← IO.getEnv name).map fun value => (name, value)

/-- The file in which the system keeps its users, one on a line. -/
def usersFile : String := "/etc/passwd"

/-- The user of a line and their home directory, the first and the sixth of its fields. -/
def homeOf? (line : List Char) : Option (String × String) :=
  match line.splitOn ':' with
  | name :: _ :: _ :: _ :: _ :: home :: _ => some (String.ofList name, String.ofList home)
  | _ => none

/-- The home directories of the users that the system keeps. -/
def homes : IO Homes := do
  if ← (System.mkFilePath [usersFile]).pathExists then
    let users ← IO.FS.readFile (System.mkFilePath [usersFile])
    return { others := (users.toList.splitOn '\n').filterMap homeOf? }
  else return {}

/-- The workspace that a command line may touch. The second look reaches what settings name. -/
def workspaceFor (asked : Invocation) : IO Workspace := do
  let directory := (Path.ofString (← IO.currentDir).toString).parts
  let bare : Workspace :=
    { files := Files.empty directory, environment := ← environment, homes := ← homes, room := .usual, loaded := [] }
  let look (ws : Workspace) : IO Workspace := do
    return { ws with files := ← (asked.paths ws).foldlM gather ws.files }
  look (← look bare)

/-- The time of day, as reports state it. -/
def timestamp : IO String := do
  let now ← Std.Time.Timestamp.now
  return instantText (now.toNanosecondsSinceUnixEpoch.val.toNat / 1000)

/-- Write the files that are new or have new content. -/
def writeChanges (before after : Files) : IO Unit :=
  after.entries.forM fun (names, entry) =>
    match entry with
    | .directory => pure ()
    | .file content =>
      if before.entryAt? names == some entry then pure ()
      else IO.FS.writeBinFile (systemName names) ⟨content.toArray⟩

end Program

end FeatureAudit

open FeatureAudit in
/-- Answer a command line: print, write, and end with a status. -/
def main (words : List String) : IO UInt32 := do
  let ws ← Program.workspaceFor (.ofWords words)
  let outcome := CommandLine.respond ws (← Program.timestamp) CommandLine.helpText words
  for notice in outcome.notices do
    IO.eprintln s!"WARNING: {notice.message}"
  Program.writeChanges ws.files outcome.workspace.files
  match outcome.printed with
  | .ok printed =>
    IO.print printed.out
    IO.eprint printed.err
    return printed.status.toUInt32
  | .error failure =>
    IO.eprintln failure.message
    return 1
