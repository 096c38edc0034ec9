import FeatureAudit.Datasets

/-!
A workspace over time.

* `Event` is what happens to a workspace: files are written and deleted, and datasets are asked for.
* `Workspace.afterAll` is the workspace after some events, from a workspace that was `opened`.
-/
namespace FeatureAudit

/-- Take away the file that a path leads to. -/
def Files.delete (fs : Files) (p : Path) : Except AccessError Files :=
  match fs.find p with
  | .ok (names, .file _) => .ok (fs.remove names)
  | .ok (_, .directory) => .error .isDirectory
  | .error e => .error e

/-- What happens to a workspace. -/
inductive Event where
  | write (path : Path) (content : List UInt8)
  | delete (path : Path)
  | load (dataset : Option String)

namespace Workspace

/-- A workspace in which no dataset has been read. -/
def opened (files : Files) (environment : Environment) (homes : Homes) (room : Room) : Workspace :=
  { files, environment, homes, room, loaded := [] }

/-- The workspace with other files, if the change of them succeeds. -/
def changed (ws : Workspace) : Except AccessError Files → Workspace
  | .ok files => { ws with files }
  | .error _ => ws

/-- The workspace after an event. -/
def after (ws : Workspace) : Event → Workspace
  | .write path content => ws.changed (ws.files.write path content)
  | .delete path => ws.changed (ws.files.delete path)
  | .load dataset => (ws.registry dataset).2

/-- The workspace after some events. -/
def afterAll (ws : Workspace) (events : List Event) : Workspace := events.foldl after ws

end Workspace

end FeatureAudit
