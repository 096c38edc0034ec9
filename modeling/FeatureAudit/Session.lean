import FeatureAudit.Audit

/-!
What every front end does in a workspace.

* `Failure` is why a task fails, and whether the user is told.
* `Workspace.audit` is the audit that settings ask for.
* `Workspace.lookUp` answers a query about one token.
-/
namespace FeatureAudit

/-- Why a command fails. -/
inductive Failure where
  | settings (reason : SettingsError)
  | dataset (reason : DatasetError)
  | noPath (path : String)
  | noJobs
  | inaccessible (path : String) (reason : AccessError)
  deriving DecidableEq, Repr

/-- The wording of a failure. -/
def Failure.message : Failure → String
  | .settings reason => reason.message
  | .dataset reason => reason.message
  | .noPath path => s!"Path not found: {path}"
  | .noJobs => "The number of workers is missing"
  | .inaccessible path reason => reason.message path

/-- Whether a failure is told to the user, as are those of the settings and the dataset and those of
paths that lead nowhere. -/
def Failure.isReported : Failure → Bool
  | .settings (.inaccessible _ .notFound) => true
  | .settings reason => reason.isReported
  | .dataset reason => reason.isReported
  | .noPath _ => true
  | .noJobs => false
  | .inaccessible _ .notFound => true
  | .inaccessible .. => false

/-- The audit that settings ask for. A registry that is given is used unless it knows no feature;
otherwise the dataset of the settings is loaded. -/
def Workspace.audit (ws : Workspace) (settings : Settings) (given? : Option Registry) :
    Except DatasetError Audit × Workspace :=
  let loadIt : Except DatasetError Audit × Workspace :=
    let (loaded, after) := ws.registry settings.dataset
    (loaded.map fun registry => { registry, settings, room := ws.room }, after)
  match given? with
  | some registry => if registry.size = 0 then loadIt else (.ok { registry, settings, room := ws.room }, ws)
  | none => loadIt

/-- Look one token up, for the target of the settings. -/
def Workspace.lookUp (ws : Workspace) (token : String) (request : SettingsRequest) :
    Except Failure Check × Workspace :=
  match Settings.load ws.room ws.files ws.environment request with
  | .error reason => (.error (.settings reason), ws)
  | .ok settings =>
    match ws.registry settings.dataset with
    | (.error reason, ws) => (.error (.dataset reason), ws)
    | (.ok registry, ws) => (.ok (registry.check token settings.target), ws)

end FeatureAudit
