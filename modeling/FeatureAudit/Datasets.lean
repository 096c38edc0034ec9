import FeatureAudit.Homes
import FeatureAudit.Dataset
import FeatureAudit.Catalogue

/-!
The datasets of a session. A dataset that was read once is kept under its resolved path, whatever
happens to the file afterwards; one that could not be read is not, so it is tried again.
-/
namespace FeatureAudit

open FeatureAudit.Json FeatureAudit.Text

/-- What a session works on: the files, the environment, the home directories, the room for calls, and the
registries of the datasets that have been read. -/
structure Workspace where
  files : Files
  environment : Environment
  homes : Homes
  room : Room
  loaded : List (Path × Registry)
  deriving Inhabited

/-- Why a dataset cannot be loaded. -/
inductive DatasetCause where
  | noHome
  | unreadable (reason : AccessError)
  | content (reason : Dataset.ContentError)
  deriving DecidableEq, Repr

/-- Why the dataset at a path cannot be loaded. -/
structure DatasetError where
  path : String
  cause : DatasetCause
  deriving DecidableEq, Repr

/-- The wording of an error. -/
def DatasetError.message (e : DatasetError) : String :=
  match e.cause with
  | .noHome => "Could not determine home directory."
  | .unreadable .notFound => s!"Feature dataset not found: {e.path}"
  | .unreadable .nullCharacter => AccessError.nullCharacter.message e.path
  | .unreadable reason =>
    s!"Could not read feature dataset {e.path}: {reason.message e.path}"
  | .content .notText => s!"Feature dataset {e.path} is not text"
  | .content (.malformed reason) =>
    s!"Feature dataset {e.path} is not valid JSON: {reason.message}"
  | .content (.defective defect) => defect.message

/-- Whether an error is told to the user as one of the dataset. The others (users without a home directory,
paths with a null character, bytes that are no text, limits of the reader, versions that are no object) are
failures of the program. -/
def DatasetError.isReported (e : DatasetError) : Bool :=
  match e.cause with
  | .noHome => false
  | .unreadable .nullCharacter => false
  | .unreadable _ => true
  | .content .notText => false
  | .content (.malformed (.malformed ..)) => true
  | .content (.malformed _) => false
  | .content (.defective (.supportNotAnObject _)) => false
  | .content (.defective _) => true

/-- The registry of the dataset in a file. -/
def Files.registry (fs : Files) (room : Room) (path : Path) : Except DatasetError Registry :=
  match fs.read path with
  | .error reason => .error ⟨path.toString, .unreadable reason⟩
  | .ok bytes =>
    match Dataset.registry room bytes with
    | .error reason => .error ⟨path.toString, .content reason⟩
    | .ok r => .ok r

namespace Workspace

/-- The registry that was read from a resolved path. -/
def loaded? (ws : Workspace) (path : Path) : Option Registry :=
  (ws.loaded.find? fun e => e.1 == path).map Prod.snd

/-- The registry at a resolved path: the one read before, or else that of the file. -/
def registryAt (ws : Workspace) (path : Path) : Except DatasetError Registry × Workspace :=
  match ws.loaded? path with
  | some r => (.ok r, ws)
  | none =>
    match ws.files.registry ws.room path with
    | .error e => (.error e, ws)
    | .ok r => (.ok r, { ws with loaded := (path, r) :: ws.loaded })

/-- The path that the name of a dataset stands for: absolute, and without a tilde. -/
def resolve (ws : Workspace) (name : String) : Except DatasetCause Path :=
  match (Path.ofString name).expanded ws.homes ws.environment with
  | .error .noHome => .error .noHome
  | .error .nullCharacter => .error (.unreadable .nullCharacter)
  | .ok path =>
    match path.resolve ws.files.directory with
    | .error reason => .error (.unreadable reason)
    | .ok path => .ok path

/-- The registry of a dataset; without one, that of the catalogue. -/
def registry (ws : Workspace) (dataset : Option String) :
    Except DatasetError Registry × Workspace :=
  match dataset with
  | none => (.ok catalogueRegistry, ws)
  | some name =>
    if name.isEmpty then (.ok catalogueRegistry, ws)
    else
      match ws.resolve name with
      | .error cause => (.error ⟨name, cause⟩, ws)
      | .ok path => ws.registryAt path

end Workspace

end FeatureAudit
