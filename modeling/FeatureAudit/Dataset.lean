import FeatureAudit.Json.Reader
import FeatureAudit.Json.Display
import FeatureAudit.Registry
import FeatureAudit.Aliases
import FeatureAudit.Text.Utf8

/-!
Datasets of web features: JSON objects whose fields are features, keyed by identifier, perhaps
inside a field `features`.

* `Dataset.features` turns a JSON value into features, or says what is wrong with it.
* `Dataset.registry` reads the content of a file.

An entry that has no status (a feature that moved or was split) is passed over.
-/
namespace FeatureAudit.Dataset

open FeatureAudit.Json FeatureAudit.Text

/-- What is wrong with a dataset. -/
inductive Defect where
  | notAnObject
  | entryNotAnObject (id : String)
  | supportNotAnObject (id : String)
  | compatKeysNotAList (id : String)
  | noFeatures
  deriving DecidableEq, Repr

/-- The wording of a defect. -/
def Defect.message : Defect → String
  | .notAnObject => "Feature dataset must be a JSON object keyed by feature id"
  | .entryNotAnObject id => "Feature " ++ quoted id ++ " is not an object"
  | .supportNotAnObject id => "Support of " ++ quoted id ++ " is not an object"
  | .compatKeysNotAList id => "compat_features of " ++ quoted id ++ " must be a list"
  | .noFeatures => "Feature dataset contains no usable features"

/-- The browsers whose versions are kept, in the order they are kept. -/
def browserNames : List String :=
  ["chrome", "chrome_android", "edge", "firefox", "firefox_android", "safari", "safari_ios"]

/-- The tier that a status states. Anything but `high` and `low` is limited support. -/
def tierOfStatus (status : Value) : Tier :=
  match status.field? "baseline" with
  | some (.str "high") => .widelyAvailable
  | some (.str "low") => .newlyAvailable
  | _ => .limited

/-- A field of an object, if it is there and holds something. -/
def presentField? (v : Value) (name : String) : Option Value :=
  match v.field? name with
  | some x => if x.isPresent then some x else none
  | none => none

/-- The versions of the known browsers in a status. -/
def browsersOf (id : String) (status : Value) : Except Defect (List (String × String)) :=
  match presentField? status "support" with
  | none => .ok []
  | some support =>
    match support with
    | .obj _ =>
      .ok (browserNames.filterMap fun b => (presentField? support b).map fun v => (b, v.display))
    | _ => .error (.supportNotAnObject id)

/-- The compatibility keys of an entry. -/
def compatKeysOf (id : String) (entry : Value) : Except Defect (List String) :=
  match presentField? entry "compat_features" with
  | none => .ok []
  | some (.arr items) => .ok (items.map Value.display)
  | some _ => .error (.compatKeysNotAList id)

/-- The feature of an entry with a status. -/
def featureOf (id : String) (entry status : Value) : Except Defect Feature :=
  match browsersOf id status with
  | .error e => .error e
  | .ok browsers =>
    match compatKeysOf id entry with
    | .error e => .error e
    | .ok compatKeys =>
      .ok
        { id, browsers, compatKeys
          name := ((presentField? entry "name").map Value.display).getD id
          tier := tierOfStatus status
          aliases := aliasesOf id }

/-- The features of the entries, in their order. -/
def featuresOfEntries : List (String × Value) → Except Defect (List Feature)
  | [] => .ok []
  | (id, entry) :: rest =>
    match entry with
    | .obj _ =>
      match entry.field? "status" with
      | some (.obj status) =>
        match featureOf id entry (.obj status) with
        | .error e => .error e
        | .ok f => (featuresOfEntries rest).map (f :: ·)
      | _ => featuresOfEntries rest
    | _ => .error (.entryNotAnObject id)

/-- The entries of a dataset: the object itself, or the object in its field `features`. -/
def entries (data : Value) : Except Defect (List (String × Value)) :=
  match data.field? "features" with
  | some (.obj fields) => .ok fields
  | _ =>
    match data with
    | .obj fields => .ok fields
    | _ => .error .notAnObject

/-- The features of a dataset, in its order. -/
def features (data : Value) : Except Defect (List Feature) :=
  match entries data with
  | .error e => .error e
  | .ok fields =>
    match featuresOfEntries fields with
    | .error e => .error e
    | .ok [] => .error .noFeatures
    | .ok fs => .ok fs

/-- Why the content of a file is no dataset. -/
inductive ContentError where
  | notText
  | malformed (error : ReadError)
  | defective (defect : Defect)
  deriving DecidableEq, Repr

/-- The registry of the dataset in the content of a file. -/
def registry (room : Room) (bytes : List UInt8) : Except ContentError Registry :=
  match decode? bytes with
  | none => .error .notText
  | some text =>
    match read room (universalNewlines text) with
    | .error e => .error (.malformed e)
    | .ok data =>
      match features data with
      | .error e => .error (.defective e)
      | .ok fs => .ok (Registry.ofFeatures fs)

end FeatureAudit.Dataset
