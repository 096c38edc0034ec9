import FeatureAudit.Settings.Basic
import FeatureAudit.Json.Reader
import FeatureAudit.Json.Writer
import FeatureAudit.Text.Blank
import FeatureAudit.Text.Utf8

/-!
Where settings come from: a file, the environment, and overrides of a single run. For every field
the last source that has it counts.

* `settingsFile?` finds the file of a directory, and `readSettingsFile` reads one.
* `Settings.load` puts the sources together.
* `writeDefaultSettings` makes a file that holds every default.
-/
namespace FeatureAudit

open FeatureAudit.Json FeatureAudit.Text

/-- The variables of the environment. -/
abbrev Environment := List (String × String)

/-- The value of a variable, without the blanks around it; nothing if it is not set. -/
def Environment.value (env : Environment) (name : String) : String :=
  strip (((env.find? fun v => v.1 == name).map Prod.snd).getD "")

/-- Why there are no settings, or no file of them. -/
inductive SettingsError where
  | missing (path : String)
  | unreadable (path : String) (reason : AccessError)
  | notText (path : String)
  | malformed (path : String) (reason : ReadError)
  | notAnObject (path : String)
  | invalid (faults : List FieldFault)
  | exists (path : String)
  | inaccessible (path : String) (reason : AccessError)
  deriving DecidableEq, Repr

/-- The wording of an error. That of faults states only how many there are. -/
def SettingsError.message : SettingsError → String
  | .missing path => s!"Config file not found: {path}"
  | .unreadable path reason => s!"Could not read config file {path}: {reason.message path}"
  | .notText path => s!"Config file {path} is not text"
  | .malformed path reason => s!"Config file {path} is not valid JSON: {reason.message}"
  | .notAnObject path => s!"Config file {path} must contain a JSON object"
  | .invalid faults =>
    let noun := if faults.length = 1 then "error" else "errors"
    s!"Invalid configuration: {faults.length} validation {noun} for BaselineConfig"
  | .exists path => s!"{path} already exists (use --force to overwrite)"
  | .inaccessible path reason => reason.message path

/-- Whether an error is told to the user as one of the settings. The others (bytes that are no
text, limits of the reader, paths that cannot be followed or written to) are failures of the
program. -/
def SettingsError.isReported : SettingsError → Bool
  | .notText _ => false
  | .malformed _ (.malformed ..) => true
  | .malformed .. => false
  | .inaccessible .. => false
  | _ => true

/-- The names of the files that hold settings, in the order in which they are looked for. -/
def settingsFileNames : List String := ["baseline-checker.config.json", ".baselinerc.json"]

/-- The first of some paths that leads to a file. -/
def firstFile? (fs : Files) : List Path → Except SettingsError (Option Path)
  | [] => .ok none
  | path :: rest =>
    match fs.hasFile path with
    | .error reason => .error (.inaccessible path.toString reason)
    | .ok true => .ok (some path)
    | .ok false => firstFile? fs rest

/-- The file of settings in a directory. -/
def settingsFile? (fs : Files) (directory : Path) : Except SettingsError (Option Path) :=
  firstFile? fs (settingsFileNames.map fun name => directory.join (Path.ofString name))

/-- The directory in which settings are looked for: the one named, or the working directory. -/
def settingsDirectory (fs : Files) (name : String) : Path :=
  if name.isEmpty then ⟨"/", fs.directory⟩ else Path.ofString name

/-- The fields of the object in a file. -/
def readSettingsFile (room : Room) (fs : Files) (path : Path) :
    Except SettingsError (List (String × Value)) :=
  let name := path.toString
  match fs.read path with
  | .error .notFound => .error (.missing name)
  | .error .nullCharacter => .error (.inaccessible name .nullCharacter)
  | .error reason => .error (.unreadable name reason)
  | .ok bytes =>
    match decode? bytes with
    | none => .error (.notText name)
    | some text =>
      match read room (universalNewlines text) with
      | .error reason => .error (.malformed name reason)
      | .ok (.obj fields) => .ok fields
      | .ok _ => .error (.notAnObject name)

/-- The items of a list with commas, without the blanks around them; blank items mean nothing. -/
def commaItems (s : String) : List String :=
  ((s.toList.splitOn ',').map fun item => strip (String.ofList item)).filter fun item =>
    !item.isEmpty

/-- The variables that may set fields. -/
def settingsVariables : List String :=
  ["BASELINE_TARGET", "BASELINE_EXCEPTIONS", "BASELINE_DATASET"]

/-- The fields that the environment sets. -/
def environmentFields (env : Environment) : List (String × Value) :=
  let target := env.value "BASELINE_TARGET"
  let exceptions := env.value "BASELINE_EXCEPTIONS"
  let dataset := env.value "BASELINE_DATASET"
  (if target.isEmpty then [] else [("target", .str target)]) ++
    (if exceptions.isEmpty then []
      else [("exceptions", .ofStrings (commaItems exceptions))]) ++
    (if dataset.isEmpty then [] else [("dataset", .str dataset)])

/-- Fields over fields: those above count. -/
def overlay (below above : List (String × Value)) : List (String × Value) :=
  above.foldl (fun kept f => setField kept f.1 f.2) below

/-- The overrides that say something: null says nothing. -/
def effectiveOverrides (overrides : List (String × Value)) : List (String × Value) :=
  (Settings.underFirstNames overrides).filter fun f =>
    match f.2 with
    | .null => false
    | _ => true

/-- Where the settings of a run come from: the path of a file, or the directory in which one is
looked for, and the overrides. Empty texts are as good as none. -/
structure SettingsRequest where
  file : String := ""
  directory : String := ""
  overrides : List (String × Value) := []

/-- The file of settings that a request leads to. -/
def SettingsRequest.file? (r : SettingsRequest) (fs : Files) :
    Except SettingsError (Option Path) :=
  if r.file.isEmpty then settingsFile? fs (settingsDirectory fs r.directory)
  else .ok (some (Path.ofString r.file))

/-- Settings from the fields of a file, the environment and the overrides. -/
def Settings.ofSources (file : List (String × Value)) (env : Environment)
    (overrides : List (String × Value)) : Except SettingsError Settings :=
  match ofFields (overlay (overlay (underFirstNames file) (environmentFields env))
      (effectiveOverrides overrides)) with
  | .good s => .ok s
  | .faulty faults => .error (.invalid faults)

/-- The settings that a request asks for. -/
def Settings.load (room : Room) (fs : Files) (env : Environment) (r : SettingsRequest) :
    Except SettingsError Settings :=
  match r.file? fs with
  | .error e => .error e
  | .ok none => ofSources [] env r.overrides
  | .ok (some path) =>
    match readSettingsFile room fs path with
    | .error e => .error e
    | .ok fields => ofSources fields env r.overrides

/-- The text of a file that holds every default. -/
def defaultSettingsText : String := (Settings.toValue {}).indented ++ "\n"

/-- Write the defaults to a file. One that is there is kept unless `force` is set. -/
def writeDefaultSettings (fs : Files) (path : Path) (force : Bool) :
    Except SettingsError Files :=
  match fs.has path with
  | .error reason => .error (.inaccessible path.toString reason)
  | .ok present =>
    if present && !force then .error (.exists path.toString)
    else
      match fs.write path (encode defaultSettingsText) with
      | .ok fs => .ok fs
      | .error reason => .error (.inaccessible path.toString reason)

end FeatureAudit
