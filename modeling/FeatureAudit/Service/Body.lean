import FeatureAudit.Checked
import FeatureAudit.Json.Reader
import FeatureAudit.Text.Encoding

/-!
The bodies of requests: JSON values, and what they ask for.

* `bodyValue?` reads the bytes of a body.
* `CheckBody.ofFields` and `AnalyzeBody.ofFields` read what is asked.
-/
namespace FeatureAudit.Service

open FeatureAudit.Json FeatureAudit.Text

/-- A query about one token. -/
structure CheckBody where
  token : String
  target : Option Tier
  deriving DecidableEq, Repr

/-- What is to be audited: code with a file name that tells its kind, files, or a folder, with
overrides of the settings. -/
structure AnalyzeBody where
  code : Option String
  filename : Option String
  filePaths : Option (List String)
  folderPath : Option String
  target : Option Tier
  exceptions : Option (List String)
  generateFixes : Bool
  deriving DecidableEq, Repr

/-- Why a body holds no value: faults to be told, or bytes that are beyond the reader. -/
inductive BodyError where
  | faulty (faults : List FieldFault)
  | unreadable
  deriving DecidableEq, Repr

/-- The text of a body, in the encoding that its first bytes tell. -/
def bodyText? (bytes : List UInt8) : Option (List Char) :=
  let (encoding, rest) := Encoding.split bytes
  encoding.read? rest

/-- The value of a body, if there is a body. -/
def bodyValue? (room : Room) (bytes : List UInt8) : Except BodyError (Option Value) :=
  if bytes.isEmpty then .ok none
  else
    match bodyText? bytes with
    | none => .error .unreadable
    | some text =>
      match readChars room text with
      | .ok v => .ok (some v)
      | .error (.malformed _ _ _ offset) => .error (.faulty [⟨[.item offset], .badJson, true⟩])
      | .error _ => .error .unreadable

/-- The fields of a body. -/
def bodyFields {α : Type} (read : List (String × Value) → Checked α) : Option Value → Checked α
  | some (.obj fields) => read fields
  | some v => .fail .noObject v
  | none => .fail .missing .null

/-- The query that a body asks. -/
def CheckBody.ofFields (fields : List (String × Value)) : Checked CheckBody :=
  CheckBody.mk <$> checkField fields "token" checkText
    <*> checkFieldOr none fields "target" (checkOptional checkTier)

/-- The audit that a body asks for. -/
def AnalyzeBody.ofFields (fields : List (String × Value)) : Checked AnalyzeBody :=
  let optionalText (name : String) := checkFieldOr none fields name (checkOptional checkText)
  let optionalTexts (name : String) :=
    checkFieldOr none fields name (checkOptional (checkList checkText))
  AnalyzeBody.mk <$> optionalText "code" <*> optionalText "filename"
    <*> optionalTexts "file_paths" <*> optionalText "folder_path"
    <*> checkFieldOr none fields "target" (checkOptional checkTier)
    <*> optionalTexts "exceptions"
    <*> checkFieldOr false fields "generate_fixes" checkFlag

/-- What a body asks, read by `read`; every fault is in the body. -/
def readBody {α : Type} (room : Room) (read : List (String × Value) → Checked α) (bytes : List UInt8) :
    Except BodyError α :=
  match bodyValue? room bytes with
  | .error .unreadable => .error .unreadable
  | .error (.faulty faults) =>
    .error (.faulty (inside (.field "body") faults))
  | .ok v =>
    match (bodyFields read v).within (.field "body") with
    | .good a => .ok a
    | .faulty faults => .error (.faulty faults)

end FeatureAudit.Service
