import FeatureAudit.Checked
import FeatureAudit.Discovery

/-!
The settings of a run, their defaults, and their form as JSON.

* `Settings.ofFields` reads settings from the fields of an object; some have a second name.
* `Settings.toFields` writes them, under the second names.
-/
namespace FeatureAudit

open FeatureAudit.Json

/-- The forms of a report. -/
inductive ReportFormat where
  | console
  | json
  deriving DecidableEq, Repr

/-- The forms of a report, the usual one first. -/
def ReportFormat.all : List ReportFormat := [.console, .json]

/-- The written name of a form. -/
def ReportFormat.name : ReportFormat → String
  | .console => "console"
  | .json => "json"

/-- The form with a written name. -/
def ReportFormat.ofName? (s : String) : Option ReportFormat :=
  ReportFormat.all.find? fun f => f.name == s

/-- The browsers whose versions a report shows unless others are asked for. -/
def defaultBrowsers : List String := ["chrome", "firefox", "safari", "edge"]

/-- The settings of a run: the narrowest acceptable tier, the browsers that a report shows, the
tokens and identifiers that never fail, the globs that are ignored, whether enhancements are
wanted, the form of the report, and the paths of its file and of the dataset. -/
structure Settings where
  target : Tier := .widelyAvailable
  browsers : List String := defaultBrowsers
  exceptions : List String := []
  ignoreFiles : List String := defaultIgnore
  generateFixes : Bool := false
  reportFormat : ReportFormat := .console
  outputFile : Option String := none
  dataset : Option String := none
  deriving DecidableEq, Repr

namespace Settings

/-- The fields with a second name, with both names. -/
def secondNames : List (String × String) :=
  [("ignore_files", "ignoreFiles"), ("generate_fixes", "generateFixes"),
   ("report_format", "reportFormat"), ("output_file", "outputFile")]

/-- The first name of a field, by either of its names. -/
def firstName (name : String) : String :=
  ((secondNames.find? fun n => n.2 == name).map Prod.fst).getD name

/-- Fields under their first names. Of several values for one field the last wins. -/
def underFirstNames (fields : List (String × Value)) : List (String × Value) :=
  fields.foldl (fun kept f => setField kept (firstName f.1) f.2) []

/-- A form of report, by its name. -/
def checkFormat (v : Value) : Checked ReportFormat :=
  match v.str?.bind ReportFormat.ofName? with
  | some f => .good f
  | none => .fail .noFormat v

/-- The value of a field by its first name, where a value under its second name goes first. -/
def withSecondNames (fields : List (String × Value)) : List (String × Value) :=
  secondNames.foldl
    (fun kept n =>
      match Value.lookup? fields n.2 with
      | some v => setField kept n.1 v
      | none => kept)
    fields

/-- Settings from fields under their first or second names; other fields mean nothing. Faults are
in the order of the fields of `Settings`. -/
def ofFields (given : List (String × Value)) : Checked Settings :=
  let fields := withSecondNames given
  let usual : Settings := {}
  Settings.mk <$> checkFieldOr usual.target fields "target" checkTier
    <*> checkFieldOr usual.browsers fields "browsers" (checkList checkText)
    <*> checkFieldOr usual.exceptions fields "exceptions" (checkList checkText)
    <*> checkFieldOr usual.ignoreFiles fields "ignore_files" (checkList checkText)
    <*> checkFieldOr usual.generateFixes fields "generate_fixes" checkFlag
    <*> checkFieldOr usual.reportFormat fields "report_format" checkFormat
    <*> checkFieldOr usual.outputFile fields "output_file" (checkOptional checkText)
    <*> checkFieldOr usual.dataset fields "dataset" (checkOptional checkText)

/-- A field with a text, if there is one. -/
def textField? (name : String) : Option String → List (String × Value)
  | some s => [(name, .str s)]
  | none => []

/-- Settings as fields of a JSON object. Paths that are not set are left out. -/
def toFields (s : Settings) : List (String × Value) :=
  [("target", .str s.target.name), ("browsers", .ofStrings s.browsers),
   ("exceptions", .ofStrings s.exceptions), ("ignoreFiles", .ofStrings s.ignoreFiles),
   ("generateFixes", .bool s.generateFixes), ("reportFormat", .str s.reportFormat.name)] ++
    textField? "outputFile" s.outputFile ++ textField? "dataset" s.dataset

/-- Settings as a JSON object. -/
def toValue (s : Settings) : Value := .obj s.toFields

end Settings

end FeatureAudit
