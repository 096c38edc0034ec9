import FeatureAudit.CommandLine.Command
import FeatureAudit.Report.Console
import FeatureAudit.Report.Data
import FeatureAudit.Session

/-!
What the commands do.

* `Command.run` runs a command in a workspace.
* `respond` answers a command line: what is printed, and the exit status. A failure that is not
  reported to the user ends the program.
-/
namespace FeatureAudit

open FeatureAudit.Json FeatureAudit.Text

namespace CommandLine

/-- What a program prints, and its exit status. -/
structure Printed where
  status : Nat := 0
  out : String := ""
  err : String := ""
  deriving DecidableEq, Repr

/-- What a run leaves behind: what it prints or why it fails, the notices on the way, and the
workspace. -/
structure Outcome where
  printed : Except Failure Printed
  notices : List Notice := []
  workspace : Workspace

/-- The override that an option stands for. One without a value overrides with an empty list, which
no setting of one text can be. -/
def overrideOf (name : String) : OptionValue → List (String × Value)
  | .absent => []
  | .blank => [(name, .arr [])]
  | .text s => [(name, .str s)]

/-- The settings of an audit from the command line. -/
def ScanOptions.settings (o : ScanOptions) (ws : Workspace) (more : List (String × Value)) :
    Except SettingsError Settings :=
  let request : SettingsRequest :=
    { file := o.settingsFile
      overrides := overrideOf "target" o.target ++ overrideOf "output_file" o.output ++ more }
  (Settings.load ws.room ws.files ws.environment request).map fun s =>
    { s with ignoreFiles := s.ignoreFiles ++ o.ignore }

/-- The findings of an audit of the sources that a path leads to, by some number of workers. Where
that number is missing, the sources are still looked for. -/
def findingsBy (ws : Workspace) (audit : Audit) (path : Path) (jobs? : Option Int) :
    Except Failure Findings × List Notice :=
  let ofAccess (reason : AccessError) : Failure := .inaccessible path.toString reason
  match jobs? with
  | some jobs =>
    let (found, notices) := audit.ofProject ws.files path jobs
    (found.mapError ofAccess, notices)
  | none =>
    match ws.files.sources path audit.settings.ignoreFiles with
    | .error reason => (.error (ofAccess reason), [])
    | .ok _ => (.error .noJobs, [])

/-- The findings of an audit from the command line, and the notices on the way. -/
def ScanOptions.findings (o : ScanOptions) (ws : Workspace) (settings : Settings) :
    Except Failure Findings × List Notice × Workspace :=
  let path := Path.ofString o.path
  match ws.files.has path with
  | .error reason => (.error (.inaccessible path.toString reason), [], ws)
  | .ok false => (.error (.noPath path.toString), [], ws)
  | .ok true =>
    match ws.audit settings none with
    | (.error reason, ws) => (.error (.dataset reason), [], ws)
    | (.ok audit, ws) =>
      let (found, notices) := findingsBy ws audit path o.jobs?
      (found, notices, ws)

/-- The report on findings in the form that the settings ask for. -/
def reportText (timestamp : String) (settings : Settings) (f : Findings) : String :=
  match settings.reportFormat with
  | .json => Report.machineText timestamp f
  | .console => Report.consoleText settings.browsers f

/-- Write a report to the file that the settings name, or print it. -/
def emit (ws : Workspace) (output : Option String) (report : String) :
    Except Failure String × Workspace :=
  let name := output.getD ""
  if name.isEmpty then (.ok (report ++ "\n"), ws)
  else
    let path := Path.ofString name
    match ws.files.write path (encode (report ++ "\n")) with
    | .error reason => (.error (.inaccessible path.toString reason), ws)
    | .ok files => (.ok s!"Report written to {name}\n", { ws with files })

/-- Audit, report, and judge by the findings: the verdict is the lines of complaint. -/
def scan (ws : Workspace) (timestamp : String) (o : ScanOptions)
    (settings : Except SettingsError Settings) (verdict : Findings → List String) : Outcome :=
  match settings with
  | .error reason => { printed := .error (.settings reason), workspace := ws }
  | .ok settings =>
    match o.findings ws settings with
    | (.error failure, notices, ws) => { printed := .error failure, notices, workspace := ws }
    | (.ok findings, notices, ws) =>
      match emit ws settings.outputFile (reportText timestamp settings findings) with
      | (.error failure, ws) => { printed := .error failure, notices, workspace := ws }
      | (.ok out, ws) =>
        let complaints := verdict findings
        { notices, workspace := ws
          printed := .ok
            { out, status := if complaints.isEmpty then 0 else 1
              err := String.join (complaints.map (· ++ "\n")) } }

/-- The complaints about findings. -/
def verdictOf (failOnWarning noFailOnError : Bool) (f : Findings) : List String :=
  (if f.violations.isEmpty || noFailOnError then []
    else [s!"Baseline check failed: {f.violations.length} errors"]) ++
    (if f.warnings.isEmpty || !failOnWarning then []
      else [s!"Baseline check failed: {f.warnings.length} warnings"])

/-- The file of settings that `init` makes. -/
def madeSettingsPath : Path := Path.ofString (settingsFileNames.headD "")

/-- Run a command. -/
def Command.run (ws : Workspace) (timestamp : String) : Command → Outcome
  | .analyze o format generateFixes =>
    let more := overrideOf "report_format" format ++
      if generateFixes then [("generate_fixes", .bool true)] else []
    scan ws timestamp o (o.settings ws more) fun _ => []
  | .ci o failOnWarning noFailOnError =>
    let settings := (o.settings ws []).map fun s => { s with reportFormat := .json }
    scan ws timestamp o settings (verdictOf failOnWarning noFailOnError)
  | .check token settingsFile target =>
    match ws.lookUp token { file := settingsFile, overrides := overrideOf "target" target } with
    | (.error failure, ws) => { printed := .error failure, workspace := ws }
    | (.ok answer, ws) =>
      { printed := .ok { out := answer.toValue.indented ++ "\n" }, workspace := ws }
  | .init force =>
    match writeDefaultSettings ws.files madeSettingsPath force with
    | .error reason => { printed := .error (.settings reason), workspace := ws }
    | .ok files =>
      { printed := .ok { out := s!"Created {madeSettingsPath.toString}\n" }
        workspace := { ws with files } }

/-- Tell the user about a failure that is reported. -/
def report (o : Outcome) : Outcome :=
  match o.printed with
  | .ok _ => o
  | .error failure =>
    if failure.isReported then
      { o with printed := .ok { status := 1, err := s!"Error: {failure.message}\n" } }
    else o

/-- Answer a command line; `helpText` is the text of the help. -/
def respond (ws : Workspace) (timestamp helpText : String) (words : List String) : Outcome :=
  let print (p : Printed) : Outcome := { printed := .ok p, workspace := ws }
  match Invocation.ofWords words with
  | .run command => report (command.run ws timestamp)
  | .help => print { out := helpText }
  | .nothing => print { status := 1, out := helpText }
  | .version => print { out := s!"{programName} {Report.version}\n" }
  | .misuse program message => print { status := 2, err := s!"{program}: error: {message}\n" }

end CommandLine

end FeatureAudit
