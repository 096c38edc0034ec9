import FeatureAudit.CommandLine.Grammar
import FeatureAudit.Settings.Basic

/-!
The commands of the program and their grammars.

* `Invocation.ofWords` is what a command line asks for.
-/
namespace FeatureAudit.CommandLine

/-- What an audit from the command line is given: the path of the project, what is to override the
settings, and the number of workers, which can be missing. -/
structure ScanOptions where
  path : String := "."
  settingsFile : String := ""
  target : OptionValue := .absent
  output : OptionValue := .absent
  ignore : List String := []
  jobs? : Option Int := some 1
  deriving DecidableEq, Repr

/-- A command: audit and report, audit and judge, look one token up, or make a file of settings. -/
inductive Command where
  | analyze (scan : ScanOptions) (format : OptionValue) (generateFixes : Bool)
  | ci (scan : ScanOptions) (failOnWarning noFailOnError : Bool)
  | check (token settingsFile : String) (target : OptionValue)
  | init (force : Bool)
  deriving DecidableEq, Repr

/-- What a command line asks for. -/
inductive Invocation where
  | run (command : Command)
  | help
  | version
  | nothing
  | misuse (program message : String)
  deriving DecidableEq, Repr

/-- The name of the program. -/
def programName : String := "baseline-checker"

/-- The names of the commands. -/
def commandNames : List String := ["analyze", "ci", "check", "init"]

/-- The option that asks for help. -/
def helpOption : OptionSpec := { names := ["-h", "--help"], effect := .help }

/-- The option that names the narrowest acceptable tier. -/
def targetOption : OptionSpec :=
  { names := ["-t", "--target"], arity := .one, kind := .choice (Tier.all.map Tier.name) }

/-- The option that names a file of settings. -/
def settingsOption : OptionSpec := { names := ["-c", "--config"], arity := .one }

/-- The options of commands that audit. -/
def scanOptions : List OptionSpec :=
  [helpOption, settingsOption, targetOption, { names := ["-o", "--output"], arity := .one },
   { names := ["--ignore"], arity := .many },
   { names := ["-j", "--jobs"], arity := .one, kind := .integer }]

/-- The grammar of the program. -/
def mainGrammar : Grammar :=
  { program := programName, operand := .command commandNames
    options :=
      [helpOption, { names := ["--version"], effect := .version },
       { names := ["-v", "--verbose"] }] }

/-- The name of a command in messages. -/
def commandProgram (name : String) : String := programName ++ " " ++ name

/-- The grammar of `analyze`. -/
def analyzeGrammar : Grammar :=
  { program := commandProgram "analyze", operand := .optional
    options := scanOptions ++
      [{ names := ["-f", "--format"], arity := .one
         kind := .choice (ReportFormat.all.map ReportFormat.name) },
       { names := ["--generate-fixes"] }] }

/-- The grammar of `ci`. -/
def ciGrammar : Grammar :=
  { program := commandProgram "ci", operand := .optional
    options := scanOptions ++
      [{ names := ["--fail-on-warning"] }, { names := ["--no-fail-on-error"] }] }

/-- The grammar of `check`. -/
def checkGrammar : Grammar :=
  { program := commandProgram "check", operand := .required "token"
    options := [helpOption, targetOption, settingsOption] }

/-- The grammar of `init`. -/
def initGrammar : Grammar :=
  { program := commandProgram "init", operand := .none
    options := [helpOption, { names := ["-f", "--force"] }] }

/-- The grammar of a command. -/
def grammarOf : String → Grammar
  | "analyze" => analyzeGrammar
  | "ci" => ciGrammar
  | "check" => checkGrammar
  | _ => initGrammar

/-- The path of the file of settings that is asked for; none is as good as an empty one. -/
def settingsFileOf (p : Parsed) : String := (p.value "--config").text?.getD ""

/-- The number of workers that is asked for, which is one unless the option is given. -/
def jobsOf? (p : Parsed) : Option Int :=
  match p.value "--jobs" with
  | .absent => some 1
  | .blank => none
  | .text value => Text.integer? value

/-- What an audit is given. -/
def scanOf (p : Parsed) : ScanOptions :=
  { path := p.operand.getD ".", settingsFile := settingsFileOf p
    target := p.value "--target", output := p.value "--output"
    ignore := (p.values? "--ignore").getD [], jobs? := jobsOf? p }

/-- The command of a name, from what was read for it. -/
def commandOf (name : String) (p : Parsed) : Command :=
  match name with
  | "analyze" => .analyze (scanOf p) (p.value "--format") (p.hasFlag "--generate-fixes")
  | "ci" => .ci (scanOf p) (p.hasFlag "--fail-on-warning") (p.hasFlag "--no-fail-on-error")
  | "check" => .check (p.operand.getD "") (settingsFileOf p) (p.value "--target")
  | _ => .init (p.hasFlag "--force")

/-- What it means that reading stopped. -/
def Invocation.ofStop : Stop → Invocation
  | .help => .help
  | .version => .version
  | .misuse program message => .misuse program message

/-- Refuse words that nothing takes. -/
def Invocation.unless (leftOver : List String) (asked : Invocation) : Invocation :=
  if leftOver.isEmpty then asked
  else .misuse programName ("unrecognized arguments: " ++ " ".intercalate leftOver)

/-- What a command line asks for. Words that nothing takes are refused last, those before the
command first. -/
def Invocation.ofWords (words : List String) : Invocation :=
  match mainGrammar.parse words with
  | .error stop => .ofStop stop
  | .ok main =>
    match main.operand with
    | none => .unless main.leftOver .nothing
    | some name =>
      match (grammarOf name).parse main.arguments with
      | .error stop => .ofStop stop
      | .ok p => .unless (main.leftOver ++ p.leftOver) (.run (commandOf name p))

end FeatureAudit.CommandLine
