import FeatureAudit.CommandLine.Command

/-!
The text that explains the command line.
-/
namespace FeatureAudit.CommandLine

/-- The options that every audit takes, explained. -/
def scanHelp : List String :=
  ["  -c, --config FILE       read the settings from this file",
   s!"  -t, --target TIER       the narrowest tier that is acceptable: {tierChoices}",
   "  -o, --output FILE       write the report to this file",
   "  --ignore [GLOB ...]     leave out sources that match, from the project's path on",
   "  -j, --jobs N            how many sources are read at a time"]
where
  /-- The tiers to choose from. -/
  tierChoices : String := ", ".intercalate (Tier.all.map Tier.name)

/-- What is told of the commands and their options. -/
def helpLines : List String :=
  [s!"usage: {programName} [-h] [--version] [-v] COMMAND ...",
   "",
   "Audits stylesheets and scripts for features that browsers do not yet share.",
   "",
   "  -h, --help              show this text",
   "  --version               show the version",
   "  -v, --verbose           show more of what is done",
   "",
   "analyze [PATH]            audit a project or a file, and report",
   "  -f, --format FORMAT     the form of the report: console or json",
   "  --generate-fixes        suggest progressive enhancements",
   "",
   "ci [PATH]                 audit, report for machines, and judge by the exit status",
   "  --fail-on-warning       warnings fail the run",
   "  --no-fail-on-error      errors do not fail the run",
   "",
   "analyze and ci take as well:"] ++ scanHelp ++
  ["",
   "check TOKEN               look one token up",
   "  -c, --config FILE       read the settings from this file",
   "  -t, --target TIER       the narrowest tier that is acceptable",
   "",
   "init                      make a file of settings that holds every default",
   "  -f, --force             also if there is one"]

/-- The text that explains the command line. -/
def helpText : String := String.join (helpLines.map (· ++ "\n"))

end FeatureAudit.CommandLine
