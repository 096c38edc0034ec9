import FeatureAudit.Findings

/-!
The report for people. Uses are ordered by file, line and column, those of one place as they were
found.
-/
namespace FeatureAudit.Report

/-- The order of uses in a report. -/
def usageLe (a b : Usage) : Bool :=
  if a.file == b.file then
    if a.line == b.line then decide (a.column ≤ b.column) else decide (a.line ≤ b.line)
  else textLe a.file b.file

/-- Uses in the order of a report. -/
def inReportOrder (usages : List Usage) : List Usage := usages.mergeSort usageLe

/-- A line across the page. -/
def rule (c : Char) : String := String.ofList (List.replicate 80 c)

/-- A labelled line, if there is something to show. -/
def labelled (label : String) : Option String → List String
  | some text => if text.isEmpty then [] else ["    " ++ label ++ ": " ++ text]
  | none => []

/-- The versions of the browsers that are shown: those asked for, or all of them by name. -/
def shownVersions (browsers : List String) (u : Usage) : List String :=
  let shown :=
    if browsers.isEmpty then (u.browsers.map Prod.fst).mergeSort textLe else browsers
  shown.filterMap fun b =>
    (u.browsers.find? fun v => v.1 == b).map fun v => b ++ " " ++ v.2

/-- The entry of a use. -/
def usageLines (browsers : List String) (u : Usage) : List String :=
  let versions := shownVersions browsers u
  [s!"  {u.file}:{u.line}:{u.column}  {u.token} ({u.featureId}, {Tier.nameOrUnknown u.tier})",
   "    Code: " ++ u.context] ++
    labelled "Fix" u.suggestion ++ labelled "Polyfill" u.polyfill ++
    labelled "Alternative" u.alternative ++
    (if versions.isEmpty then [] else ["    Browsers: " ++ ", ".intercalate versions]) ++ [""]

/-- A titled list of entries, or nothing if there are none. -/
def sectionLines {α : Type} (title : String) (items : List α) (entry : α → List String) :
    List String :=
  if items.isEmpty then []
  else s!"{title} ({items.length}):" :: rule '-' :: items.flatMap entry

/-- The section of a list of uses. -/
def usageSection (title : String) (browsers : List String) (usages : List Usage) : List String :=
  sectionLines title (inReportOrder usages) (usageLines browsers)

/-- The entry of an opportunity. -/
def opportunityLines (o : Opportunity) : List String :=
  [s!"  [{o.category}] {o.oldFeature} -> {o.newFeature}", "    " ++ o.description,
   s!"    Impact: {o.impact.name}, effort: {o.effort.name}"] ++
    labelled "Example" o.example? ++ [""]

/-- The entry of an enhancement. -/
def enhancementLines (e : Enhancement) : List String :=
  s!"  {e.feature}: {e.fallback} -> {e.enhancement}" ::
    ((e.sample.toList.splitOn '\n').map fun line => "    " ++ String.ofList line) ++ [""]

/-- The lines above the sections. -/
def headLines (f : Findings) : List String :=
  ["\n" ++ rule '=', "Baseline Compatibility Report", rule '=' ++ "\n",
   s!"Files scanned: {f.filesScanned} ({f.totalFiles} with web features)",
   s!"Features detected: {f.totalFeatures}",
   s!"Compatibility score: {f.score}/100\n"] ++
    (if f.totalFeatures = 0 then ["✓ No web features detected\n"] else [])

/-- The lines below the sections. -/
def tailLines (f : Findings) : List String :=
  [s!"\nSummary: {f.violations.length} errors, {f.warnings.length} warnings, "
      ++ s!"{f.suggestions.length} info",
   rule '=']

/-- The text of the report for people, showing the versions of the given browsers, or of all
browsers if none is given. -/
def consoleText (browsers : List String) (f : Findings) : String :=
  "\n".intercalate
    (headLines f ++
      usageSection "ERRORS" browsers f.violations ++
      usageSection "WARNINGS" browsers f.warnings ++
      usageSection "INFO" browsers f.suggestions ++
      usageSection "EXEMPTED" browsers f.exempted ++
      sectionLines "MODERNIZATION OPPORTUNITIES" f.opportunities opportunityLines ++
      sectionLines "PROGRESSIVE ENHANCEMENTS" f.enhancements enhancementLines ++
      tailLines f)

end FeatureAudit.Report
