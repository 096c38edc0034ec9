import FeatureAudit.Report.Statistics
import FeatureAudit.Json.Writer

/-!
Checks, uses, findings and statistics as JSON values, and the report for machines.
-/
namespace FeatureAudit

open FeatureAudit.Json

/-- Texts by name, as an object. -/
def textFields (fields : List (String × String)) : Value :=
  .obj (fields.map fun f => (f.1, .str f.2))

/-- Numbers by name, as an object. -/
def countFields (fields : List (String × Nat)) : Value :=
  .obj (fields.map fun f => (f.1, .int f.2))

/-- The name of a tier, or null. -/
def tierValue (tier : Option Tier) : Value := Value.ofText? (tier.map Tier.name)

/-- The answer to a query as a JSON object. -/
def Check.toValue (c : Check) : Value :=
  .obj
    [("token", .str c.token), ("featureId", Value.ofText? c.featureId), ("baseline", tierValue c.tier),
     ("browsers", textFields c.browsers), ("meetsCriteria", .bool c.acceptable),
     ("suggestion", Value.ofText? c.suggestion)]

/-- A use as a JSON object. -/
def Usage.toValue (u : Usage) : Value :=
  .obj
    [("feature", .str u.token), ("featureId", .str u.featureId),
     ("location",
        .obj [("file", .str u.file), ("line", .int u.line), ("column", .int u.column)]),
     ("context", .str u.context), ("baseline", tierValue u.tier),
     ("severity", .str u.severity.name), ("browsers", textFields u.browsers),
     ("suggestion", Value.ofText? u.suggestion), ("polyfill", Value.ofText? u.polyfill),
     ("alternative", Value.ofText? u.alternative)]

/-- An opportunity as a JSON object. -/
def Opportunity.toValue (o : Opportunity) : Value :=
  .obj
    [("category", .str o.category), ("oldFeature", .str o.oldFeature),
     ("newFeature", .str o.newFeature), ("baselineStatus", .str o.tier.name),
     ("impact", .str o.impact.name), ("effort", .str o.effort.name),
     ("description", .str o.description), ("example", Value.ofText? o.example?)]

/-- An enhancement as a JSON object. -/
def Enhancement.toValue (e : Enhancement) : Value :=
  .obj
    [("feature", .str e.feature), ("fallback", .str e.fallback),
     ("enhancement", .str e.enhancement), ("example", .str e.sample)]

namespace Findings

/-- The lists of the findings, as fields. -/
def listFields (f : Findings) : List (String × Value) :=
  [("violations", .arr (f.violations.map Usage.toValue)),
   ("warnings", .arr (f.warnings.map Usage.toValue)),
   ("suggestions", .arr (f.suggestions.map Usage.toValue)),
   ("exempted", .arr (f.exempted.map Usage.toValue)),
   ("modernizationOpportunities", .arr (f.opportunities.map Opportunity.toValue)),
   ("progressiveEnhancements", .arr (f.enhancements.map Enhancement.toValue))]

/-- The sizes of the first three lists, as fields. -/
def countsFields (f : Findings) : List (String × Value) :=
  [("errors", .int f.violations.length), ("warnings", .int f.warnings.length),
   ("suggestions", .int f.suggestions.length)]

/-- The totals of the findings, as fields. -/
def totalFields (f : Findings) : List (String × Value) :=
  [("totalFiles", .int f.totalFiles), ("filesScanned", .int f.filesScanned),
   ("totalFeatures", .int f.totalFeatures)]

/-- Findings as fields of a JSON object. -/
def toFields (f : Findings) : List (String × Value) :=
  f.totalFields ++
    [("summary", .obj (f.countsFields ++ [("compatibilityScore", .int f.score)]))] ++ f.listFields

/-- Findings as a JSON object. -/
def toValue (f : Findings) : Value := .obj f.toFields

end Findings

namespace Report

/-- Statistics as a JSON object. -/
def Statistics.toValue (s : Statistics) : Value :=
  .obj
    [("fileTypeDistribution", countFields s.fileTypes), ("baselineDistribution", countFields s.tiers),
     ("topFeatures",
        .arr (s.topFeatures.map fun t => .obj [("feature", .str t.1), ("count", .int t.2)])),
     ("riskScore", .int s.risk)]

/-- The version of this program, as reports state it. -/
def version : String := "0.1.0"

/-- The name of this program, as reports state it. -/
def toolName : String := "baseline-checker"

/-- The report for machines as a JSON object; `timestamp` is the time at which it was made. -/
def machineValue (timestamp : String) (f : Findings) : Value :=
  .obj
    ([("meta",
        .obj [("version", .str version), ("timestamp", .str timestamp), ("tool", .str toolName)]),
      ("summary",
        .obj
          (f.totalFields ++
            [("compatibilityScore", .int f.score), ("counts", .obj f.countsFields)]))] ++
      f.listFields ++ [("statistics", (statistics f).toValue)])

/-- The text of the report for machines. -/
def machineText (timestamp : String) (f : Findings) : String :=
  (machineValue timestamp f).indented

end Report

end FeatureAudit
