import FeatureAudit.Usage
import FeatureAudit.Path
import FeatureAudit.Text.Run

/-!
Opportunities to modernise: rules over all uses of a run, each of which applies at most once.
-/
namespace FeatureAudit

/-- How much something matters or costs. -/
inductive Impact where
  | high
  | medium
  | low
  deriving DecidableEq, Repr

/-- The written name of an impact. -/
def Impact.name : Impact → String
  | .high => "high"
  | .medium => "medium"
  | .low => "low"

/-- A suggestion to replace an older technique. -/
structure Opportunity where
  category : String
  oldFeature : String
  newFeature : String
  tier : Tier
  impact : Impact
  effort : Impact
  description : String
  example? : Option String
  deriving DecidableEq, Repr

/-- Layouts made of floats. -/
def floatOpportunity : Opportunity :=
  { category := "css", oldFeature := "Float-based layouts", newFeature := "CSS Grid/Flexbox"
    tier := .widelyAvailable, impact := .high, effort := .medium
    description :=
      "Replace float-based layouts with modern CSS Grid or Flexbox for better responsive design"
    example? :=
      some "display: grid; grid-template-columns: repeat(auto-fit, minmax(300px, 1fr));" }

/-- Requests made by hand. -/
def requestOpportunity : Opportunity :=
  { category := "javascript", oldFeature := "XMLHttpRequest", newFeature := "Fetch API"
    tier := .widelyAvailable, impact := .medium, effort := .low
    description := "Replace XMLHttpRequest with modern Fetch API for cleaner async code"
    example? := some "fetch(\"/api/data\").then(response => response.json())" }

/-- Layout features that have become available lately. -/
def layoutOpportunity : Opportunity :=
  { category := "css", oldFeature := "Legacy layout techniques", newFeature := "Modern CSS features"
    tier := .newlyAvailable, impact := .high, effort := .medium
    description :=
      "Adopt newly available CSS features for better layouts and maintainability"
    example? := none }

/-- The names of layout features that count as modern. -/
def modernLayouts : List String :=
  ["container-queries", "cascade-layers", "css-grid", "grid", "flexbox"]

/-- A use in a stylesheet whose token speaks of floats. -/
def Usage.isFloat (u : Usage) : Bool :=
  fileKind? u.file == some .stylesheet && Text.occursIn "float".toList u.token.toList

/-- A request made by hand in a script. -/
def Usage.isRequest (u : Usage) : Bool := fileKind? u.file == some .script && u.token == "xhr"

/-- A newly available layout feature. -/
def Usage.isModernLayout (u : Usage) : Bool :=
  u.tier == some .newlyAvailable &&
    (modernLayouts.contains u.token || modernLayouts.contains u.featureId)

/-- The rules, in order. -/
def opportunityRules : List ((Usage → Bool) × Opportunity) :=
  [(Usage.isFloat, floatOpportunity), (Usage.isRequest, requestOpportunity),
   (Usage.isModernLayout, layoutOpportunity)]

/-- The opportunities that some uses give, in the order of the rules. -/
def opportunities (usages : List Usage) : List Opportunity :=
  (opportunityRules.filter fun rule => usages.any rule.1).map Prod.snd

end FeatureAudit
