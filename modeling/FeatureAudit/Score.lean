import FeatureAudit.Usage

/-!
Scores from 0 to 100: how compatible some uses are on average, and how large the share of failing
uses is. Both are rounded to the nearest integer, a half upwards.
-/
namespace FeatureAudit

/-- A quotient rounded to the nearest integer, a half upwards. -/
def roundHalfUp (numerator denominator : Int) : Int :=
  Int.fdiv (2 * numerator + denominator) (2 * denominator)

/-- The points of a use by the tier of its feature; one of unknown tier counts half. -/
def tierPoints : Option Tier → Int
  | some .widelyAvailable => 100
  | some .newlyAvailable => 75
  | some .limited => 25
  | none => 50

/-- The sum of the points of some tiers. -/
def totalPoints : List (Option Tier) → Int
  | [] => 0
  | tier :: rest => tierPoints tier + totalPoints rest

/-- The mean of the points of some tiers; nothing used is fully compatible. -/
def compatibilityScore (tiers : List (Option Tier)) : Int :=
  if tiers.isEmpty then 100 else roundHalfUp (totalPoints tiers) tiers.length

/-- The weight of an error. -/
def errorWeight : Int := 3

/-- The weight of a warning. -/
def warningWeight : Int := 1

/-- The weighted share of errors and warnings among all uses, where all errors would be 100. -/
def riskScore (errors warnings total : Int) : Int :=
  if total = 0 then 0
  else roundHalfUp (100 * (errors * errorWeight + warnings * warningWeight)) (total * errorWeight)

end FeatureAudit
