import FeatureAudit.Findings

/-!
Statistics of a run: how many uses there are of each kind of file and of each tier, the most
frequent tokens, and the risk score.
-/
namespace FeatureAudit.Report

/-- Each value once, in order of first occurrence, with the number of its occurrences. -/
def tally {α : Type} [BEq α] (xs : List α) : List (α × Nat) :=
  (distinct xs).map fun x => (x, xs.count x)

/-- How many of the most frequent tokens are listed. -/
def topLimit : Nat := 10

/-- The most frequent values first, those of one frequency in order of first occurrence. -/
def mostFrequent {α : Type} [BEq α] (xs : List α) : List (α × Nat) :=
  ((tally xs).mergeSort fun a b => decide (b.2 ≤ a.2)).take topLimit

/-- The kind of file by its suffix, without the dot. -/
def fileType (file : String) : String :=
  let suffix := Text.lower (String.ofList ((Path.ofString file).suffix.toList.drop 1))
  if suffix.isEmpty then "unknown" else suffix

/-- The statistics of a run. -/
structure Statistics where
  fileTypes : List (String × Nat)
  tiers : List (String × Nat)
  topFeatures : List (String × Nat)
  risk : Int
  deriving DecidableEq, Repr

/-- The statistics of some findings. -/
def statistics (f : Findings) : Statistics :=
  let usages := f.allUsages
  { fileTypes := tally (usages.map fun u => fileType u.file)
    tiers := tally (usages.map fun u => Tier.nameOrUnknown u.tier)
    topFeatures := mostFrequent (usages.map Usage.token)
    risk := riskScore f.violations.length f.warnings.length f.totalFeatures }

end FeatureAudit.Report
