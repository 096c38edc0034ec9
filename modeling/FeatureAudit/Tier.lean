/-!
Compatibility tiers and the severity of using a feature of some tier.

* `Tier.meets` compares a tier with the target.
* `Severity.of` turns the comparison into a severity.
-/
namespace FeatureAudit

/-- Compatibility tiers, from the broadest support to the narrowest. -/
inductive Tier where
  | widelyAvailable
  | newlyAvailable
  | limited
  deriving DecidableEq, Repr, Inhabited

/-- The tiers, broadest support first. -/
def Tier.all : List Tier := [.widelyAvailable, .newlyAvailable, .limited]

/-- The written name of a tier. -/
def Tier.name : Tier → String
  | .widelyAvailable => "widely-available"
  | .newlyAvailable => "newly-available"
  | .limited => "limited"

/-- The tier with a written name. -/
def Tier.ofName? (s : String) : Option Tier := Tier.all.find? fun t => t.name == s

/-- The name of a tier in a report, where the tier may be unknown. -/
def Tier.nameOrUnknown : Option Tier → String
  | some t => t.name
  | none => "unknown"

/-- The position of a tier: zero for the broadest support. -/
def Tier.rank : Tier → Nat
  | .widelyAvailable => 0
  | .newlyAvailable => 1
  | .limited => 2

/-- Whether a feature of this tier is acceptable where `target` is the narrowest acceptable tier. -/
def Tier.meets (tier target : Tier) : Bool := tier.rank ≤ target.rank

/-- Whether a feature is acceptable; one of unknown tier never is. -/
def Tier.meets? (tier : Option Tier) (target : Tier) : Bool :=
  match tier with
  | some t => t.meets target
  | none => false

/-- How bad the use of a feature is. -/
inductive Severity where
  | error
  | warning
  | info
  deriving DecidableEq, Repr, Inhabited

/-- The severities, worst first. -/
def Severity.all : List Severity := [.error, .warning, .info]

/-- The written name of a severity. -/
def Severity.name : Severity → String
  | .error => "error"
  | .warning => "warning"
  | .info => "info"

/-- The severity with a written name. -/
def Severity.ofName? (s : String) : Option Severity := Severity.all.find? fun t => t.name == s

/-- An acceptable use is no more than information; of the others a limited feature is an error. -/
def Severity.of (tier : Option Tier) (acceptable : Bool) : Severity :=
  if acceptable then .info
  else if tier = some .limited then .error
  else .warning

theorem Tier.ofName?_name (t : Tier) : Tier.ofName? t.name = some t := by
  cases t <;> decide

theorem Severity.ofName?_name (s : Severity) : Severity.ofName? s.name = some s := by
  cases s <;> decide

/-- Every tier is acceptable where limited support is. -/
theorem Tier.meets_limited (t : Tier) : t.meets .limited = true := by
  cases t <;> decide

/-- A tier acceptable for a target is acceptable for every broader one. -/
theorem Tier.meets_of_rank_le {t target target' : Tier} (h : target.rank ≤ target'.rank)
    (ht : t.meets target = true) : t.meets target' = true := by
  simp only [Tier.meets, decide_eq_true_eq] at ht ⊢
  omega

end FeatureAudit
