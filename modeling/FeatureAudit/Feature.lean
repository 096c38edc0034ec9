import FeatureAudit.Tier
import FeatureAudit.Distinct

/-!
Web features and the answer to a query about one of them.
-/
namespace FeatureAudit

/-- A web feature: its identifier, display name and tier, the first version of each browser that
supports it, its keys in the compatibility data, and other names for it. -/
structure Feature where
  id : String
  name : String
  tier : Tier
  browsers : List (String × String)
  compatKeys : List String
  aliases : List String
  deriving DecidableEq, Repr, Inhabited

/-- Code-point order. -/
def textLe (a b : String) : Bool := decide (a ≤ b)

/-- The other names, each once, in code-point order. -/
def Feature.sortedAliases (f : Feature) : List String := (distinct f.aliases).mergeSort textLe

/-- What a query about a token answers. -/
structure Check where
  token : String
  featureId : Option String
  tier : Option Tier
  browsers : List (String × String)
  acceptable : Bool
  suggestion : Option String
  deriving DecidableEq, Repr, Inhabited

/-- Whether the token was resolved. -/
def Check.found (c : Check) : Bool := c.featureId.isSome

/-- The advice on a token that no feature answers to. -/
def notFoundSuggestion (token : String) : String :=
  "Feature \"" ++ token ++ "\" not found in web-features database"

/-- The advice on a feature of limited support. -/
def limitedSuggestion : String :=
  "Consider using a polyfill or waiting for broader browser support. " ++
    "Check caniuse.com for alternatives."

/-- The advice on a feature that has become available lately. -/
def newlyAvailableSuggestion : String :=
  "Feature is newly available in Baseline. " ++
    "Consider progressive enhancement or polyfills for older browsers."

/-- The advice on a feature of some tier. A limited feature gets its advice even where limited
support is acceptable. -/
def suggestionFor (tier target : Tier) : Option String :=
  match tier, target with
  | .limited, _ => some limitedSuggestion
  | .newlyAvailable, .widelyAvailable => some newlyAvailableSuggestion
  | _, _ => none

/-- The answer for a token that resolves to a feature. -/
def Feature.check (f : Feature) (token : String) (target : Tier) : Check :=
  { token, featureId := some f.id, tier := some f.tier, browsers := f.browsers
    acceptable := f.tier.meets target, suggestion := suggestionFor f.tier target }

/-- The answer for a token that resolves to none. -/
def Check.notFound (token : String) : Check :=
  { token, featureId := none, tier := none, browsers := [], acceptable := false
    suggestion := some (notFoundSuggestion token) }

end FeatureAudit
