import FeatureAudit.Score
import FeatureAudit.Opportunity
import FeatureAudit.Enhancement

/-!
The findings of a run: every use of a feature in exactly one of four lists, with totals, a score and
suggestions drawn from all uses together.
-/
namespace FeatureAudit

/-- What a run has found. -/
structure Findings where
  filesScanned : Int
  totalFiles : Nat
  totalFeatures : Nat
  score : Int
  violations : List Usage
  warnings : List Usage
  suggestions : List Usage
  exempted : List Usage
  opportunities : List Opportunity
  enhancements : List Enhancement
  deriving DecidableEq, Repr

/-- How findings are drawn from uses: the tokens and identifiers that never fail, whether
enhancements are wanted, and the number of files if it is not the number of those given. -/
structure FindingsOptions where
  exceptions : List String := []
  wantsEnhancements : Bool := false
  filesScanned? : Option Int := none

/-- The four lists. -/
inductive Category where
  | violation
  | warning
  | suggestion
  | exempted
  deriving DecidableEq, Repr

/-- Whether a use is excepted by its token or its feature. -/
def Usage.isExempt (exceptions : List String) (u : Usage) : Bool :=
  exceptions.contains u.token || exceptions.contains u.featureId

/-- The list in which a use belongs. -/
def Usage.category (exceptions : List String) (u : Usage) : Category :=
  match u.severity with
  | .info => .suggestion
  | .error => if u.isExempt exceptions then .exempted else .violation
  | .warning => if u.isExempt exceptions then .exempted else .warning

/-- The uses of one list, in their order. -/
def inCategory (exceptions : List String) (category : Category) (usages : List Usage) :
    List Usage :=
  usages.filter fun u => u.category exceptions = category

namespace Findings

/-- The findings from the uses in each file. -/
def ofFiles (files : List (String × List Usage)) (options : FindingsOptions) : Findings :=
  let usages := files.flatMap Prod.snd
  let pick (c : Category) := inCategory options.exceptions c usages
  { filesScanned := options.filesScanned?.getD files.length
    totalFiles := (files.filter fun f => !f.2.isEmpty).length
    totalFeatures := usages.length
    score := compatibilityScore (usages.map Usage.tier)
    violations := pick .violation
    warnings := pick .warning
    suggestions := pick .suggestion
    exempted := pick .exempted
    opportunities := FeatureAudit.opportunities usages
    enhancements := if options.wantsEnhancements then FeatureAudit.enhancements usages else [] }

/-- Every use, list by list. -/
def allUsages (f : Findings) : List Usage :=
  f.violations ++ f.warnings ++ f.suggestions ++ f.exempted

/-- The uses that fall short of the target and are not excepted. -/
def failing (f : Findings) : List Usage := f.violations ++ f.warnings

end Findings

end FeatureAudit
