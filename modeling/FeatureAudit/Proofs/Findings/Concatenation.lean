import FeatureAudit.Proofs.Findings.Partition
import FeatureAudit.Proofs.FirstWins

/-!
# Findings of two groups of files together

Findings are drawn from the uses of all files in their order. Where the files are two groups, one after the other, each
list is that of the first group followed by that of the second, totals are sums, a rule applies where it applies to one
of the groups, and what is enhanced for the first group is not enhanced again for the second.

* **`mem_opportunities_iff`**, **`opportunities_append`** — the rules for two groups of uses.
* **`enhancements_append`** — the enhancements that two groups of uses ask for.
* **`Findings.IsJoin`** — what it is for findings to be those of two groups together.
* **`Findings.ofFiles_append_isJoin`** — the findings of files, however they are split into two groups.
-/
namespace FeatureAudit

variable {us vs : List Usage}

/-! ## Rules -/

/-- What the rules suggest, in their order. -/
def ruledOpportunities : List Opportunity := [floatOpportunity, requestOpportunity, layoutOpportunity]

/-- The rules of opportunities give the ones that are ruled on, in the order of the rules. -/
theorem map_snd_opportunityRules : opportunityRules.map Prod.snd = ruledOpportunities := rfl

/-- No two rules give the same opportunity, so that one can tell from an opportunity which rule fired. -/
theorem nodup_map_snd_opportunityRules : (opportunityRules.map Prod.snd).Nodup := by decide

/-- No two rules suggest the same, so what is suggested tells which rules apply. -/
theorem mem_opportunities_iff {rule : (Usage → Bool) × Opportunity} (hrule : rule ∈ opportunityRules) :
    rule.2 ∈ opportunities us ↔ us.any rule.1 = true := by
  rw [opportunities, List.mem_map]
  constructor
  · -- no two rules offer the same, so the rule that fired is this one
    rintro ⟨other, hother, hsame⟩
    obtain ⟨hmem, happlies⟩ := List.mem_filter.1 hother
    obtain rfl : other = rule :=
      List.inj_on_of_nodup_map nodup_map_snd_opportunityRules hmem hrule hsame
    exact happlies
  · intro happlies
    exact ⟨rule, List.mem_filter.2 ⟨hrule, happlies⟩, rfl⟩

/-- A rule applies to two groups of uses where it applies to one of them. -/
theorem opportunities_append (us vs : List Usage) :
    opportunities (us ++ vs) =
      ruledOpportunities.filter fun o => o ∈ opportunities us ∨ o ∈ opportunities vs := by
  rw [← map_snd_opportunityRules, List.filter_map]
  show (opportunityRules.filter fun rule => (us ++ vs).any rule.1).map Prod.snd = _
  congr 1
  apply List.filter_congr
  intro rule hrule
  show (us ++ vs).any rule.1 = decide (rule.2 ∈ opportunities us ∨ rule.2 ∈ opportunities vs)
  rw [Bool.eq_iff_iff, decide_eq_true_iff, mem_opportunities_iff hrule, mem_opportunities_iff hrule,
    List.any_append, Bool.or_eq_true]

/-! ## Enhancements -/

/-- What the second group of uses asks for is left out where the first has asked for it. -/
theorem enhancements_append (us vs : List Usage) :
    enhancements (us ++ vs) =
      enhancements us ++
        (enhancements vs).filter fun e => e.feature ∉ (enhancements us).map Enhancement.feature := by
  rw [enhancements, List.filterMap_append, keepFirst_append]
  show enhancements us ++ _ = _
  congr 1
  -- the features that are asked for are those of the enhancements that are kept
  apply List.filter_congr
  intro e _
  have hkept : e.feature ∈ (enhancements us).map Enhancement.feature ↔
      e.feature ∈ (us.filterMap Usage.enhancement?).map Enhancement.feature := mem_map_keepFirst_iff
  rw [Bool.eq_iff_iff, decide_eq_true_iff, hkept, Bool.not_eq_true', ← List.contains_iff_mem,
    Bool.not_eq_true]

/-! ## Findings -/

namespace Findings

/-- The findings are those of two groups of files together. -/
structure IsJoin (f left right : Findings) : Prop where
  violations : f.violations = left.violations ++ right.violations
  warnings : f.warnings = left.warnings ++ right.warnings
  suggestions : f.suggestions = left.suggestions ++ right.suggestions
  exempted : f.exempted = left.exempted ++ right.exempted
  filesScanned : f.filesScanned = left.filesScanned + right.filesScanned
  totalFiles : f.totalFiles = left.totalFiles + right.totalFiles
  totalFeatures : f.totalFeatures = left.totalFeatures + right.totalFeatures
  opportunities : f.opportunities =
    ruledOpportunities.filter fun o => o ∈ left.opportunities ∨ o ∈ right.opportunities
  enhancements : f.enhancements =
    left.enhancements ++
      right.enhancements.filter fun e => e.feature ∉ left.enhancements.map Enhancement.feature

variable {xs ys : List (String × List Usage)} {options : FindingsOptions}

/-- Each list of findings for two runs of files is that of the first run with that of the second behind it. -/
theorem inList_ofFiles_append (category : Category) :
    (ofFiles (xs ++ ys) options).inList category =
      (ofFiles xs options).inList category ++ (ofFiles ys options).inList category := by
  rw [inList_ofFiles, inList_ofFiles, inList_ofFiles, List.flatMap_append, inCategory, List.filter_append]
  rfl

/-- The enhancements for two runs of files are those of the first run, and behind them those of the second that the
first has not offered yet. -/
theorem enhancements_ofFiles_append :
    (ofFiles (xs ++ ys) options).enhancements =
      (ofFiles xs options).enhancements ++
        (ofFiles ys options).enhancements.filter fun e =>
          e.feature ∉ (ofFiles xs options).enhancements.map Enhancement.feature := by
  cases hwants : options.wantsEnhancements with
  | false => simp only [ofFiles, hwants]; rfl
  | true =>
    simp only [ofFiles, hwants, if_true, List.flatMap_append]
    exact enhancements_append _ _

/-- **Findings distribute over concatenation.** However files are split into two groups, their findings are those of the
groups together, as long as the number of files is not given from elsewhere. -/
theorem ofFiles_append_isJoin (xs ys : List (String × List Usage)) (exceptions : List String)
    (wantsEnhancements : Bool) :
    (ofFiles (xs ++ ys) { exceptions, wantsEnhancements }).IsJoin
      (ofFiles xs { exceptions, wantsEnhancements }) (ofFiles ys { exceptions, wantsEnhancements }) where
  violations := inList_ofFiles_append .violation
  warnings := inList_ofFiles_append .warning
  suggestions := inList_ofFiles_append .suggestion
  exempted := inList_ofFiles_append .exempted
  filesScanned := by
    show ((xs ++ ys).length : Int) = xs.length + ys.length
    rw [List.length_append]
    omega
  totalFiles := by
    show ((xs ++ ys).filter _).length = (xs.filter _).length + (ys.filter _).length
    rw [List.filter_append, List.length_append]
  totalFeatures := by
    show ((xs ++ ys).flatMap Prod.snd).length = _
    rw [List.flatMap_append, List.length_append]
    rfl
  opportunities := by
    show FeatureAudit.opportunities ((xs ++ ys).flatMap Prod.snd) = _
    rw [List.flatMap_append]
    exact opportunities_append _ _
  enhancements := enhancements_ofFiles_append

/-- What both groups ask for is enhanced once, where the first asks for it. -/
example :
    (ofFiles ([("a.js", [limitedUse "grid"])] ++ [("b.js", [limitedUse "aspect-ratio", limitedUse "grid"])])
      { wantsEnhancements := true }).enhancements.map Enhancement.feature = ["grid", "aspect-ratio"] := by
  decide

end Findings

end FeatureAudit
