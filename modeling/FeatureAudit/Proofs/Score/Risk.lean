import FeatureAudit.Proofs.Findings.Partition
import FeatureAudit.Proofs.Score
import FeatureAudit.Report.Statistics

/-!
# The risk of findings is a percentage

The risk weighs what fails against the worst case, in which every use is an error. The four lists of findings
share out the uses, so no more of them fail than there are, and the risk lies between nothing and the worst.

* **`Findings.length_failing_le`** — no more uses fail than there are.
* **`Findings.risk_bounds`**, **`Findings.risk_of_none_failing`**, **`Findings.risk_of_all_violations`** — the risk
  of any findings, and its two ends.
* **`risk_is_percentage`** — the risk of findings, and how the risk follows the counts that it is made of.
-/
namespace FeatureAudit

open Report

namespace Findings

variable {files : List (String × List Usage)} {options : FindingsOptions}

/-- The risk in the statistics of findings is made of the numbers of violations, of warnings and of all uses. -/
theorem risk_statistics (f : Findings) :
    (statistics f).risk = riskScore f.violations.length f.warnings.length f.totalFeatures := rfl

/-- As many features are counted as there are uses in all files. -/
theorem totalFeatures_ofFiles :
    (ofFiles files options).totalFeatures = (files.flatMap Prod.snd).length := rfl

/-- There are no more violations and warnings than uses, since no use is in two lists. -/
theorem length_failing_le (files : List (String × List Usage)) (options : FindingsOptions) :
    (ofFiles files options).violations.length + (ofFiles files options).warnings.length ≤
      (ofFiles files options).totalFeatures := by
  have hall := length_allUsages (ofFiles files options)
  have hlength := (allUsages_perm files options).length_eq
  rw [totalFeatures_ofFiles]
  omega

/-- The risk of findings is a percentage: it is never below 0, and never above 100, since no more uses fail than there
are. -/
theorem risk_bounds :
    0 ≤ (statistics (ofFiles files options)).risk ∧ (statistics (ofFiles files options)).risk ≤ 100 := by
  rw [risk_statistics]
  exact riskScore_bounds (length_failing_le files options)

/-- Where nothing fails there is no risk, however much is used. -/
theorem risk_of_none_failing (hviolations : (ofFiles files options).violations = [])
    (hwarnings : (ofFiles files options).warnings = []) :
    (statistics (ofFiles files options)).risk = 0 := by
  rw [risk_statistics, hviolations, hwarnings]
  rcases Nat.eq_zero_or_pos (ofFiles files options).totalFeatures with hzero | hpos
  · rw [hzero]
    rfl
  · rw [riskScore_of_pos hpos, roundHalfUp_eq_iff (by omega)]
    simp only [List.length_nil]
    omega

/-- Where all uses are violations, they are the list of violations. -/
theorem violations_eq_of_all
    (hall : ∀ u ∈ files.flatMap Prod.snd, u ∈ (ofFiles files options).violations) :
    (ofFiles files options).violations = files.flatMap Prod.snd := by
  apply List.filter_eq_self.2
  intro u hu
  have hcategory : u.category options.exceptions = .violation := (mem_inCategory_iff.1 (hall u hu)).2
  exact decide_eq_true hcategory

/-- If every use is a violation, and there are any, then the risk of the findings is complete. -/
theorem risk_of_all_violations (hused : files.flatMap Prod.snd ≠ [])
    (hall : ∀ u ∈ files.flatMap Prod.snd, u ∈ (ofFiles files options).violations) :
    (statistics (ofFiles files options)).risk = 100 := by
  have hpos : 0 < (ofFiles files options).totalFeatures := List.length_pos_iff.2 hused
  have hviolations : (ofFiles files options).violations.length = (ofFiles files options).totalFeatures := by
    rw [violations_eq_of_all hall, totalFeatures_ofFiles]
  -- that leaves none for the warnings
  have hwarnings : (ofFiles files options).warnings.length = 0 := by
    have hle := length_failing_le files options
    omega
  rw [risk_statistics, hviolations, hwarnings]
  exact riskScore_self hpos

end Findings

/-- The risk is the share of what fails, rounded to the nearest whole number, a half upwards. -/
theorem riskScore_eq_round {errors warnings total : Nat} (hpos : 0 < total) :
    riskScore errors warnings total = round ((100 * (3 * errors + warnings) : ℚ) / (3 * total)) := by
  rw [riskScore_of_pos hpos, roundHalfUp_eq_round (by omega)]
  push_cast
  rfl

/-- **The risk is a percentage that orders outcomes.** That of any findings is at least 0 and at most 100, it is 0
where nothing fails, and 100 where something is used and all uses are violations. It is the weighted share of what
fails, rounded half up: it does not fall with more errors, with more warnings, or with an error in place of a
warning, and it does not rise with more uses. -/
theorem risk_is_percentage :
    (∀ (files : List (String × List Usage)) (options : FindingsOptions),
      (0 ≤ (statistics (Findings.ofFiles files options)).risk ∧
          (statistics (Findings.ofFiles files options)).risk ≤ 100) ∧
        ((Findings.ofFiles files options).violations = [] →
          (Findings.ofFiles files options).warnings = [] →
            (statistics (Findings.ofFiles files options)).risk = 0) ∧
        (files.flatMap Prod.snd ≠ [] →
          (∀ u ∈ files.flatMap Prod.snd, u ∈ (Findings.ofFiles files options).violations) →
            (statistics (Findings.ofFiles files options)).risk = 100)) ∧
      ∀ errors warnings total : Nat, errors + warnings ≤ total → 0 < total →
        riskScore errors warnings total = round ((100 * (3 * errors + warnings) : ℚ) / (3 * total)) ∧
          (∀ errors', errors ≤ errors' → errors' + warnings ≤ total →
            riskScore errors warnings total ≤ riskScore errors' warnings total) ∧
          (∀ warnings', warnings ≤ warnings' → errors + warnings' ≤ total →
            riskScore errors warnings total ≤ riskScore errors warnings' total) ∧
          (∀ others, warnings = others + 1 →
            riskScore errors warnings total ≤ riskScore (errors + 1 : Nat) others total) ∧
          ∀ total', total ≤ total' →
            riskScore errors warnings total' ≤ riskScore errors warnings total := by
  constructor
  · intro files options
    exact ⟨Findings.risk_bounds, Findings.risk_of_none_failing, Findings.risk_of_all_violations⟩
  · intro errors warnings total _ hpos
    refine ⟨riskScore_eq_round hpos, ?_, ?_, ?_, ?_⟩
    · intro errors' hmore _
      exact riskScore_le_riskScore hmore (Nat.le_refl warnings)
    · intro warnings' hmore _
      exact riskScore_le_riskScore (Nat.le_refl errors) hmore
    · rintro others rfl
      -- an error weighs more than the warning that it replaces
      exact riskScore_le_of_weight_le hpos (Nat.le_refl total) (by omega)
    · intro total' hmore
      exact riskScore_le_of_weight_le hpos hmore (Nat.le_refl _)

/-- One use of limited support is all the risk there is, and none where it is excepted. Three warnings of eight uses
are a risk of twelve and a half, which is rounded up. -/
theorem risk_is_percentage_of_tie :
    ((∀ u ∈ [("a.js", [Findings.limitedUse "share"])].flatMap Prod.snd,
          u ∈ (Findings.ofFiles [("a.js", [Findings.limitedUse "share"])] {}).violations) ∧
        (statistics (Findings.ofFiles [("a.js", [Findings.limitedUse "share"])] {})).risk = 100) ∧
      ((Findings.ofFiles [("a.js", [Findings.limitedUse "share"])] { exceptions := ["share"] }).violations = [] ∧
        (statistics (Findings.ofFiles [("a.js", [Findings.limitedUse "share"])]
          { exceptions := ["share"] })).risk = 0) ∧
      (riskScore (0 : Nat) (3 : Nat) (8 : Nat) = 13 ∧
        round ((100 * (3 * (0 : Nat) + (3 : Nat)) : ℚ) / (3 * (8 : Nat))) = 13) ∧
      13 ≤ riskScore (1 : Nat) (3 : Nat) (8 : Nat) ∧
      13 ≤ riskScore (0 : Nat) (4 : Nat) (8 : Nat) ∧
      13 ≤ riskScore (0 + 1 : Nat) (2 : Nat) (8 : Nat) ∧
      riskScore (0 : Nat) (3 : Nat) (9 : Nat) ≤ 13 := by
  obtain ⟨hfindings, hcounts⟩ := risk_is_percentage
  obtain ⟨-, -, hworst⟩ := hfindings [("a.js", [Findings.limitedUse "share"])] {}
  obtain ⟨-, hnone, -⟩ := hfindings [("a.js", [Findings.limitedUse "share"])] { exceptions := ["share"] }
  obtain ⟨hround, herrors, hwarnings, hreplaced, hmore⟩ := hcounts 0 3 8 (by decide) (by decide)
  have hall : ∀ u ∈ [("a.js", [Findings.limitedUse "share"])].flatMap Prod.snd,
      u ∈ (Findings.ofFiles [("a.js", [Findings.limitedUse "share"])] {}).violations := by
    decide
  -- three warnings among eight uses are 12.5, which is rounded up
  have htie : riskScore (0 : Nat) (3 : Nat) (8 : Nat) = 13 := by decide
  rw [htie] at hround herrors hwarnings hreplaced hmore
  refine ⟨⟨hall, hworst (by decide) hall⟩, ⟨by decide, hnone (by decide) (by decide)⟩, ⟨htie, hround.symm⟩,
    ?_, ?_, ?_, ?_⟩
  · exact herrors 1 (by decide) (by decide)
  · exact hwarnings 4 (by decide) (by decide)
  · exact hreplaced 2 rfl
  · exact hmore 9 (by decide)

end FeatureAudit
