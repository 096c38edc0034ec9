import FeatureAudit.Proofs.CommandLine.Passing
import FeatureAudit.Proofs.Retargeting
import FeatureAudit.Proofs.Settings.TargetOption

/-!
# Broader targets

A run is relaxed by a broader target. The target has no say in what is detected, so the totals stay as they
are. What can change is the list in which a use stands, and it changes to its good only.

* **`Findings.Eases`** — the same totals, and no more violations or warnings.
* **`Usage.retarget_eq_of_failing`** — a use that fails for a broader target is the same use as for the
  narrower one.
* **`scan_passes_withTarget`**, **`ci_passes_withTarget`** — a run that passes for some target passes for a
  broader one, whatever the target comes from.
* **`broader_target_eases`** — a broader target eases the findings.
-/
namespace FeatureAudit

open CommandLine

/-! ## Easier findings -/

/-- The totals of two findings, and what is drawn from all of their uses, are the same. -/
structure Findings.SameTotals (f f' : Findings) : Prop where
  filesScanned : f'.filesScanned = f.filesScanned
  totalFiles : f'.totalFiles = f.totalFiles
  totalFeatures : f'.totalFeatures = f.totalFeatures
  score : f'.score = f.score
  opportunities : f'.opportunities = f.opportunities
  enhancements : f'.enhancements = f.enhancements

theorem Findings.SameTotals.symm {f f' : Findings} (h : f.SameTotals f') : f'.SameTotals f :=
  ⟨h.filesScanned.symm, h.totalFiles.symm, h.totalFeatures.symm, h.score.symm,
    h.opportunities.symm, h.enhancements.symm⟩

/-- Totals that stay the same in two steps stay the same in both. -/
theorem Findings.SameTotals.trans {f f' f'' : Findings} (h : f.SameTotals f')
    (h' : f'.SameTotals f'') : f.SameTotals f'' :=
  ⟨h'.filesScanned.trans h.filesScanned, h'.totalFiles.trans h.totalFiles,
    h'.totalFeatures.trans h.totalFeatures, h'.score.trans h.score,
    h'.opportunities.trans h.opportunities, h'.enhancements.trans h.enhancements⟩

/-- The second findings ease the first: they are drawn from as much, and nothing fails in them that
did not fail before. -/
structure Findings.Eases (f f' : Findings) : Prop extends Findings.SameTotals f f' where
  violations : f'.violations.Sublist f.violations
  warnings : f'.warnings.Sublist f.warnings

/-! ## A broader target -/

variable {target target' : Tier} {exceptions : List String}

/-- What falls short of a broader target falls short of the narrower one, with the same advice. -/
theorem Tier.suggestionFor_of_not_meets {tier : Tier} (hbroader : target.rank ≤ target'.rank)
    (hshort : tier.meets target' = false) :
    tier.meets target = false ∧ suggestionFor tier target' = suggestionFor tier target := by
  revert hbroader hshort
  cases tier <;> cases target <;> cases target' <;> decide

/-- A use that is no mere information for a broader target is the same use as for the narrower one. -/
theorem Usage.retarget_eq_of_failing {u : Usage} (hbroader : target.rank ≤ target'.rank)
    (hfailing : (u.retarget target').severity ≠ .info) :
    u.retarget target' = u.retarget target := by
  cases htier : u.tier with
  | none => simp only [retarget, htier]; rfl
  | some tier =>
    -- what met the broader target would be no failure
    have hshort : tier.meets target' = false := by
      by_contra hmeets
      refine hfailing (Severity.of_eq_info_iff.2 ?_)
      rw [htier]
      show tier.meets target' = true
      simpa using hmeets
    obtain ⟨hshort', hadvice⟩ := Tier.suggestionFor_of_not_meets hbroader hshort
    simp only [retarget, htier, Tier.meets?, hshort, hshort', Option.bind_some, hadvice]

/-- In every list but that of mere information, the uses for a broader target are some of those for the
narrower one, as they are there. -/
theorem inCategory_retarget_sublist {category : Category} (hbroader : target.rank ≤ target'.rank)
    (hfailing : category ≠ .suggestion) (usages : List Usage) :
    (inCategory exceptions category (usages.map (Usage.retarget target'))).Sublist
      (inCategory exceptions category (usages.map (Usage.retarget target))) := by
  induction usages with
  | nil => exact List.Sublist.slnil
  | cons u rest ih =>
    rw [List.map_cons, List.map_cons, inCategory, inCategory, List.filter_cons, List.filter_cons]
    by_cases hu : (u.retarget target').category exceptions = category
    · -- what fails the broader target fails the other one in the same way
      have hsame : u.retarget target' = u.retarget target := by
        refine Usage.retarget_eq_of_failing hbroader fun hinfo => hfailing ?_
        rw [← hu]
        exact category_eq_suggestion_iff.2 hinfo
      rw [if_pos (decide_eq_true hu), hsame, if_pos (decide_eq_true (hsame ▸ hu))]
      exact ih.cons_cons _
    · -- what does not is left out of the smaller list, whether or not it stands in the other
      rw [if_neg (by simpa using hu)]
      split
      · exact ih.cons _
      · exact ih

namespace Findings

variable (files : List (String × List Usage)) (options : FindingsOptions)

/-- What is drawn from all uses is drawn from their tokens, features, tiers and files, which the target
leaves alone. -/
theorem sameTotals_retargetUses (target : Tier) :
    (ofFiles files options).SameTotals (ofFiles (retargetUses target files) options) where
  filesScanned := by simp only [ofFiles, retargetUses, List.length_map]
  totalFiles := by
    simp only [ofFiles, retargetUses, List.filter_map, List.length_map, Function.comp_def,
      List.isEmpty_map]
  totalFeatures := by simp only [ofFiles, flatMap_retargetUses, List.length_map]
  score := by
    simp only [ofFiles, flatMap_retargetUses, List.map_map]
    rfl
  opportunities := by
    simp only [ofFiles, flatMap_retargetUses, FeatureAudit.opportunities, List.any_map]
    rfl
  enhancements := by
    simp only [ofFiles, flatMap_retargetUses, FeatureAudit.enhancements, List.filterMap_map]
    rfl

/-- For another target, each list of findings is the usages of its category after all of them were judged by that
target. -/
theorem inList_retargetUses (category : Category) :
    (ofFiles (retargetUses target files) options).inList category =
      inCategory options.exceptions category
        ((files.flatMap Prod.snd).map (Usage.retarget target)) := by
  rw [inList_ofFiles, flatMap_retargetUses]

/-- For a broader target less is found fault with, and less is excepted. -/
theorem eases_retargetUses (hbroader : target.rank ≤ target'.rank) :
    (ofFiles (retargetUses target files) options).Eases
        (ofFiles (retargetUses target' files) options) ∧
      (ofFiles (retargetUses target' files) options).exempted.Sublist
        (ofFiles (retargetUses target files) options).exempted := by
  have hlist (category : Category) (hfailing : category ≠ .suggestion) :
      ((ofFiles (retargetUses target' files) options).inList category).Sublist
        ((ofFiles (retargetUses target files) options).inList category) := by
    rw [inList_retargetUses, inList_retargetUses]
    exact inCategory_retarget_sublist hbroader hfailing _
  have htotals := (sameTotals_retargetUses files options target).symm.trans
    (sameTotals_retargetUses files options target')
  exact ⟨⟨htotals, hlist .violation (by decide), hlist .warning (by decide)⟩,
    hlist .exempted (by decide)⟩

end Findings

namespace Audit

theorem ofProject_withTarget_eases (a : Audit) {fs : Files} {root : Path} {jobs : Int}
    {f : Findings} {notices : List Notice} (hbroader : target.rank ≤ target'.rank)
    (h : (a.withTarget target).ofProject fs root jobs = (.ok f, notices)) :
    ∃ f', (a.withTarget target').ofProject fs root jobs = (.ok f', notices) ∧ f.Eases f' := by
  obtain ⟨paths, files, hsources, hfiles, rfl⟩ := ofProject_eq_ok_iff.1 h
  rw [reader_withTarget, fileExtractions_withTarget] at hfiles
  -- what is found in the files is the same, rated for each of the targets
  rcases hfound : (a.reader (sideBySide paths jobs)).fileExtractions fs (sideBySide paths jobs)
    (paths.mergeSort Path.le) with ⟨found, told⟩
  rw [hfound] at hfiles
  cases found with
  | error reason => exact absurd hfiles (by simp [Except.map])
  | ok found =>
    obtain ⟨rfl, rfl⟩ : found.map (fun f => (f.1, f.2.retarget target)) = files ∧ told = notices := by
      simpa [Except.map] using hfiles
    refine ⟨_, ofProject_eq_ok_iff.2 ⟨paths, found.map fun f => (f.1, f.2.retarget target'), hsources,
      ?_, rfl⟩, ?_⟩
    · rw [reader_withTarget, fileExtractions_withTarget, hfound]
      rfl
    · rw [findings_withTarget, findings_withTarget]
      exact (Findings.eases_retargetUses _ _ hbroader).1

theorem ofSources_withTarget_eases (a : Audit) (sources : List (String × String))
    (hbroader : target.rank ≤ target'.rank) :
    ((a.withTarget target).ofSources sources).1.Eases ((a.withTarget target').ofSources sources).1 ∧
      ((a.withTarget target').ofSources sources).1.exempted.Sublist
        ((a.withTarget target).ofSources sources).1.exempted := by
  rw [findings_ofSources, findings_ofSources, usesBySource_withTarget, usesBySource_withTarget]
  exact Findings.eases_retargetUses _ _ hbroader

/-- Nothing falls short where limited support is acceptable: every use of every text is a suggestion. -/
theorem inList_ofSources_limited (a : Audit) (sources : List (String × String))
    {category : Category} (hfailing : category ≠ .suggestion) :
    ((a.withTarget .limited).ofSources sources).1.inList category = [] := by
  rw [inList_ofSources, List.eq_nil_iff_forall_not_mem]
  intro u hu
  obtain ⟨hdetected, hcategory⟩ := mem_inCategory_iff.1 hu
  obtain ⟨s, -, hfound⟩ := mem_detected_iff.1 hdetected
  obtain ⟨site, token, hmade⟩ := site_of_mem_extraction hfound
  rw [Site.usage?_eq] at hmade
  obtain ⟨feature, -, rfl⟩ := Option.map_eq_some_iff.1 hmade
  -- every tier meets the broadest target, so each use is one that may stay
  refine hfailing (hcategory.symm.trans (category_eq_suggestion_iff.2 ?_))
  exact Severity.of_eq_info_iff.2 (Tier.meets_limited feature.tier)

end Audit

/-- What texts are seen to use does not depend on the target. -/
theorem Audit.sightings_withTarget (a : Audit) (sources : List (String × String)) (target : Tier) :
    ((a.withTarget target).detected sources).map Usage.sighting =
      (a.detected sources).map Usage.sighting := by
  rw [detected, usesBySource_withTarget, flatMap_retargetUses, List.map_map]
  rfl

/-- A run that passes for some target passes for a broader one. -/
theorem scan_passes_withTarget {ws : Workspace} {timestamp : String} {o : ScanOptions}
    {settings : Settings} {failOnWarning noFailOnError : Bool}
    (hbroader : target.rank ≤ target'.rank)
    (hpasses : (scan ws timestamp o (.ok (settings.withTarget target))
      (verdictOf failOnWarning noFailOnError)).Passes) :
    (scan ws timestamp o (.ok (settings.withTarget target'))
      (verdictOf failOnWarning noFailOnError)).Passes := by
  refine scan_passes_of_findings hpasses rfl rfl ?_
  intro registry room fs root jobs f notices hproject
  obtain ⟨f', hproject', heases⟩ :=
    Audit.ofProject_withTarget_eases { registry, settings, room } hbroader hproject
  exact ⟨f', hproject', heases.violations, heases.warnings⟩

/-- So does a command line: the target that it names goes over that of any other source. -/
theorem ci_passes_withTarget {ws : Workspace} {timestamp : String} {o : ScanOptions}
    {failOnWarning noFailOnError : Bool} (hbroader : target.rank ≤ target'.rank)
    (hpasses : (Command.run ws timestamp
      (.ci { o with target := .text target.name } failOnWarning noFailOnError)).Passes) :
    (Command.run ws timestamp
      (.ci { o with target := .text target'.name } failOnWarning noFailOnError)).Passes := by
  cases hsettings : ({ o with target := .text target.name } : ScanOptions).settings ws [] with
  | error reason =>
    -- without settings there is nothing to pass
    rw [Command.run, hsettings] at hpasses
    obtain ⟨p, hprinted, -⟩ := hpasses
    exact absurd hprinted (by simp [scan, Except.map])
  | ok settings =>
    have hself : settings = settings.withTarget target :=
      Except.ok.inj (hsettings.symm.trans (ScanOptions.settings_withTarget hsettings))
    rw [run_ci_of_settings hsettings, hself] at hpasses
    rw [run_ci_of_settings (ScanOptions.settings_withTarget hsettings)]
    have hscan : scan ws timestamp { o with target := .text target.name }
        (.ok { settings.withTarget target' with reportFormat := .json })
        (verdictOf failOnWarning noFailOnError) =
      scan ws timestamp { o with target := .text target'.name }
        (.ok { settings.withTarget target' with reportFormat := .json })
        (verdictOf failOnWarning noFailOnError) := scan_congr rfl rfl
    rw [← hscan]
    have hjson (t : Tier) : { settings.withTarget t with reportFormat := .json } =
        ({ settings with reportFormat := .json } : Settings).withTarget t := rfl
    rw [hjson] at hpasses ⊢
    exact scan_passes_withTarget hbroader hpasses

/-- **A broader target eases the findings.** The same uses are detected and the same totals are drawn
from them; what fails or is exempted for a broader target does so for the narrower one; and where limited
support is acceptable nothing fails. So a run that passes for some target passes for a broader one. -/
theorem broader_target_eases (hbroader : target.rank ≤ target'.rank) :
    (∀ (a : Audit) (sources : List (String × String)),
        ((a.withTarget target').detected sources).map Usage.sighting =
            ((a.withTarget target).detected sources).map Usage.sighting ∧
          ((a.withTarget target).ofSources sources).1.Eases
            ((a.withTarget target').ofSources sources).1 ∧
          ((a.withTarget target').ofSources sources).1.exempted.Sublist
            ((a.withTarget target).ofSources sources).1.exempted ∧
          (target' = .limited → ∀ category ≠ .suggestion,
            ((a.withTarget target').ofSources sources).1.inList category = [])) ∧
      (∀ (ws : Workspace) (timestamp : String) (o : ScanOptions) (settings : Settings)
        (failOnWarning noFailOnError : Bool),
        (scan ws timestamp o (.ok (settings.withTarget target))
            (verdictOf failOnWarning noFailOnError)).Passes →
          (scan ws timestamp o (.ok (settings.withTarget target'))
            (verdictOf failOnWarning noFailOnError)).Passes) ∧
      ∀ (ws : Workspace) (timestamp : String) (o : ScanOptions)
        (failOnWarning noFailOnError : Bool),
        (Command.run ws timestamp
            (.ci { o with target := .text target.name } failOnWarning noFailOnError)).Passes →
          (Command.run ws timestamp
            (.ci { o with target := .text target'.name } failOnWarning noFailOnError)).Passes := by
  refine ⟨fun a sources => ?_, ?_, ?_⟩
  · obtain ⟨heases, hexempted⟩ := Audit.ofSources_withTarget_eases a sources hbroader
    refine ⟨?_, heases, hexempted, ?_⟩
    · rw [Audit.sightings_withTarget, Audit.sightings_withTarget]
    · rintro rfl category hfailing
      exact Audit.inList_ofSources_limited a sources hfailing
  · intro ws timestamp o settings failOnWarning noFailOnError
    exact scan_passes_withTarget hbroader
  · intro ws timestamp o failOnWarning noFailOnError
    exact ci_passes_withTarget hbroader

/-- A workspace with one script. -/
def scriptWorkspace : Workspace :=
  { files := ⟨[(["a.js"], .file (Text.encode "fetch(x)"))], []⟩
    environment := []
    homes := {}
    room := .usual
    loaded := [] }

/-- What a recent feature is warned of for the narrowest target eases for the next. -/
theorem broader_target_eases_of_newly :
    Tier.rank .widelyAvailable ≤ Tier.rank .newlyAvailable ∧
      ((fetchAudit.withTarget .widelyAvailable).ofSources [("a.js", "fetch(x)")]).1.warnings ≠ [] ∧
      ((fetchAudit.withTarget .widelyAvailable).ofSources [("a.js", "fetch(x)")]).1.Eases
        ((fetchAudit.withTarget .newlyAvailable).ofSources [("a.js", "fetch(x)")]).1 ∧
      (Command.run scriptWorkspace "now"
        (.ci { target := .text (Tier.name .newlyAvailable) } true false)).Passes := by
  have hbroader : Tier.rank .widelyAvailable ≤ Tier.rank .newlyAvailable := by decide
  have hpasses : (Command.run scriptWorkspace "now"
      (.ci { target := .text (Tier.name .widelyAvailable) } true false)).Passes := by
    decide +kernel
  obtain ⟨heases, -, hci⟩ := broader_target_eases hbroader
  exact ⟨hbroader, by decide +kernel, (heases fetchAudit [("a.js", "fetch(x)")]).2.1,
    hci scriptWorkspace "now" {} true false hpasses⟩

end FeatureAudit
