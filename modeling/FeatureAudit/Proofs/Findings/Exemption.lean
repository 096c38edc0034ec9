import Mathlib.Data.List.Basic
import Mathlib.Data.List.Count
import FeatureAudit.Proofs.Findings.Relaxation
import FeatureAudit.Proofs.Score

/-!
# More exceptions

A run is also relaxed by more exceptions. They too have no say in what is detected: a use stays in its list,
or it moves from the violations or the warnings to what is exempted.

* **`Usage.category_of_subset`** — where more exceptions put a use.
* **`Findings.ExemptsMore`** — eased findings, and what is no longer found fault with is exempted.
* **`scan_passes_withExceptions`**, **`ci_passes_withExceptions`** — a run that passes with some exceptions
  passes with more.
* **`more_exceptions_ease`** — more exceptions ease the findings.
-/
namespace FeatureAudit

open CommandLine

/-! ## One use -/

variable {exceptions exceptions' : List String}

theorem Usage.IsExcepted.mono {u : Usage} (hmore : exceptions ⊆ exceptions')
    (h : u.IsExcepted exceptions) : u.IsExcepted exceptions' :=
  h.imp (fun htoken => hmore htoken) fun hfeature => hmore hfeature

/-- More exceptions leave a use where it is, or exempt it from failing. -/
theorem Usage.category_of_subset (hmore : exceptions ⊆ exceptions') (u : Usage) :
    u.category exceptions' = u.category exceptions ∨
      (u.category exceptions = .violation ∨ u.category exceptions = .warning) ∧
        u.category exceptions' = .exempted := by
  have hmono : u.IsExcepted exceptions → u.IsExcepted exceptions' := IsExcepted.mono hmore
  rw [category_eq, category_eq]
  -- a use that meets the target is never excepted; for the others it depends on the two lists
  by_cases hinfo : u.severity = .info
  · simp [hinfo]
  · by_cases hexcepted : u.IsExcepted exceptions
    · simp [hinfo, hexcepted, hmono hexcepted]
    · by_cases hexcepted' : u.IsExcepted exceptions'
      · by_cases herror : u.severity = .error <;> simp [hinfo, hexcepted, hexcepted', herror]
      · simp [hexcepted, hexcepted']

/-- If whatever was in a category stays in it, then the usages of the category keep their order and only gain others.
-/
theorem inCategory_sublist_of_imp {category : Category}
    (h : ∀ u : Usage, u.category exceptions = category → u.category exceptions' = category)
    (usages : List Usage) :
    (inCategory exceptions category usages).Sublist (inCategory exceptions' category usages) := by
  refine List.monotone_filter_right usages fun u hu => ?_
  simp only [decide_eq_true_eq] at hu ⊢
  exact h u hu

/-! ## Findings -/

/-- The same way of drawing findings with other exceptions. -/
def FindingsOptions.withExceptions (options : FindingsOptions) (exceptions : List String) :
    FindingsOptions :=
  { options with exceptions }

namespace Findings

/-- The second findings exempt more than the first: what they no longer find fault with, they exempt. -/
structure ExemptsMore (f f' : Findings) : Prop extends Findings.Eases f f' where
  suggestions : f'.suggestions = f.suggestions
  exempted : f.exempted.Sublist f'.exempted
  moved : f'.exempted.Perm
    (f.exempted ++ (f.violations.diff f'.violations ++ f.warnings.diff f'.warnings))
  risk : (Report.statistics f').risk ≤ (Report.statistics f).risk

variable (files : List (String × List Usage)) (options : FindingsOptions)

/-- Each list of findings under some exceptions is the usages of its category under them, whichever exceptions the
rest of the options had. -/
theorem inList_withExceptions (category : Category) :
    (ofFiles files (options.withExceptions exceptions)).inList category =
      inCategory exceptions category (files.flatMap Prod.snd) :=
  inList_ofFiles category

/-- With more exceptions findings are eased: there are fewer violations and fewer warnings, and none of the totals
changes. A usage is moved to the exempted ones or stays where it was. -/
theorem eases_withExceptions (hmore : exceptions ⊆ exceptions') :
    (ofFiles files (options.withExceptions exceptions)).Eases
      (ofFiles files (options.withExceptions exceptions')) where
  filesScanned := rfl
  totalFiles := rfl
  totalFeatures := rfl
  score := rfl
  opportunities := rfl
  enhancements := rfl
  violations := by
    refine inCategory_sublist_of_imp (fun u hu => ?_) _
    rcases Usage.category_of_subset hmore u with hsame | ⟨-, hexempted⟩
    · exact hsame.symm.trans hu
    · exact absurd (hexempted.symm.trans hu) (by decide)
  warnings := by
    refine inCategory_sublist_of_imp (fun u hu => ?_) _
    rcases Usage.category_of_subset hmore u with hsame | ⟨-, hexempted⟩
    · exact hsame.symm.trans hu
    · exact absurd (hexempted.symm.trans hu) (by decide)

/-- With more exceptions whatever leaves the violations and the warnings is found among the exempted usages, no more
and no less. Each usage is counted in the four lists before and after. -/
theorem exemptsMore_withExceptions (hmore : exceptions ⊆ exceptions') :
    (ofFiles files (options.withExceptions exceptions)).ExemptsMore
      (ofFiles files (options.withExceptions exceptions')) where
  toEases := eases_withExceptions files options hmore
  suggestions := by
    refine List.filter_congr fun u _ => decide_eq_decide.2 ?_
    exact category_eq_suggestion_iff.trans category_eq_suggestion_iff.symm
  exempted := by
    refine inCategory_sublist_of_imp (fun u hu => ?_) _
    rcases Usage.category_of_subset hmore u with hsame | ⟨-, hexempted⟩
    · exact hsame.trans hu
    · exact hexempted
  moved := by
    rw [List.perm_iff_count]
    intro u
    rw [List.count_append, List.count_append, List.count_diff, List.count_diff]
    -- a use stands in one list before and in one after
    show ((ofFiles files (options.withExceptions exceptions')).inList .exempted).count u =
      ((ofFiles files (options.withExceptions exceptions)).inList .exempted).count u +
        (((ofFiles files (options.withExceptions exceptions)).inList .violation).count u -
            ((ofFiles files (options.withExceptions exceptions')).inList .violation).count u +
          (((ofFiles files (options.withExceptions exceptions)).inList .warning).count u -
            ((ofFiles files (options.withExceptions exceptions')).inList .warning).count u))
    simp only [inList_withExceptions, count_inCategory]
    rcases Usage.category_of_subset hmore u with hsame | ⟨hfailing | hfailing, hexempted⟩
    · rw [hsame]
      omega
    · simp [hfailing, hexempted]
    · simp [hfailing, hexempted]
  risk := by
    have heases := eases_withExceptions files options hmore
    exact riskScore_le_riskScore heases.violations.length_le heases.warnings.length_le

end Findings

/-! ## Runs -/

/-- The same settings with other exceptions. -/
def Settings.withExceptions (s : Settings) (exceptions : List String) : Settings :=
  { s with exceptions }

namespace Audit

/-- The same audit with other exceptions. -/
def withExceptions (a : Audit) (exceptions : List String) : Audit :=
  { a with settings := a.settings.withExceptions exceptions }

/-- Workers go by the exceptions of the audit that they work for. -/
theorem reader_withExceptions (a : Audit) (exceptions : List String) (sideBySide : Bool) :
    (a.withExceptions exceptions).reader sideBySide = (a.reader sideBySide).withExceptions exceptions := by
  cases sideBySide <;> rfl

/-- Exceptions have no say in what is extracted from a text; they only decide where it is listed. -/
theorem extraction_withExceptions (a : Audit) (exceptions : List String) (file text : String) :
    (a.withExceptions exceptions).extraction file text = a.extraction file text := by
  unfold extraction
  cases fileKind? file with
  | none => rfl
  | some kind => cases kind <;> rfl

/-- Exceptions have no say in what is extracted from a file. -/
theorem fileExtraction_withExceptions (a : Audit) (exceptions : List String) (fs : Files) (p : Path) :
    (a.withExceptions exceptions).fileExtraction fs p = a.fileExtraction fs p := by
  simp only [fileExtraction, extraction_withExceptions]

/-- What is found in files does not depend on the exceptions. -/
theorem fileExtractions_withExceptions (a : Audit) (exceptions : List String) (fs : Files)
    (sideBySide : Bool) (paths : List Path) :
    (a.withExceptions exceptions).fileExtractions fs sideBySide paths =
      a.fileExtractions fs sideBySide paths := by
  induction paths with
  | nil => rfl
  | cons p rest ih =>
    simp only [fileExtractions, fileExtraction_withExceptions, ih]

theorem ofProject_withExceptions_eases (a : Audit) {fs : Files} {root : Path} {jobs : Int}
    {f : Findings} {notices : List Notice} (hmore : exceptions ⊆ exceptions')
    (h : (a.withExceptions exceptions).ofProject fs root jobs = (.ok f, notices)) :
    ∃ f', (a.withExceptions exceptions').ofProject fs root jobs = (.ok f', notices) ∧
      f.Eases f' := by
  obtain ⟨paths, files, hsources, hfiles, rfl⟩ := ofProject_eq_ok_iff.1 h
  -- the files are looked into with the same result, whichever exceptions the reader goes by
  rw [reader_withExceptions, fileExtractions_withExceptions, ← fileExtractions_withExceptions _ exceptions',
    ← reader_withExceptions] at hfiles
  refine ⟨_, ofProject_eq_ok_iff.2 ⟨paths, files, hsources, hfiles, rfl⟩, ?_⟩
  exact Findings.eases_withExceptions _ a.options hmore

end Audit

/-- A run that passes with some exceptions passes with more. -/
theorem scan_passes_withExceptions {ws : Workspace} {timestamp : String} {o : ScanOptions}
    {settings : Settings} {failOnWarning noFailOnError : Bool} (hmore : exceptions ⊆ exceptions')
    (hpasses : (scan ws timestamp o (.ok (settings.withExceptions exceptions))
      (verdictOf failOnWarning noFailOnError)).Passes) :
    (scan ws timestamp o (.ok (settings.withExceptions exceptions'))
      (verdictOf failOnWarning noFailOnError)).Passes := by
  refine scan_passes_of_findings hpasses rfl rfl ?_
  intro registry room fs root jobs f notices hproject
  obtain ⟨f', hproject', heases⟩ :=
    Audit.ofProject_withExceptions_eases { registry, settings, room } hmore hproject
  exact ⟨f', hproject', heases.violations, heases.warnings⟩

/-- So does a command line that takes the exceptions from another file of settings. -/
theorem ci_passes_withExceptions {ws : Workspace} {timestamp : String} {o o' : ScanOptions}
    {settings : Settings} {failOnWarning noFailOnError : Bool} (hmore : exceptions ⊆ exceptions')
    (hpath : o'.path = o.path) (hjobs : o'.jobs? = o.jobs?)
    (hsettings : o.settings ws [] = .ok (settings.withExceptions exceptions))
    (hsettings' : o'.settings ws [] = .ok (settings.withExceptions exceptions'))
    (hpasses : (Command.run ws timestamp (.ci o failOnWarning noFailOnError)).Passes) :
    (Command.run ws timestamp (.ci o' failOnWarning noFailOnError)).Passes := by
  rw [run_ci_of_settings hsettings] at hpasses
  rw [run_ci_of_settings hsettings', scan_congr hpath hjobs]
  have hjson (es : List String) : { settings.withExceptions es with reportFormat := .json } =
      ({ settings with reportFormat := .json } : Settings).withExceptions es := rfl
  rw [hjson] at hpasses ⊢
  exact scan_passes_withExceptions hmore hpasses

/-- **More exceptions ease the findings.** What is detected and what is drawn from it stay as they are;
what stops failing is exempted, and nothing else changes its list; the risk is no larger. So a run that
passes with some exceptions passes with more. -/
theorem more_exceptions_ease (hmore : exceptions ⊆ exceptions') :
    (∀ (files : List (String × List Usage)) (options : FindingsOptions),
        (Findings.ofFiles files (options.withExceptions exceptions)).ExemptsMore
          (Findings.ofFiles files (options.withExceptions exceptions'))) ∧
      (∀ (ws : Workspace) (timestamp : String) (o : ScanOptions) (settings : Settings)
        (failOnWarning noFailOnError : Bool),
        (scan ws timestamp o (.ok (settings.withExceptions exceptions))
            (verdictOf failOnWarning noFailOnError)).Passes →
          (scan ws timestamp o (.ok (settings.withExceptions exceptions'))
            (verdictOf failOnWarning noFailOnError)).Passes) ∧
      ∀ (ws : Workspace) (timestamp : String) (o o' : ScanOptions) (settings : Settings)
        (failOnWarning noFailOnError : Bool), o'.path = o.path → o'.jobs? = o.jobs? →
        o.settings ws [] = .ok (settings.withExceptions exceptions) →
        o'.settings ws [] = .ok (settings.withExceptions exceptions') →
        (Command.run ws timestamp (.ci o failOnWarning noFailOnError)).Passes →
          (Command.run ws timestamp (.ci o' failOnWarning noFailOnError)).Passes := by
  refine ⟨?_, ?_, ?_⟩
  · intro files options
    exact Findings.exemptsMore_withExceptions files options hmore
  · intro ws timestamp o settings failOnWarning noFailOnError
    exact scan_passes_withExceptions hmore
  · intro ws timestamp o o' settings failOnWarning noFailOnError
    exact ci_passes_withExceptions hmore

/-- One more exception takes the violation of a use of limited support away. -/
theorem more_exceptions_ease_of_one :
    ["fetch"] ⊆ ["fetch", "share"] ∧
      (Findings.ofFiles [("a.js", [Findings.limitedUse "share", Findings.limitedUse "fetch"])]
          (({} : FindingsOptions).withExceptions ["fetch"])).violations ≠ [] ∧
      (Findings.ofFiles [("a.js", [Findings.limitedUse "share", Findings.limitedUse "fetch"])]
          (({} : FindingsOptions).withExceptions ["fetch"])).ExemptsMore
        (Findings.ofFiles [("a.js", [Findings.limitedUse "share", Findings.limitedUse "fetch"])]
          (({} : FindingsOptions).withExceptions ["fetch", "share"])) := by
  have hmore : ["fetch"] ⊆ ["fetch", "share"] := by decide
  obtain ⟨hexempts, -⟩ := more_exceptions_ease hmore
  exact ⟨hmore, by decide, hexempts _ _⟩

end FeatureAudit
