import FeatureAudit.CommandLine.Run

/-!
# Runs that pass

A run from the command line passes if it prints its report and ends with status zero. That takes
findings, a place for the report, and a verdict without complaints; the last is all that hangs on what
is found.

* **`Outcome.Passes`** — a run passes.
* **`Audit.ofProject_eq_ok_iff`**, **`ScanOptions.findings_eq_ok_iff`** — when there are findings, and
  which.
* **`run_ci_of_settings`** — the run of a command line that judges, once there are settings.
* **`scan_passes_iff`** — when a run passes.
* **`verdictOf_eq_nil_iff`** — when a verdict has no complaints.
* **`scan_passes_of_findings`** — settings under which no more fails pass where others pass.
-/
namespace FeatureAudit

/-! ## Findings of a project -/

/-- There are findings exactly if the sources are found and none of them ends the audit. -/
theorem Audit.ofProject_eq_ok_iff {a : Audit} {fs : Files} {root : Path} {jobs : Int}
    {f : Findings} {notices : List Notice} :
    a.ofProject fs root jobs = (.ok f, notices) ↔
      ∃ paths files, fs.sources root a.settings.ignoreFiles = .ok paths ∧
        (a.reader (sideBySide paths jobs)).fileExtractions fs (sideBySide paths jobs)
            (paths.mergeSort Path.le) = (.ok files, notices) ∧
          f = a.findings ((keepFirst Prod.fst files).map fun e => (e.1.toString, e.2)) := by
  unfold ofProject ofPaths
  cases hsources : fs.sources root a.settings.ignoreFiles with
  | error reason => simp
  | ok paths =>
    cases hfiles : (a.reader (sideBySide paths jobs)).fileExtractions fs (sideBySide paths jobs)
        (paths.mergeSort Path.le) with
    | mk found told =>
      -- the notices are told with a failure too, so they are set apart first
      cases found with
      | error reason => simp [hfiles, Except.map]
      | ok files =>
        simp only [hfiles, Except.map, Prod.mk.injEq, Except.ok.injEq]
        constructor
        · rintro ⟨rfl, rfl⟩
          exact ⟨paths, files, rfl, by rw [hfiles], rfl⟩
        · rintro ⟨paths', files', rfl, hfiles', rfl⟩
          rw [hfiles] at hfiles'
          obtain ⟨rfl, rfl⟩ := by simpa using hfiles'
          exact ⟨rfl, rfl⟩

/-- The audit that settings ask for has the registry of their dataset. -/
theorem Workspace.audit_none (ws : Workspace) (settings : Settings) :
    ws.audit settings none =
      ((ws.registry settings.dataset).1.map fun registry => { registry, settings, room := ws.room },
        (ws.registry settings.dataset).2) := rfl

namespace CommandLine

variable {o : ScanOptions} {ws ws' : Workspace} {settings : Settings} {f : Findings}
  {notices : List Notice}

/-- An audit of a project by some workers is one of its sources, once the number of workers is known. Without a number
there is none, even if the sources are there. -/
theorem findingsBy_eq_ok_iff {audit : Audit} {path : Path} {jobs? : Option Int} :
    findingsBy ws audit path jobs? = (.ok f, notices) ↔
      ∃ jobs, jobs? = some jobs ∧ audit.ofProject ws.files path jobs = (.ok f, notices) := by
  cases jobs? with
  | none =>
    -- without a number of workers the sources are looked for in vain
    cases hsources : ws.files.sources path audit.settings.ignoreFiles <;>
      simp [findingsBy, hsources]
  | some jobs =>
    rcases hfound : audit.ofProject ws.files path jobs with ⟨found, told⟩
    have hby : findingsBy ws audit path (some jobs) =
        (found.mapError fun reason => .inaccessible path.toString reason, told) := by
      simp only [findingsBy, hfound]
    rw [hby]
    cases found with
    | error reason =>
      show (Except.error (Failure.inaccessible path.toString reason), told) = _ ↔ _
      simp [hfound]
    | ok found =>
      show (Except.ok found, told) = _ ↔ _
      simp [hfound]

/-- There are findings exactly if the path leads somewhere, the dataset can be loaded, the number of
workers is there, and the audit of the project has findings. -/
theorem ScanOptions.findings_eq_ok_iff :
    o.findings ws settings = (.ok f, notices, ws') ↔
      ws.files.has (Path.ofString o.path) = .ok true ∧
        ∃ registry jobs, ws.registry settings.dataset = (.ok registry, ws') ∧ o.jobs? = some jobs ∧
          ({ registry, settings, room := ws.room } : Audit).ofProject ws'.files (Path.ofString o.path) jobs =
            (.ok f, notices) := by
  unfold findings
  cases hhas : ws.files.has (Path.ofString o.path) with
  | error reason => simp [hhas]
  | ok present =>
    cases present with
    | false => simp [hhas]
    | true =>
      -- from here on the dataset decides, and then the project
      rw [Workspace.audit_none]
      cases hload : ws.registry settings.dataset with
      | mk loaded ws₁ =>
        cases loaded with
        | error reason => simp [hhas, Except.map]
        | ok registry =>
          simp only [hhas, Except.map, Prod.mk.injEq, true_and]
          constructor
          · rintro ⟨hfound, htold, rfl⟩
            obtain ⟨jobs, hjobs, hproject⟩ := findingsBy_eq_ok_iff.1 (Prod.ext hfound htold)
            exact ⟨registry, jobs, ⟨rfl, rfl⟩, hjobs, hproject⟩
          · rintro ⟨registry', jobs, ⟨hregistry, rfl⟩, hjobs, hproject⟩
            obtain rfl := Except.ok.inj hregistry
            have hfound := findingsBy_eq_ok_iff.2 ⟨jobs, hjobs, hproject⟩
            rw [hfound]
            exact ⟨rfl, rfl, rfl⟩

/-! ## The report -/

/-- Whether a file can be written does not depend on what is written. -/
theorem write_isOk {fs fs' : Files} {p : Path} {content : List UInt8}
    (h : fs.write p content = .ok fs') (content' : List UInt8) :
    ∃ fs'', fs.write p content' = .ok fs'' := by
  unfold Files.write at h ⊢
  split at h
  · exact ⟨_, rfl⟩
  · exact absurd h (by simp)
  · split at h
    · exact ⟨_, rfl⟩
    · exact absurd h (by simp)
    · exact absurd h (by simp)
  · exact absurd h (by simp)

/-- Whether a report can be put out does not depend on the report: where one was printed or written, another one would
have been. -/
theorem emit_isOk {output : Option String} {report out : String} (report' : String)
    (h : emit ws output report = (.ok out, ws')) :
    ∃ out' ws'', emit ws output report' = (.ok out', ws'') := by
  unfold emit at h ⊢
  by_cases hname : (output.getD "").isEmpty = true
  · exact ⟨_, _, if_pos hname⟩
  · simp only [if_neg hname] at h ⊢
    cases hwrite : ws.files.write (Path.ofString (output.getD "")) (Text.encode (report ++ "\n")) with
    | error reason =>
      rw [hwrite] at h
      exact absurd h (by simp)
    | ok files =>
      -- whether a text can be written depends on the place, and not on the text
      obtain ⟨files', hwrite'⟩ := write_isOk hwrite (Text.encode (report' ++ "\n"))
      rw [hwrite']
      exact ⟨_, _, rfl⟩

/-! ## The verdict -/

/-- A run has nothing to complain of exactly if violations are absent or set aside, and warnings absent or not asked
for. -/
theorem verdictOf_eq_nil_iff {failOnWarning noFailOnError : Bool} :
    verdictOf failOnWarning noFailOnError f = [] ↔
      (f.violations = [] ∨ noFailOnError = true) ∧ (f.warnings = [] ∨ failOnWarning = false) := by
  simp only [verdictOf, List.append_eq_nil_iff]
  cases f.violations <;> cases f.warnings <;> cases failOnWarning <;> cases noFailOnError <;> simp

/-- A run passes: it prints its report, and its exit status is zero. -/
def Outcome.Passes (outcome : Outcome) : Prop :=
  ∃ p, outcome.printed = .ok p ∧ p.status = 0

instance Outcome.decidablePasses (outcome : Outcome) : Decidable outcome.Passes :=
  match h : outcome.printed with
  | .ok p => decidable_of_iff (p.status = 0) (by simp [Passes, h])
  | .error failure => isFalse (by simp [Passes, h])

variable {timestamp : String}

/-- A run passes exactly if there are findings, the report on them can be emitted, and nothing is to be
complained of. -/
theorem scan_passes_iff {verdict : Findings → List String} :
    (scan ws timestamp o (.ok settings) verdict).Passes ↔
      ∃ f notices ws', o.findings ws settings = (.ok f, notices, ws') ∧
        (∃ out ws'', emit ws' settings.outputFile (reportText timestamp settings f) =
          (.ok out, ws'')) ∧
        verdict f = [] := by
  unfold scan Outcome.Passes
  rcases hfound : o.findings ws settings with ⟨found, told, ws₁⟩
  cases found with
  | error failure => simp [hfound]
  | ok findings =>
    rcases hemit : emit ws₁ settings.outputFile (reportText timestamp settings findings) with
      ⟨emitted, ws₂⟩
    cases emitted with
    | error failure => simp [hfound, hemit]
    | ok out =>
      -- all was put out, so the status is that of the verdict
      simp only [hfound, hemit, Except.ok.injEq, exists_eq_left', Prod.mk.injEq]
      constructor
      · intro hstatus
        refine ⟨findings, told, ws₁, ⟨rfl, rfl, rfl⟩, ⟨out, ws₂, hemit⟩, ?_⟩
        cases hverdict : verdict findings with
        | nil => rfl
        | cons complaint others =>
          rw [hverdict] at hstatus
          exact absurd hstatus (by simp)
      · rintro ⟨f, -, -, ⟨rfl, -, -⟩, -, hverdict⟩
        simp [hverdict]

/-- Once there are settings, only the path and the number of workers are left of the options. -/
theorem scan_congr {o' : ScanOptions} {loaded : Except SettingsError Settings}
    {verdict : Findings → List String} (hpath : o'.path = o.path) (hjobs : o'.jobs? = o.jobs?) :
    scan ws timestamp o' loaded verdict = scan ws timestamp o loaded verdict := by
  have hfound (s : Settings) : o'.findings ws s = o.findings ws s := by
    rw [ScanOptions.findings, ScanOptions.findings, hpath, hjobs]
  unfold scan
  cases loaded with
  | error reason => rfl
  | ok s => simp only [hfound]

/-- Once its settings are there, a run for continuous integration is a scan with a report for machines and a verdict.
-/
theorem run_ci_of_settings {failOnWarning noFailOnError : Bool} (h : o.settings ws [] = .ok settings) :
    Command.run ws timestamp (.ci o failOnWarning noFailOnError) =
      scan ws timestamp o (.ok { settings with reportFormat := .json })
        (verdictOf failOnWarning noFailOnError) := by
  rw [Command.run, h]
  rfl

/-- Settings with the same dataset and report, under which no project has more violations or warnings,
pass wherever others pass. -/
theorem scan_passes_of_findings {settings' : Settings} {failOnWarning noFailOnError : Bool}
    (h : (scan ws timestamp o (.ok settings) (verdictOf failOnWarning noFailOnError)).Passes)
    (hdataset : settings'.dataset = settings.dataset)
    (houtput : settings'.outputFile = settings.outputFile)
    (hfewer : ∀ registry room fs root jobs f notices,
      ({ registry, settings, room } : Audit).ofProject fs root jobs = (.ok f, notices) →
        ∃ f', ({ registry, settings := settings', room } : Audit).ofProject fs root jobs =
            (.ok f', notices) ∧
          f'.violations.Sublist f.violations ∧ f'.warnings.Sublist f.warnings) :
    (scan ws timestamp o (.ok settings') (verdictOf failOnWarning noFailOnError)).Passes := by
  obtain ⟨f, notices, ws', hfound, ⟨out, ws'', hemit⟩, hverdict⟩ := scan_passes_iff.1 h
  obtain ⟨hhas, registry, jobs, hload, hjobs, hproject⟩ :=
    ScanOptions.findings_eq_ok_iff.1 hfound
  obtain ⟨f', hproject', hviolations, hwarnings⟩ := hfewer _ _ _ _ _ _ _ hproject
  -- the same dataset is loaded, the same output is written to, and fewer uses leave nothing new to complain of
  refine scan_passes_iff.2 ⟨f', notices, ws', ?_, ?_, ?_⟩
  · rw [← hdataset] at hload
    exact ScanOptions.findings_eq_ok_iff.2 ⟨hhas, registry, jobs, hload, hjobs, hproject'⟩
  · rw [houtput]
    exact emit_isOk _ hemit
  · obtain ⟨herrors, hwarned⟩ := verdictOf_eq_nil_iff.1 hverdict
    refine verdictOf_eq_nil_iff.2 ⟨herrors.imp_left fun hnil => ?_, hwarned.imp_left fun hnil => ?_⟩
    · rw [hnil] at hviolations
      exact List.sublist_nil.1 hviolations
    · rw [hnil] at hwarnings
      exact List.sublist_nil.1 hwarnings

end CommandLine

end FeatureAudit
