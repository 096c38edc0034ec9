import FeatureAudit.Proofs.CommandLine.Passing
import FeatureAudit.Proofs.Dataset.History
import FeatureAudit.Proofs.FileSets
import FeatureAudit.Proofs.Findings.Partition

/-!
# The verdict of a run

A run that judges ends with status one or zero. Once there are settings, a registry and sources, and the
report is out, the status hangs on the uses in the sources alone: on those that are not excepted and fall
short in a way that the options of the run forbid. What is told of a failure are counts of the report.

* **`Audit.Finds`** — a use is in one of some files.
* **`Audit.ofProject_of_ok`**, **`mem_inList_foundIn_iff`** — which findings a project has, and which uses are
  in their lists.
* **`CommandLine.findings_of_scan`** — what a run that completes has found, and where the report is.
* **`Usage.Fails`**, **`complaints_iff`** — a run has complaints if a use fails it.
* **`CommandLine.GoesBy`** — the audit and the sources that a run goes by.
* **`CommandLine.JudgedBy`**, **`ci_is_judged_by_uses`** — how a run that completes is judged.
-/
namespace FeatureAudit

open FeatureAudit.Json

/-! ## Uses in files -/

namespace Audit

/-- A use is in one of the files. -/
def Finds (a : Audit) (fs : Files) (paths : List Path) (u : Usage) : Prop :=
  ∃ path ∈ paths, ∃ e, a.fileExtraction fs path = .ok e ∧ u ∈ e.usages

variable {a : Audit} {fs : Files} {paths : List Path} {u : Usage}

/-- A usage is found in a file exactly if the file can be looked into and it is among what an extraction of its text
finds. -/
theorem mem_found_iff {path : Path} :
    u ∈ (a.found fs path).usages ↔ ∃ e, a.fileExtraction fs path = .ok e ∧ u ∈ e.usages := by
  rw [found]
  cases a.fileExtraction fs path <;> simp [Except.toOption]

/-- The uses in the lists of the findings are those in the files. -/
theorem mem_inList_foundIn_iff (category : Category) :
    u ∈ (a.foundIn fs paths).inList category ↔
      a.Finds fs paths u ∧ u.category a.settings.exceptions = category := by
  have hfiles : u ∈ ((distinct (paths.mergeSort Path.le)).map fun p =>
      (p.toString, a.found fs p)).flatMap (fun f => f.2.usages) ↔ a.Finds fs paths u := by
    simp only [List.mem_flatMap, List.mem_map, exists_exists_and_eq_and, mem_distinct_iff,
      mem_mergeSort_iff, mem_found_iff, Finds]
  rw [foundIn, findings, Findings.inList_ofFiles, mem_inCategory_iff, List.flatMap_map, hfiles]
  rfl

/-- A project that has findings has those of the sources in it, as they are looked into with or without workers. -/
theorem ofProject_of_ok {root : Path} {jobs : Int} {f : Findings} {notices : List Notice}
    (h : a.ofProject fs root jobs = (.ok f, notices)) :
    ∃ paths, fs.sources root a.settings.ignoreFiles = .ok paths ∧
      f = (a.reader (sideBySide paths jobs)).foundIn fs paths := by
  unfold ofProject at h
  cases hsources : fs.sources root a.settings.ignoreFiles with
  | error reason =>
    rw [hsources] at h
    exact absurd h (by simp)
  | ok paths =>
    rw [hsources] at h
    have hfound : (a.ofPaths fs paths jobs).1 = .ok f := congrArg Prod.fst h
    -- a path with a null character would have failed
    by_cases hnull : ∃ p ∈ paths, p.hasNull = true
    · rw [ofPaths_of_error hnull] at hfound
      exact absurd hfound (by simp)
    · rw [ofPaths_of_ok fun p hp hp' => hnull ⟨p, hp, hp'⟩] at hfound
      exact ⟨paths, rfl, (Except.ok.inj hfound).symm⟩

/-- What an extraction finds depends on the registry, the target, the room and whether scripts are read, and on
nothing else of an audit. Exceptions and the rest of the settings come in later. -/
theorem extraction_congr {a' : Audit} (hregistry : a'.registry = a.registry)
    (htarget : a'.settings.target = a.settings.target) (hroom : a'.room = a.room)
    (hscripts : a'.readsScripts = a.readsScripts) (file text : String) :
    a'.extraction file text = a.extraction file text := by
  unfold extraction
  rw [hregistry, htarget, hroom, hscripts]

/-- What is found hangs on the registry, on the room and on some of the settings. -/
theorem foundIn_congr {a' : Audit} (hregistry : a'.registry = a.registry)
    (htarget : a'.settings.target = a.settings.target) (hroom : a'.room = a.room)
    (hscripts : a'.readsScripts = a.readsScripts)
    (hexceptions : a'.settings.exceptions = a.settings.exceptions)
    (hfixes : a'.settings.generateFixes = a.settings.generateFixes) :
    a'.foundIn fs paths = a.foundIn fs paths := by
  simp only [foundIn, found, fileExtraction, extraction_congr hregistry htarget hroom hscripts,
    findings, options, hexceptions, hfixes]

end Audit

/-! ## Uses that fail a run -/

/-- A use fails a run: it is not excepted, and it falls short in a way that the options forbid. -/
def Usage.Fails (exceptions : List String) (failOnWarning noFailOnError : Bool) (u : Usage) : Prop :=
  ¬ u.IsExcepted exceptions ∧
    (u.severity = .error ∧ noFailOnError = false ∨ u.severity = .warning ∧ failOnWarning = true)

namespace CommandLine

variable {a : Audit} {fs : Files} {paths : List Path} {failOnWarning noFailOnError : Bool}

/-- There are violations exactly if some usage is found that is an error and is not excepted. -/
theorem violations_foundIn_ne_nil_iff :
    (a.foundIn fs paths).violations ≠ [] ↔
      ∃ u, a.Finds fs paths u ∧ u.severity = .error ∧ ¬ u.IsExcepted a.settings.exceptions := by
  have hmem (u : Usage) : u ∈ (a.foundIn fs paths).violations ↔
      a.Finds fs paths u ∧ u.category a.settings.exceptions = .violation :=
    Audit.mem_inList_foundIn_iff .violation
  rw [Ne, List.eq_nil_iff_forall_not_mem]
  simp only [not_forall, not_not, hmem, category_eq_violation_iff]

/-- There are warnings exactly if some usage is found that is a warning and is not excepted. A usage that is neither
an error nor for information only is one. -/
theorem warnings_foundIn_ne_nil_iff :
    (a.foundIn fs paths).warnings ≠ [] ↔
      ∃ u, a.Finds fs paths u ∧ u.severity = .warning ∧ ¬ u.IsExcepted a.settings.exceptions := by
  have hmem (u : Usage) : u ∈ (a.foundIn fs paths).warnings ↔
      a.Finds fs paths u ∧ u.category a.settings.exceptions = .warning :=
    Audit.mem_inList_foundIn_iff .warning
  have hseverity (u : Usage) : u.severity ≠ .info ∧ u.severity ≠ .error ↔ u.severity = .warning := by
    cases u.severity <;> simp
  rw [Ne, List.eq_nil_iff_forall_not_mem]
  simp only [not_forall, not_not, hmem, category_eq_warning_iff, ← hseverity, and_assoc]

/-- There is something to complain of exactly if a use fails the run. -/
theorem complaints_iff :
    verdictOf failOnWarning noFailOnError (a.foundIn fs paths) ≠ [] ↔
      ∃ u, a.Finds fs paths u ∧ u.Fails a.settings.exceptions failOnWarning noFailOnError := by
  have hsome : verdictOf failOnWarning noFailOnError (a.foundIn fs paths) ≠ [] ↔
      (a.foundIn fs paths).violations ≠ [] ∧ noFailOnError = false ∨
        (a.foundIn fs paths).warnings ≠ [] ∧ failOnWarning = true := by
    rw [Ne, verdictOf_eq_nil_iff, not_and_or, not_or, not_or, Bool.not_eq_true, Bool.not_eq_false]
  rw [hsome, violations_foundIn_ne_nil_iff, warnings_foundIn_ne_nil_iff]
  constructor
  · rintro (⟨⟨u, hu, herror, hexcepted⟩, hflag⟩ | ⟨⟨u, hu, hwarning, hexcepted⟩, hflag⟩)
    · exact ⟨u, hu, hexcepted, .inl ⟨herror, hflag⟩⟩
    · exact ⟨u, hu, hexcepted, .inr ⟨hwarning, hflag⟩⟩
  · rintro ⟨u, hu, hexcepted, ⟨herror, hflag⟩ | ⟨hwarning, hflag⟩⟩
    · exact .inl ⟨⟨u, hu, herror, hexcepted⟩, hflag⟩
    · exact .inr ⟨⟨u, hu, hwarning, hexcepted⟩, hflag⟩

/-! ## Runs that complete -/

variable {ws ws' : Workspace} {o : ScanOptions} {settings : Settings} {timestamp : String}
  {verdict : Findings → List String} {p : Printed}

/-- A report is put out: it is printed, or written to the file of a name. -/
inductive PutsOut (fs : Files) (output : Option String) (text : String) (out : String) (fs' : Files) : Prop where
  | printed (h : output.getD "" = "") (hout : out = text ++ "\n") (hfiles : fs' = fs)
  | written {name : String} (h : output = some name) (hne : name ≠ "")
      (hwrite : fs.write (Path.ofString name) (Text.encode (text ++ "\n")) = .ok fs')

/-- A report that is put out without a failure is either printed or written to the file that is named for it. An empty
name counts as none. -/
theorem putsOut_of_emit {output : Option String} {text out : String} {ws'' : Workspace}
    (h : emit ws output text = (.ok out, ws'')) : PutsOut ws.files output text out ws''.files := by
  unfold emit at h
  by_cases hname : (output.getD "").isEmpty = true
  · rw [if_pos hname] at h
    obtain ⟨hout, rfl⟩ := Prod.mk.inj h
    exact .printed (by simpa using hname) (Except.ok.inj hout).symm rfl
  · cases output with
    | none => exact absurd rfl hname
    | some name =>
      rw [if_neg hname] at h
      dsimp only [Option.getD_some] at h hname
      split at h
      · exact absurd h (by simp)
      · rename_i files hwrite
        obtain ⟨-, rfl⟩ := Prod.mk.inj h
        exact .written rfl (by simpa using hname) hwrite

/-- To load a dataset leaves the files as they are, so the paths of an audit lead to the same files before and after
it. -/
theorem files_registry (dataset : Option String) : (ws.registry dataset).2.files = ws.files :=
  Workspace.files_after_load

/-- A run that completes has findings in the sources under its path, and puts out the report on them. -/
theorem findings_of_scan (h : (scan ws timestamp o (.ok settings) verdict).printed = .ok p) :
    ∃ registry paths jobs f, (ws.registry settings.dataset).1 = .ok registry ∧
      ws.files.sources (Path.ofString o.path) settings.ignoreFiles = .ok paths ∧
      o.jobs? = some jobs ∧
      f = (({ registry, settings, room := ws.room } : Audit).reader (Audit.sideBySide paths jobs)).foundIn
        ws.files paths ∧
      PutsOut ws.files settings.outputFile (reportText timestamp settings f) p.out
        (scan ws timestamp o (.ok settings) verdict).workspace.files ∧
      p.status = (if (verdict f).isEmpty then 0 else 1) ∧
      p.err = String.join ((verdict f).map (· ++ "\n")) := by
  rcases hfound : o.findings ws settings with ⟨found, notices, ws'⟩
  cases found with
  | error failure => exact absurd h (by simp [scan, hfound])
  | ok f =>
    obtain ⟨-, registry, jobs, hregistry, hjobs, hproject⟩ := ScanOptions.findings_eq_ok_iff.1 hfound
    obtain ⟨paths, hpaths, hf⟩ := Audit.ofProject_of_ok hproject
    -- loading the registry leaves the files, so the sources are those of the workspace before
    have hfiles : (ws.registry settings.dataset).2.files = ws.files := files_registry settings.dataset
    rw [hregistry] at hfiles
    dsimp only at hfiles
    rw [hfiles] at hpaths hf
    rcases hemit : emit ws' settings.outputFile (reportText timestamp settings f) with ⟨emitted, ws''⟩
    cases emitted with
    | error failure => exact absurd h (by simp [scan, hfound, hemit])
    | ok out =>
      have hscan : scan ws timestamp o (.ok settings) verdict =
          { notices, workspace := ws''
            printed := .ok
              { out, status := if (verdict f).isEmpty then 0 else 1
                err := String.join ((verdict f).map (· ++ "\n")) } } := by
        simp only [scan, hfound, hemit]
      have hputs := putsOut_of_emit hemit
      rw [hfiles] at hputs
      rw [hscan] at h ⊢
      obtain rfl := Except.ok.inj h
      exact ⟨registry, paths, jobs, f, congrArg Prod.fst hregistry, hpaths, hjobs, hf, hputs, rfl, rfl⟩

/-- What a run goes by: the settings that it loads, the registry of their dataset, the sources under its path, and the
room of the workspace, or that of a worker where several look into the sources side by side. -/
structure GoesBy (ws : Workspace) (o : ScanOptions) (a : Audit) (paths : List Path) : Prop where
  settings : o.settings ws [] = .ok a.settings
  registry : (ws.registry a.settings.dataset).1 = .ok a.registry
  scripts : a.readsScripts = true
  room : ∃ jobs, o.jobs? = some jobs ∧
    a.room = if Audit.sideBySide paths jobs then ws.room.ofWorker else ws.room
  paths : ws.files.sources (Path.ofString o.path) a.settings.ignoreFiles = .ok paths

/-- A run goes by one audit and one set of sources. -/
theorem GoesBy.unique {a' : Audit} {paths' : List Path} (h : GoesBy ws o a paths)
    (h' : GoesBy ws o a' paths') : a' = a ∧ paths' = paths := by
  obtain ⟨registry, settings, room, _⟩ := a
  obtain ⟨registry', settings', room', _⟩ := a'
  obtain ⟨hsettings, hregistry, hscripts, ⟨jobs, hjobs, hroom⟩, hpaths⟩ := h
  obtain ⟨hsettings', hregistry', hscripts', ⟨jobs', hjobs', hroom'⟩, hpaths'⟩ := h'
  dsimp only at *
  subst hscripts hscripts'
  obtain rfl := Except.ok.inj (hsettings'.symm.trans hsettings)
  obtain rfl := Except.ok.inj (hregistry'.symm.trans hregistry)
  obtain rfl := Except.ok.inj (hpaths'.symm.trans hpaths)
  -- the number of workers is one of the options, so both have the same room
  obtain rfl := Option.some.inj (hjobs'.symm.trans hjobs)
  obtain rfl := hroom'.trans hroom.symm
  exact ⟨rfl, rfl⟩

/-- With the machine format set, the text of a report is the one for machines. -/
theorem reportText_json (h : settings.reportFormat = .json) (f : Findings) :
    reportText timestamp settings f = Report.machineText timestamp f := by
  rw [reportText, h]

/-- A run that judges and completes goes by an audit and sources, and puts out the report for machines on
what is found in them. -/
theorem goesBy_of_run (h : (Command.run ws timestamp (.ci o failOnWarning noFailOnError)).printed = .ok p) :
    ∃ a paths, GoesBy ws o a paths ∧
      PutsOut ws.files a.settings.outputFile (Report.machineText timestamp (a.foundIn ws.files paths)) p.out
        (Command.run ws timestamp (.ci o failOnWarning noFailOnError)).workspace.files ∧
      p.status = (if (verdictOf failOnWarning noFailOnError (a.foundIn ws.files paths)).isEmpty then 0 else 1) ∧
      p.err = String.join
        ((verdictOf failOnWarning noFailOnError (a.foundIn ws.files paths)).map (· ++ "\n")) := by
  cases hsettings : o.settings ws [] with
  | error reason =>
    rw [Command.run, hsettings] at h
    exact absurd h (by simp [scan, Except.map])
  | ok settings =>
    rw [run_ci_of_settings hsettings] at h ⊢
    obtain ⟨registry, paths, jobs, f, hregistry, hpaths, hjobs, hf, hputs, hstatus, herr⟩ := findings_of_scan h
    let a : Audit := { registry, settings, room := ws.room }
    -- the run is with the report for machines, on which what is found does not hang
    have hsame : f = (a.reader (Audit.sideBySide paths jobs)).foundIn ws.files paths := by
      rw [hf]
      apply Audit.foundIn_congr <;> simp [a, Audit.reader_room]
    subst hsame
    rw [reportText_json rfl] at hputs
    refine ⟨a.reader (Audit.sideBySide paths jobs), paths,
      ⟨?_, ?_, ?_, ⟨jobs, hjobs, Audit.reader_room _ _⟩, ?_⟩, ?_, hstatus, herr⟩
    · rw [Audit.reader_settings, hsettings]
    · rw [Audit.reader_settings, Audit.reader_registry]
      exact hregistry
    · rw [Audit.reader_readsScripts]
    · rw [Audit.reader_settings]
      exact hpaths
    · rw [Audit.reader_settings]
      exact hputs

/-! ## What is told of failures -/

/-- A number under the counts in the summary of a report. -/
def reportCount? (report : Value) (name : String) : Option Value :=
  ((report.field? "summary").bind fun summary => summary.field? "counts").bind fun counts =>
    counts.field? name

/-- The number of errors in a report is that of the violations. -/
theorem reportCount?_errors (timestamp : String) (f : Findings) :
    reportCount? (Report.machineValue timestamp f) "errors" = some (.int f.violations.length) := rfl

/-- The number of warnings in a report is that of the warnings, excepted ones left out. -/
theorem reportCount?_warnings (timestamp : String) (f : Findings) :
    reportCount? (Report.machineValue timestamp f) "warnings" = some (.int f.warnings.length) := rfl

/-- The lines that tell of failures: how many uses fail, for each way of failing that is forbidden. -/
def failureLines (failOnWarning noFailOnError : Bool) (errors warnings : Nat) : List String :=
  (if 0 < errors ∧ noFailOnError = false then [s!"Baseline check failed: {errors} errors"] else []) ++
    (if 0 < warnings ∧ failOnWarning = true then [s!"Baseline check failed: {warnings} warnings"] else [])

/-- A verdict reads off the numbers of violations and warnings; which ones they are makes no difference to it. Each
list is looked at only for being empty or not. -/
theorem verdictOf_eq_failureLines (f : Findings) :
    verdictOf failOnWarning noFailOnError f =
      failureLines failOnWarning noFailOnError f.violations.length f.warnings.length := by
  unfold verdictOf failureLines
  cases f.violations <;> cases f.warnings <;> cases failOnWarning <;> cases noFailOnError <;> rfl

/-! ## The verdict -/

/-- A use counts for a verdict: it is in the files, it is no mere hint, and it is not excepted. -/
def Counts (a : Audit) (fs : Files) (paths : List Path) (u : Usage) : Prop :=
  a.Finds fs paths u ∧ u.severity ≠ .info ∧ ¬ u.IsExcepted a.settings.exceptions

/-- The verdict on the uses in some files: a run fails if a use fails it, and passes otherwise. -/
structure JudgedBy (a : Audit) (fs : Files) (paths : List Path) (failOnWarning noFailOnError : Bool)
    (status : Nat) : Prop where
  fails : status = 1 ↔
    ∃ u, a.Finds fs paths u ∧ u.Fails a.settings.exceptions failOnWarning noFailOnError
  passes : status = 0 ↔
    ¬ ∃ u, a.Finds fs paths u ∧ u.Fails a.settings.exceptions failOnWarning noFailOnError

/-- A status that is taken from the lines of a verdict judges an audit by its usages: there are lines exactly if some
usage fails. -/
theorem judgedBy_of_verdictOf {status : Nat}
    (h : status = if (verdictOf failOnWarning noFailOnError (a.foundIn fs paths)).isEmpty then 0 else 1) :
    JudgedBy a fs paths failOnWarning noFailOnError status := by
  -- a run passes with status 0 if there are no complaints, and fails with status 1 otherwise
  by_cases hnone : verdictOf failOnWarning noFailOnError (a.foundIn fs paths) = []
  · have hzero : status = 0 := by rw [h, hnone]; rfl
    have hfails : ¬ ∃ u, a.Finds fs paths u ∧ u.Fails a.settings.exceptions failOnWarning noFailOnError :=
      fun hfails => complaints_iff.2 hfails hnone
    exact ⟨by simp [hzero, hfails], by simp [hzero, hfails]⟩
  · have hone : status = 1 := by
      rw [h, if_neg (by simpa using hnone)]
    have hfails := complaints_iff.1 hnone
    exact ⟨by simp [hone, hfails], by simp [hone, hfails]⟩

/-- A use that fails a run counts for its verdict. -/
theorem fails_iff_counts :
    (∃ u, a.Finds fs paths u ∧ u.Fails a.settings.exceptions failOnWarning noFailOnError) ↔
      ∃ u, Counts a fs paths u ∧
        (u.severity = .error ∧ noFailOnError = false ∨ u.severity = .warning ∧ failOnWarning = true) := by
  refine exists_congr fun u => ?_
  constructor
  · rintro ⟨hu, hexcepted, hforbidden⟩
    refine ⟨⟨hu, ?_, hexcepted⟩, hforbidden⟩
    rcases hforbidden with ⟨herror, -⟩ | ⟨hwarning, -⟩
    · simp [herror]
    · simp [hwarning]
  · rintro ⟨⟨hu, -, hexcepted⟩, hforbidden⟩
    exact ⟨hu, hexcepted, hforbidden⟩

/-- Where the same uses count, the verdict is the same. -/
theorem JudgedBy.status_eq {a' : Audit} {fs' : Files} {paths' : List Path} {status status' : Nat}
    (h : JudgedBy a fs paths failOnWarning noFailOnError status)
    (h' : JudgedBy a' fs' paths' failOnWarning noFailOnError status')
    (hsame : ∀ u, Counts a' fs' paths' u ↔ Counts a fs paths u) : status' = status := by
  have hfails : status' = 1 ↔ status = 1 := by
    rw [h.fails, h'.fails, fails_iff_counts, fails_iff_counts]
    simp only [hsame]
  have hpasses : status' = 0 ↔ status = 0 := by
    rw [h.passes, h'.passes, ← h.fails, ← h'.fails, hfails]
  -- a status that is not 1 is 0, since one of the two holds of the uses
  by_cases hone : status = 1
  · rw [hone, hfails.2 hone]
  · have hzero : status = 0 := h.passes.2 fun hu => hone (h.fails.2 hu)
    rw [hzero, hpasses.2 hzero]

/-- Words that make up a command are answered by its run, as long as it puts something out. -/
theorem respond_of_run {helpText : String} {words : List String} {command : Command}
    (hwords : Invocation.ofWords words = .run command)
    (hrun : (command.run ws timestamp).printed = .ok p) :
    respond ws timestamp helpText words = command.run ws timestamp := by
  unfold respond
  rw [hwords]
  dsimp only
  unfold report
  rw [hrun]

/-- **The verdict hangs on the uses alone.** A run that judges and completes goes by an audit and the sources
under its path. It ends with status one exactly if some use in the sources is not excepted and falls short in
a way that the options forbid, and with zero otherwise. The report for machines is out, and the lines that
tell of failures state the counts in its summary. Runs with the same options of this kind, in whatever
workspaces and with whatever settings, end alike if the same uses count in them; hints and uses that are
excepted do not. -/
theorem ci_is_judged_by_uses {ws : Workspace} {timestamp helpText : String} {words : List String}
    {o : ScanOptions} {failOnWarning noFailOnError : Bool} {p : Printed}
    (hwords : Invocation.ofWords words = .run (.ci o failOnWarning noFailOnError))
    (hrun : (Command.run ws timestamp (.ci o failOnWarning noFailOnError)).printed = .ok p) :
    (respond ws timestamp helpText words).printed = .ok p ∧
      ∃ a paths, GoesBy ws o a paths ∧
        JudgedBy a ws.files paths failOnWarning noFailOnError p.status ∧
        (∃ report errors warnings,
          PutsOut ws.files a.settings.outputFile report.indented p.out
            (respond ws timestamp helpText words).workspace.files ∧
          reportCount? report "errors" = some (.int (errors : Nat)) ∧
          reportCount? report "warnings" = some (.int (warnings : Nat)) ∧
          p.err = String.join
            ((failureLines failOnWarning noFailOnError errors warnings).map (· ++ "\n"))) ∧
        ∀ ws' timestamp' o' p' a' paths',
          (Command.run ws' timestamp' (.ci o' failOnWarning noFailOnError)).printed = .ok p' →
            GoesBy ws' o' a' paths' →
              (∀ u, Counts a' ws'.files paths' u ↔ Counts a ws.files paths u) → p'.status = p.status := by
  obtain ⟨a, paths, hgoes, hputs, hstatus, herr⟩ := goesBy_of_run hrun
  have hjudged := judgedBy_of_verdictOf hstatus
  have hrespond : respond ws timestamp helpText words = _ := respond_of_run hwords hrun
  refine ⟨by rw [hrespond, hrun], a, paths, hgoes, hjudged, ?_, ?_⟩
  · rw [verdictOf_eq_failureLines] at herr
    rw [hrespond]
    exact ⟨Report.machineValue timestamp (a.foundIn ws.files paths), _, _, hputs,
      reportCount?_errors _ _, reportCount?_warnings _ _, herr⟩
  · intro ws' timestamp' o' p' a' paths' hrun' hgoes' hsame
    obtain ⟨a'', paths'', hgoes'', -, hstatus', -⟩ := goesBy_of_run hrun'
    -- the other run goes by one audit only, so it is judged by the uses that are given
    obtain ⟨rfl, rfl⟩ := hgoes'.unique hgoes''
    exact hjudged.status_eq (judgedBy_of_verdictOf hstatus') hsame

/-- A workspace with a script, and a dataset in which the feature that it uses is recent. -/
def recentWorkspace : Workspace :=
  { files :=
      ⟨[(["a.js"], .file (Text.encode "fetch(x)")),
        (["d.json"], .file (Text.encode
          "\x7b\"fetch\": \x7b\"status\": \x7b\"baseline\": \"low\"\x7d\x7d\x7d"))], []⟩
    environment := [("BASELINE_DATASET", "d.json")]
    homes := {}
    room := .usual
    loaded := [] }

/-- A use of a recent feature is a warning for the usual target, so a run that must not have warnings ends with status
1, and a use that fails it is found. -/
theorem ci_is_judged_by_uses_of_warning :
    ∃ p, (respond recentWorkspace "now" "" ["ci", "--fail-on-warning"]).printed = .ok p ∧
      p.status = 1 ∧
      ∃ a paths, GoesBy recentWorkspace {} a paths ∧
        ∃ u, a.Finds recentWorkspace.files paths u ∧ u.Fails a.settings.exceptions true false := by
  have hwords : Invocation.ofWords ["ci", "--fail-on-warning"] = .run (.ci {} true false) := by
    decide +kernel
  have hstatus : (Command.run recentWorkspace "now" (.ci {} true false)).printed.toOption.map
      Printed.status = some 1 := by
    decide +kernel
  -- the run is evaluated once, for its status; the rest is read off the theorem
  cases hrun : (Command.run recentWorkspace "now" (.ci {} true false)).printed with
  | error failure =>
    rw [hrun] at hstatus
    exact absurd hstatus (by simp [Except.toOption])
  | ok p =>
    rw [hrun] at hstatus
    have hone : p.status = 1 := Option.some.inj hstatus
    obtain ⟨hrespond, a, paths, hgoes, hjudged, -, -⟩ :=
      @ci_is_judged_by_uses recentWorkspace "now" "" _ _ _ _ p hwords hrun
    exact ⟨p, hrespond, hone, a, paths, hgoes, hjudged.fails.1 hone⟩

end CommandLine

end FeatureAudit
