import FeatureAudit.Proofs.CommandLine.Verdict
import FeatureAudit.Proofs.Discovery

/-!
# Runs that ignore more

What is found in a file does not hang on the other files. So a run that is given more patterns to ignore has, in each
list of its findings, the uses that it has without them, less those in the files that the patterns match.

* **`Audit.inList_foundIn_leftBy`** — the uses in the files that patterns leave.
* **`CommandLine.Analyzes`** — a run of `analyze` completes with its report on some findings.
* **`CommandLine.exists_analyzes_ignoring_iff`** — it does so with more patterns exactly if it does without.
* **`discovery_is_exact`** — the sources in a directory, and runs that ignore more of them.
-/
namespace FeatureAudit

open FeatureAudit.Json

/-! ## Uses in the files that are left -/

namespace Audit

variable {a : Audit} {fs : Files} {top p : Path} {paths : List Path} {u : Usage}

/-- Whatever is found in a file names this file. A file that cannot be read, or that is no source, contributes nothing
that could name another. -/
theorem file_of_mem_found (h : u ∈ (a.found fs p).usages) : u.file = p.toString := by
  obtain ⟨e, hextraction, hu⟩ := mem_found_iff.1 h
  unfold fileExtraction at hextraction
  split at hextraction
  · exact absurd hextraction (by simp)
  · rw [← Except.ok.inj hextraction] at hu
    exact absurd hu List.not_mem_nil
  · rw [← Except.ok.inj hextraction] at hu
    exact file_of_mem_extraction hu

/-- Files that are in order, each of them once, are looked into as they come. -/
theorem foundIn_of_ordered (hordered : paths.Pairwise fun p q => Path.le p q = true) (honce : paths.Nodup) :
    a.foundIn fs paths = a.findings (paths.map fun p => (p.toString, a.found fs p)) := by
  have hdistinct : distinct paths = paths := keepFirst_of_nodup (by rwa [List.map_id'])
  rw [foundIn, List.mergeSort_of_pairwise hordered, hdistinct]

/-- If the files are in order already and named once, then a list of findings is the uses of that category in the
files, one file after the other. -/
theorem inList_foundIn_of_ordered (hordered : paths.Pairwise fun p q => Path.le p q = true) (honce : paths.Nodup)
    (category : Category) :
    (a.foundIn fs paths).inList category =
      inCategory a.settings.exceptions category (paths.flatMap fun p => (a.found fs p).usages) := by
  rw [foundIn_of_ordered hordered honce, findings, Findings.inList_ofFiles, List.map_map, List.flatMap_map]
  rfl

/-- The text of a path under a directory tells whether patterns ignore it. -/
theorem mem_map_toString_ignoredBy_iff {patterns : List String} (habsolute : top.isAbsolute = true)
    (hbelow : ∀ p ∈ paths, ∃ names, names ≠ [] ∧ p = top.below names) (hp : p ∈ paths) :
    p.toString ∈ (Files.ignoredBy top patterns paths).map Path.toString ↔
      isIgnored (top.relativeTo p).toString patterns = true := by
  constructor
  · -- a path is told by its text as it is told by its names, since both paths go on from the same directory
    intro hmem
    obtain ⟨q, hq, htext⟩ := List.mem_map.1 hmem
    obtain ⟨hqpaths, hignored⟩ := List.mem_filter.1 hq
    obtain ⟨names, hnames, rfl⟩ := hbelow p hp
    obtain ⟨names', hnames', rfl⟩ := hbelow q hqpaths
    rw [Path.relativeTo_below] at hignored ⊢
    rwa [← Path.toString_below_inj hnames' hnames habsolute htext]
  · intro hignored
    exact List.mem_map_of_mem (List.mem_filter.2 ⟨hp, hignored⟩)

/-- The uses in the files that patterns leave are those that are not located in a file that they ignore. -/
theorem inList_foundIn_leftBy {patterns : List String} (habsolute : top.isAbsolute = true)
    (hbelow : ∀ p ∈ paths, ∃ names, names ≠ [] ∧ p = top.below names)
    (hordered : paths.Pairwise fun p q => Path.le p q = true) (honce : paths.Nodup) (category : Category) :
    (a.foundIn fs (Files.leftBy top patterns paths)).inList category =
      ((a.foundIn fs paths).inList category).filter
        fun u => u.file ∉ (Files.ignoredBy top patterns paths).map Path.toString := by
  have hleft : (Files.leftBy top patterns paths).Pairwise fun p q => Path.le p q = true := hordered.filter _
  have hleftOnce : (Files.leftBy top patterns paths).Nodup := honce.filter _
  rw [inList_foundIn_of_ordered hordered honce, inList_foundIn_of_ordered hleft hleftOnce, inCategory, inCategory,
    List.filter_comm]
  congr 1
  -- a use is in its own file, so to leave out files and to leave out uses by their files is the same
  refine (filter_flatMap_of_located fun p hp u hu => ?_).symm
  have hignored : p.toString ∈ (Files.ignoredBy top patterns paths).map Path.toString ↔
      isIgnored (top.relativeTo p).toString patterns = true :=
    mem_map_toString_ignoredBy_iff habsolute hbelow hp
  rw [← file_of_mem_found hu] at hignored
  rw [Bool.eq_iff_iff, decide_eq_true_iff, hignored, Bool.not_eq_true']
  simp

/-- The same audit with more patterns to ignore. -/
def ignoring (a : Audit) (more : List String) : Audit :=
  { a with settings := { a.settings with ignoreFiles := a.settings.ignoreFiles ++ more } }

/-- What is found in given files does not hang on the patterns, nor on workers if both audits have them, or neither, or if
the files fit alike. -/
theorem foundIn_reader_ignoring {more : List String} {beside beside' : Bool}
    (hworkers : beside' = beside ∨ ∀ p ∈ paths, a.room.FitsAlike fs p) :
    ((a.ignoring more).reader beside').foundIn fs paths = (a.reader beside).foundIn fs paths := by
  have hpatterns : ((a.ignoring more).reader beside').foundIn fs paths = (a.reader beside').foundIn fs paths := by
    cases beside' <;> (apply foundIn_congr <;> rfl)
  rw [hpatterns]
  rcases hworkers with rfl | hfits
  · rfl
  · rw [foundIn_reader hfits, foundIn_reader hfits]

/-- A project is audited without failure if its sources are found and no null character is in their paths. All other
trouble with a file is told in a notice. -/
theorem ofProject_isOk {root : Path} (hsources : fs.sources root a.settings.ignoreFiles = .ok paths)
    (hnull : ∀ p ∈ paths, ¬ p.hasNull = true) (jobs : Int) :
    ∃ notices, a.ofProject fs root jobs = (.ok ((a.reader (sideBySide paths jobs)).foundIn fs paths), notices) := by
  refine ⟨(a.ofPaths fs paths jobs).2, ?_⟩
  rw [ofProject, hsources]
  exact Prod.ext (ofPaths_of_ok hnull jobs) rfl

end Audit

namespace CommandLine

/-! ## Runs of `analyze` -/

/-- The overrides that the options of `analyze` ask for, next to those of every audit. -/
def analyzeOverrides (format : OptionValue) (generateFixes : Bool) : List (String × Value) :=
  overrideOf "report_format" format ++ if generateFixes then [("generate_fixes", .bool true)] else []

/-- The same options, with more patterns to ignore. -/
def ScanOptions.ignoring (o : ScanOptions) (more : List String) : ScanOptions := { o with ignore := o.ignore ++ more }

/-- A run of `analyze` has some settings, and completes with its report on some findings. -/
structure Analyzes (ws : Workspace) (timestamp : String) (o : ScanOptions) (format : OptionValue)
    (generateFixes : Bool) (settings : Settings) (f : Findings) : Prop where
  loaded : o.settings ws (analyzeOverrides format generateFixes) = .ok settings
  found : ∃ notices ws', o.findings ws settings = (.ok f, notices, ws')
  passes : (Command.run ws timestamp (.analyze o format generateFixes)).Passes

variable {ws : Workspace} {timestamp : String} {o : ScanOptions} {format : OptionValue} {generateFixes : Bool}
  {settings : Settings} {f : Findings} {top : Path}

/-- Once its settings are there, a run for a report is a scan that complains of nothing. -/
theorem run_analyze_of_settings (h : o.settings ws (analyzeOverrides format generateFixes) = .ok settings) :
    Command.run ws timestamp (.analyze o format generateFixes) = scan ws timestamp o (.ok settings) fun _ => [] := by
  rw [← h]
  rfl

/-- A run of `analyze` completes exactly if there are findings and the report on them can be put out. -/
theorem analyzes_iff :
    Analyzes ws timestamp o format generateFixes settings f ↔
      o.settings ws (analyzeOverrides format generateFixes) = .ok settings ∧
        ∃ notices ws', o.findings ws settings = (.ok f, notices, ws') ∧
          ∃ out ws'', emit ws' settings.outputFile (reportText timestamp settings f) = (.ok out, ws'') := by
  constructor
  · rintro ⟨hsettings, ⟨notices, ws', hfound⟩, hpasses⟩
    rw [run_analyze_of_settings hsettings] at hpasses
    obtain ⟨f', notices', ws'', hfound', hemit, -⟩ := scan_passes_iff.1 hpasses
    rw [hfound] at hfound'
    obtain ⟨hf, hrest⟩ := Prod.mk.inj hfound'
    obtain ⟨-, rfl⟩ := Prod.mk.inj hrest
    -- the run of the command and the findings alone are one computation, so they found the same
    obtain rfl := Except.ok.inj hf
    exact ⟨hsettings, notices, ws', hfound, hemit⟩
  · rintro ⟨hsettings, notices, ws', hfound, hemit⟩
    refine ⟨hsettings, ⟨notices, ws', hfound⟩, ?_⟩
    rw [run_analyze_of_settings hsettings]
    exact scan_passes_iff.2 ⟨f, notices, ws', hfound, hemit, rfl⟩

/-- More patterns on a command line are patterns behind those of the settings, and nothing else of the settings
changes. -/
theorem settings_ignoring (o : ScanOptions) (ws : Workspace) (overrides : List (String × Value)) (more : List String) :
    (o.ignoring more).settings ws overrides =
      (o.settings ws overrides).map fun s => { s with ignoreFiles := s.ignoreFiles ++ more } := by
  unfold ScanOptions.settings ScanOptions.ignoring
  dsimp only
  cases Settings.load ws.room ws.files ws.environment _ with
  | error reason => rfl
  | ok s =>
    simp only [Except.map, List.append_assoc]

/-- Whatever is found, it can be reported: the path leads somewhere, the dataset gives the registry, the number of workers
is there, and a report can be put out. -/
structure CanReport (ws : Workspace) (o : ScanOptions) (dataset output : Option String) (registry : Registry)
    (jobs : Int) : Prop where
  path : ws.files.has (Path.ofString o.path) = .ok true
  registry : (ws.registry dataset).1 = .ok registry
  jobs : o.jobs? = some jobs
  output : ∃ text out ws', emit (ws.registry dataset).2 output text = (.ok out, ws')

/-- On a directory a run of `analyze` completes if what is found can be reported; that is what is found in the sources
in the directory. -/
theorem analyzes_iff_of_isDirectory (htree : ws.files.IsTree)
    (hroot : ws.files.IsDirectory (Path.ofString o.path) top) :
    Analyzes ws timestamp o format generateFixes settings f ↔
      o.settings ws (analyzeOverrides format generateFixes) = .ok settings ∧
        ∃ registry jobs, CanReport ws o settings.dataset settings.outputFile registry jobs ∧
          f = (({ registry, settings, room := ws.room } : Audit).reader
              (Audit.sideBySide (ws.files.sourcesInside top settings.ignoreFiles) jobs)).foundIn ws.files
            (ws.files.sourcesInside top settings.ignoreFiles) := by
  have hsources := Files.sources_of_isDirectory hroot settings.ignoreFiles
  have hfiles : (ws.registry settings.dataset).2.files = ws.files := files_registry settings.dataset
  rw [analyzes_iff]
  refine and_congr_right fun _ => ?_
  constructor
  · rintro ⟨notices, ws', hfound, out, ws'', hemit⟩
    obtain ⟨hhas, registry, jobs, hregistry, hjobs, hproject⟩ := ScanOptions.findings_eq_ok_iff.1 hfound
    rw [hregistry] at hfiles
    dsimp only at hfiles
    -- the files that were audited are the sources in the directory, and no others
    obtain ⟨paths, hpaths, rfl⟩ := Audit.ofProject_of_ok hproject
    rw [hfiles, hsources] at hpaths
    obtain rfl := Except.ok.inj hpaths
    refine ⟨registry, jobs, ⟨hhas, by rw [hregistry], hjobs, ⟨_, out, ws'', by rw [hregistry]; exact hemit⟩⟩, ?_⟩
    rw [hfiles]
  · rintro ⟨registry, jobs, ⟨hhas, hregistry, hjobs, ⟨text, out, ws'', hemit⟩⟩, rfl⟩
    have hnull : ∀ p ∈ ws.files.sourcesInside top settings.ignoreFiles, ¬ p.hasNull = true :=
      fun p hp => Files.not_hasNull_of_mem_sourcesInside htree hp
    obtain ⟨notices, hproject⟩ :=
      Audit.ofProject_isOk (a := { registry, settings, room := ws.room }) hsources hnull jobs
    rw [← hfiles] at hproject
    refine ⟨notices, (ws.registry settings.dataset).2, ?_, emit_isOk _ hemit⟩
    rw [ScanOptions.findings_eq_ok_iff]
    refine ⟨hhas, registry, jobs, Prod.ext hregistry rfl, hjobs, ?_⟩
    rw [hfiles] at hproject ⊢
    exact hproject

/-- That hangs on the path and on the number of workers alone. -/
theorem CanReport.congr {o' : ScanOptions} {dataset output : Option String} {registry : Registry} {jobs : Int}
    (h : CanReport ws o dataset output registry jobs) (hpath : o'.path = o.path) (hjobs : o'.jobs? = o.jobs?) :
    CanReport ws o' dataset output registry jobs where
  path := by rw [hpath, h.path]
  registry := h.registry
  jobs := by rw [hjobs, h.jobs]
  output := h.output

/-- With more patterns the same can be reported, so a run completes with them exactly if it does without. -/
theorem exists_analyzes_ignoring_iff (htree : ws.files.IsTree)
    (hroot : ws.files.IsDirectory (Path.ofString o.path) top) (more : List String) :
    (∃ settings f, Analyzes ws timestamp (o.ignoring more) format generateFixes settings f) ↔
      ∃ settings f, Analyzes ws timestamp o format generateFixes settings f := by
  have hroot' : ws.files.IsDirectory (Path.ofString (o.ignoring more).path) top := hroot
  constructor
  · rintro ⟨settings', f', h⟩
    obtain ⟨hloaded, registry, jobs, hreport, -⟩ := (analyzes_iff_of_isDirectory htree hroot').1 h
    rw [settings_ignoring] at hloaded
    cases hsettings : o.settings ws (analyzeOverrides format generateFixes) with
    | error reason =>
      rw [hsettings] at hloaded
      exact absurd hloaded (by simp [Except.map])
    | ok settings =>
      rw [hsettings] at hloaded
      obtain rfl := Except.ok.inj hloaded
      exact ⟨settings, _,
        (analyzes_iff_of_isDirectory htree hroot).2 ⟨hsettings, registry, jobs, hreport.congr rfl rfl, rfl⟩⟩
  · -- the same settings, with the patterns behind their own
    rintro ⟨settings, f, h⟩
    obtain ⟨hloaded, registry, jobs, hreport, -⟩ := (analyzes_iff_of_isDirectory htree hroot).1 h
    have hloaded' : (o.ignoring more).settings ws (analyzeOverrides format generateFixes) =
        .ok { settings with ignoreFiles := settings.ignoreFiles ++ more } := by
      rw [settings_ignoring, hloaded]
      rfl
    exact ⟨_, _, (analyzes_iff_of_isDirectory htree hroot').2 ⟨hloaded', registry, jobs, hreport.congr rfl rfl, rfl⟩⟩

/-- The lists of a run that ignores more are those of the run that does not, less the uses in the files that it
ignores. -/
theorem inList_of_analyzes_ignoring (htree : ws.files.IsTree)
    (hroot : ws.files.IsDirectory (Path.ofString o.path) top) {more : List String} {settings' : Settings} {f' : Findings}
    {jobs : Int} (h : Analyzes ws timestamp o format generateFixes settings f)
    (h' : Analyzes ws timestamp (o.ignoring more) format generateFixes settings' f') (hjobs : o.jobs? = some jobs)
    (hworkers :
      Audit.sideBySide (Files.leftBy top more (ws.files.sourcesInside top settings.ignoreFiles)) jobs =
          Audit.sideBySide (ws.files.sourcesInside top settings.ignoreFiles) jobs ∨
        ∀ p ∈ ws.files.sourcesInside top settings.ignoreFiles, ws.room.FitsAlike ws.files p) (category : Category) :
    f'.inList category = (f.inList category).filter fun u =>
      u.file ∉ (Files.ignoredBy top more (ws.files.sourcesInside top settings.ignoreFiles)).map Path.toString := by
  have hroot' : ws.files.IsDirectory (Path.ofString (o.ignoring more).path) top := hroot
  obtain ⟨hloaded, registry, jobs₁, hreport, rfl⟩ := (analyzes_iff_of_isDirectory htree hroot).1 h
  obtain ⟨hloaded', registry', jobs₂, hreport', rfl⟩ := (analyzes_iff_of_isDirectory htree hroot').1 h'
  rw [settings_ignoring, hloaded] at hloaded'
  obtain rfl := Except.ok.inj hloaded'
  -- both runs have the same registry and as many workers
  obtain rfl := Except.ok.inj (hreport'.registry.symm.trans hreport.registry)
  obtain rfl := Option.some.inj (hjobs.symm.trans hreport.jobs)
  obtain rfl := Option.some.inj (hjobs.symm.trans hreport'.jobs)
  dsimp only
  rw [Files.sourcesInside_append]
  generalize Audit.sideBySide (Files.leftBy top more (ws.files.sourcesInside top settings.ignoreFiles)) jobs = beside'
    at hworkers ⊢
  have hleft : beside' = Audit.sideBySide (ws.files.sourcesInside top settings.ignoreFiles) jobs ∨
      ∀ p ∈ Files.leftBy top more (ws.files.sourcesInside top settings.ignoreFiles), ws.room.FitsAlike ws.files p :=
    hworkers.imp_right fun hfits p hp => hfits p (List.mem_of_mem_filter hp)
  show ((Audit.reader (Audit.ignoring { registry := registry', settings, room := ws.room } more) beside').foundIn
    ws.files _).inList category = _
  rw [Audit.foundIn_reader_ignoring hleft, Audit.inList_foundIn_leftBy (Files.isAbsolute_of_resolve hroot.resolved)
    (fun p hp => Files.exists_below_of_mem htree hroot hp) Files.sourcesInside_pairwise_le
    (Files.nodup_sourcesInside htree)]

/-- **Discovery finds exactly the sources.** In a directory of a tree the sources that are found come in strict order,
name by name; they are the files of the known suffixes on the way to which no directory is excluded, and which no
pattern ignores; and they are the same in whatever order the tree lists its entries. More patterns take away the files
that they match. So a run of `analyze` that ignores more completes exactly if it does without, and each list of its
findings has the uses of that run, less those that are located in the files that it ignores. That is so whenever both runs
look into their files one after another, as they do if no number of workers is asked for, or both leave them to workers;
and in any case if the files fit alike. -/
theorem discovery_is_exact {fs : Files} (htree : fs.IsTree) {root top : Path} (hroot : fs.IsDirectory root top)
    (ignore : List String) :
    ∃ paths, fs.sources root ignore = .ok paths ∧
      paths.Pairwise (fun p q => p.allParts < q.allParts) ∧
      (∀ p, p ∈ paths ↔ fs.IsSourceUnder top ignore p) ∧
      (∀ fs' : Files, fs'.entries.Perm fs.entries → fs'.directory = fs.directory →
        fs'.sources root ignore = .ok paths) ∧
      (∀ more, fs.sources root (ignore ++ more) = .ok (Files.leftBy top more paths)) ∧
      ∀ (ws : Workspace) (timestamp : String) (o : ScanOptions) (format : OptionValue) (generateFixes : Bool)
        (more : List String), ws.files = fs → Path.ofString o.path = root →
        ((∃ settings f, Analyzes ws timestamp (o.ignoring more) format generateFixes settings f) ↔
            ∃ settings f, Analyzes ws timestamp o format generateFixes settings f) ∧
          ∀ settings settings' f f' jobs, Analyzes ws timestamp o format generateFixes settings f →
            settings.ignoreFiles = ignore →
            Analyzes ws timestamp (o.ignoring more) format generateFixes settings' f' →
            o.jobs? = some jobs →
            (Audit.sideBySide (Files.leftBy top more paths) jobs = Audit.sideBySide paths jobs ∨
              ∀ p ∈ paths, ws.room.FitsAlike fs p) →
            ∀ category, f'.inList category = (f.inList category).filter fun u =>
              u.file ∉ (Files.ignoredBy top more paths).map Path.toString := by
  refine ⟨fs.sourcesInside top ignore, Files.sources_of_isDirectory hroot ignore, Files.sourcesInside_pairwise htree,
    fun p => Files.mem_sourcesInside_iff htree hroot, fun fs' hperm hdirectory => ?_, fun more => ?_, ?_⟩
  · rw [Files.sources_of_isDirectory (hroot.of_perm htree hperm hdirectory), Files.sourcesInside_perm hperm]
  · rw [Files.sources_of_isDirectory hroot, Files.sourcesInside_append]
  · rintro ws timestamp o format generateFixes more rfl rfl
    refine ⟨exists_analyzes_ignoring_iff htree hroot more, ?_⟩
    rintro settings settings' f f' jobs h rfl h' hjobs hworkers category
    exact inList_of_analyzes_ignoring htree hroot h h' hjobs hworkers category

/-- A workspace with a script of its own and one that was made, next to a dataset. -/
def madeWorkspace : Workspace :=
  { files :=
      ⟨[(["made", "b.js"], .file (Text.encode "fetch(y)")), (["made"], .directory),
        (["a.js"], .file (Text.encode "fetch(x)")),
        (["d.json"], .file (Text.encode
          "\x7b\"fetch\": \x7b\"status\": \x7b\"baseline\": \"low\"\x7d\x7d\x7d"))], []⟩
    environment := [("BASELINE_DATASET", "d.json")]
    homes := {}
    room := .usual
    loaded := [] }

/-- The files of the workspace make up a tree: each is listed once, below directories, and has a name. -/
theorem madeWorkspace_isTree : madeWorkspace.files.IsTree where
  once := by decide
  below := by decide
  named := by simp [madeWorkspace]

/-- The working directory of the workspace is its root. -/
theorem madeWorkspace_isDirectory : madeWorkspace.files.IsDirectory (Path.ofString ".") ⟨"/", []⟩ where
  resolved := rfl
  found := rfl

/-- The script that was made is found, and is gone with its uses where a run ignores what is made. -/
theorem discovery_is_exact_of_made :
    madeWorkspace.files.IsTree ∧ madeWorkspace.files.IsDirectory (Path.ofString ".") ⟨"/", []⟩ ∧
      ∃ paths, madeWorkspace.files.sources (Path.ofString ".") defaultIgnore = .ok paths ∧
        ⟨"/", ["made", "b.js"]⟩ ∈ Files.ignoredBy ⟨"/", []⟩ ["made/*"] paths ∧
        ∃ settings settings' f f', Analyzes madeWorkspace "now" {} .absent false settings f ∧
          settings.ignoreFiles = defaultIgnore ∧
          Analyzes madeWorkspace "now" (ScanOptions.ignoring {} ["made/*"]) .absent false settings' f' ∧
          ∀ category, f'.inList category = (f.inList category).filter fun u =>
            u.file ∉ (Files.ignoredBy ⟨"/", []⟩ ["made/*"] paths).map Path.toString := by
  obtain ⟨paths, hpaths, -, hsources, -, -, hruns⟩ :=
    discovery_is_exact madeWorkspace_isTree madeWorkspace_isDirectory defaultIgnore
  refine ⟨madeWorkspace_isTree, madeWorkspace_isDirectory, paths, hpaths, ?_, ?_⟩
  · have hsource : madeWorkspace.files.IsSourceUnder ⟨"/", []⟩ defaultIgnore ⟨"/", ["made", "b.js"]⟩ :=
      { below := ⟨["made", "b.js"], rfl⟩
        file := ⟨Text.encode "fetch(y)", rfl⟩
        suffix := by decide +kernel
        included := by decide
        kept := by decide +kernel }
    exact List.mem_filter.2 ⟨(hsources _).2 hsource, by decide +kernel⟩
  · have hregistry : (madeWorkspace.registry (some "d.json")).1.toOption.isSome = true := by decide +kernel
    obtain ⟨registry, hregistry⟩ := Option.isSome_iff_exists.1 hregistry
    have hreport : CanReport madeWorkspace {} (some "d.json") none registry 1 :=
      { path := by decide +kernel
        registry := Workspace.toOption_eq_some_iff.1 hregistry
        jobs := rfl
        output := ⟨"", _, _, rfl⟩ }
    have hf : Analyzes madeWorkspace "now" {} .absent false { dataset := some "d.json" } _ :=
      (analyzes_iff_of_isDirectory madeWorkspace_isTree madeWorkspace_isDirectory).2
        ⟨by decide +kernel, registry, 1, hreport, rfl⟩
    obtain ⟨hcompletes, hlists⟩ := hruns madeWorkspace "now" {} .absent false ["made/*"] rfl rfl
    obtain ⟨settings', f', hf'⟩ := hcompletes.2 ⟨_, _, hf⟩
    exact ⟨_, settings', _, f', hf, rfl, hf', hlists _ settings' _ f' 1 hf rfl hf' rfl (.inl rfl)⟩

end CommandLine

end FeatureAudit
