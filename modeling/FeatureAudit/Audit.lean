import FeatureAudit.Datasets
import FeatureAudit.Findings
import FeatureAudit.Script.Lines
import FeatureAudit.Stylesheet.Candidates

/-!
An audit: sources are looked into one by one, and their uses become findings.

* `Audit.extraction` looks into one source; its name tells what kind it is.
* `Audit.ofSources`, `Audit.ofPaths` and `Audit.ofProject` are audits of texts, of files, and of
  the sources of a project.

What goes wrong with one source is a notice; the source then has no uses. Only a path that no file
can have ends an audit of files.
-/
namespace FeatureAudit

open FeatureAudit.Text

/-- What an audit goes by: a registry, the settings, and the room that there is for calls. Scripts may be
passed over: then they only count as files. -/
structure Audit where
  registry : Registry
  settings : Settings
  room : Room
  readsScripts : Bool := true

namespace Audit

/-- The uses in a source and the notices about it. A source of unknown kind has none. -/
def extraction (a : Audit) (file text : String) : Extraction :=
  match fileKind? file with
  | none => ⟨[], []⟩
  | some .stylesheet =>
    match Stylesheet.extract a.room.entries a.registry a.settings.target file text with
    | .ok e => e
    | .error excess => ⟨[], [.tooMuch file excess]⟩
  | some .script =>
    if a.readsScripts then Script.extract a.registry a.settings.target file text else ⟨[], []⟩

/-- The text of a source: what is no UTF-8 is left out, and every line ends in a line feed. -/
def sourceText (bytes : List UInt8) : String :=
  String.ofList (universalNewlines (decodeLossy bytes))

/-- The uses in a file and the notices about it. A path with a null character is no path of a file;
other files that cannot be read have no uses. -/
def fileExtraction (a : Audit) (fs : Files) (p : Path) : Except AccessError Extraction :=
  match fs.read p with
  | .error .nullCharacter => .error .nullCharacter
  | .error reason => .ok ⟨[], [.unreadable p.toString (reason.message p.toString)]⟩
  | .ok bytes => .ok (a.extraction p.toString (sourceText bytes))

/-- The extractions of files and the notices about them. Where one ends the audit, those after it
are still told of if the files are looked into side by side. -/
def fileExtractions (a : Audit) (fs : Files) (sideBySide : Bool) :
    List Path → Except AccessError (List (Path × Extraction)) × List Notice
  | [] => (.ok [], [])
  | p :: rest =>
    let (others, notices) := a.fileExtractions fs sideBySide rest
    match a.fileExtraction fs p with
    | .error reason => (.error reason, if sideBySide then notices else [])
    | .ok e => (others.map ((p, e) :: ·), e.notices ++ notices)

/-- The same audit as a worker makes it. -/
def inWorker (a : Audit) : Audit := { a with room := a.room.ofWorker }

/-- The audit that looks into files: made in workers if they are looked into side by side. -/
def reader (a : Audit) (sideBySide : Bool) : Audit := if sideBySide then a.inWorker else a

@[simp]
theorem reader_registry (a : Audit) (sideBySide : Bool) : (a.reader sideBySide).registry = a.registry := by
  cases sideBySide <;> rfl

@[simp]
theorem reader_settings (a : Audit) (sideBySide : Bool) : (a.reader sideBySide).settings = a.settings := by
  cases sideBySide <;> rfl

@[simp]
theorem reader_readsScripts (a : Audit) (sideBySide : Bool) :
    (a.reader sideBySide).readsScripts = a.readsScripts := by
  cases sideBySide <;> rfl

theorem reader_room (a : Audit) (sideBySide : Bool) :
    (a.reader sideBySide).room = if sideBySide then a.room.ofWorker else a.room := by
  cases sideBySide <;> rfl

/-- How findings are drawn in an audit. -/
def options (a : Audit) : FindingsOptions :=
  { exceptions := a.settings.exceptions, wantsEnhancements := a.settings.generateFixes }

/-- The findings from the extractions of some files. -/
def findings (a : Audit) (files : List (String × Extraction)) : Findings :=
  Findings.ofFiles (files.map fun f => (f.1, f.2.usages)) a.options

/-- The order of sources: by name, and by text where the names are the same. -/
def sourceLe (s t : String × String) : Bool := if s.1 == t.1 then textLe s.2 t.2 else textLe s.1 t.1

/-- The audit of named texts. -/
def ofSources (a : Audit) (sources : List (String × String)) : Findings × List Notice :=
  let files := (sources.mergeSort sourceLe).map fun s => (s.1, a.extraction s.1 s.2)
  (a.findings files, files.flatMap fun f => f.2.notices)

/-- Whether some number of workers look into files side by side. -/
def sideBySide (paths : List Path) (jobs : Int) : Bool := decide (1 < jobs) && decide (1 < paths.length)

/-- The audit of files by some number of workers; several look into files side by side. A path that
is given twice is read twice and counts once. -/
def ofPaths (a : Audit) (fs : Files) (paths : List Path) (jobs : Int) :
    Except AccessError Findings × List Notice :=
  let beside := sideBySide paths jobs
  let (files, notices) := (a.reader beside).fileExtractions fs beside (paths.mergeSort Path.le)
  (files.map fun files =>
    a.findings ((keepFirst Prod.fst files).map fun f => (f.1.toString, f.2)), notices)

/-- The audit of the sources that a path leads to. -/
def ofProject (a : Audit) (fs : Files) (root : Path) (jobs : Int) :
    Except AccessError Findings × List Notice :=
  match fs.sources root a.settings.ignoreFiles with
  | .error reason => (.error reason, [])
  | .ok paths => a.ofPaths fs paths jobs

end Audit

end FeatureAudit
