import Mathlib.Logic.ExistsUnique
import FeatureAudit.Proofs.Advice
import FeatureAudit.Proofs.CommandLine.Ignoring
import FeatureAudit.Proofs.PointQuery

/-!
# Requests for an audit

A request for an audit is looked at as a whole before anything is audited: first the settings, then what it asks for.
Code goes before files and files before a folder. Of several files the first that cannot be used tells what the request
is refused with, however many come before it and after it; none of them is looked into then, and nothing is loaded. A model
is asked for advice last, about what has been found.

* **`Service.AnalyzeBody.Asks`** — what a body asks to audit, of all that it holds.
* **`Service.PathFault`**, **`Service.Refused`** — what is wrong with a path, and with what is asked for.
* **`Service.Admitted`** — what is audited where nothing is wrong.
* **`Service.refused_or_admitted`** — there is nothing between.
* **`Service.audit_requests_are_checked_first`** — the answers to requests for an audit.
-/
namespace FeatureAudit

open FeatureAudit.Json FeatureAudit.Text

namespace Service

variable {fs : Files} {noun raw message : String} {raws : List String} {status : Nat}

/-! ## Paths that are named -/

/-- A path that can be used: it is absolute and leads somewhere. -/
structure IsUsable (fs : Files) (raw : String) : Prop where
  absolute : (Path.ofString raw).isAbsolute = true
  found : ∃ found, fs.find (Path.ofString raw) = .ok found

/-- What is wrong with a path: it is not absolute, or it leads nowhere. -/
inductive PathFault (fs : Files) (noun raw : String) : Nat → String → Prop where
  | relative (h : ¬ (Path.ofString raw).isAbsolute = true) : PathFault fs noun raw 400 s!"{noun} must be absolute"
  | absent (habsolute : (Path.ofString raw).isAbsolute = true) (h : ¬ ∃ found, fs.find (Path.ofString raw) = .ok found) :
      PathFault fs noun raw 404 s!"Path not found: {raw}"

/-- The system can tell whether the path leads somewhere. -/
def CanTell (fs : Files) (raw : String) : Prop := ∃ there, fs.has (Path.ofString raw) = .ok there

instance (fs : Files) (raw : String) : Decidable (CanTell fs raw) :=
  decidable_of_iff ((fs.has (Path.ofString raw)).toOption.isSome = true) <| by
    rw [CanTell]
    cases fs.has (Path.ofString raw) <;> simp [Except.toOption]

/-- A path that cannot be used has a fault that says why: it is relative, or it leads nowhere. Being relative is told
first. -/
theorem exists_pathFault_of_not_isUsable (noun : String) (h : ¬ IsUsable fs raw) :
    ∃ status message, PathFault fs noun raw status message := by
  by_cases habsolute : (Path.ofString raw).isAbsolute = true
  · exact ⟨404, _, .absent habsolute fun hfound => h ⟨habsolute, hfound⟩⟩
  · exact ⟨400, _, .relative habsolute⟩

/-- A path that can be used is accepted as it is: it is absolute and leads somewhere, which is all that is asked of
it. -/
theorem requirePath_of_isUsable (noun : String) (h : IsUsable fs raw) :
    requirePath fs noun raw = .ok (Path.ofString raw) := by
  rw [requirePath, if_neg (by simp [h.absolute]), Files.has_eq_ok_true_iff.2 h.found]

/-- A path with a fault is refused with the status and the message of its fault, as long as one can tell whether
something is there. -/
theorem requirePath_of_pathFault (htell : CanTell fs raw) (h : PathFault fs noun raw status message) :
    requirePath fs noun raw = .error (detail status message) := by
  rw [requirePath]
  cases h with
  | relative h => rw [if_pos (by simpa using h)]
  | absent habsolute h =>
    obtain ⟨there, hthere⟩ := htell
    rw [if_neg (by simp [habsolute]), hthere]
    cases there with
    | true => exact absurd (Files.has_eq_ok_true_iff.1 hthere) h
    | false => rfl

/-- Paths that can all be used are accepted, each in its place. The induction is on the paths. -/
theorem requirePaths_of_isUsable (noun : String) (h : ∀ raw ∈ raws, IsUsable fs raw) :
    requirePaths fs noun raws = .ok (raws.map Path.ofString) := by
  induction raws with
  | nil => rfl
  | cons raw rest ih =>
    obtain ⟨hraw, hrest⟩ := List.forall_mem_cons.1 h
    rw [requirePaths, requirePath_of_isUsable noun hraw]
    dsimp only
    rw [ih hrest]
    rfl

/-- The first path that something is wrong with is the one that counts. -/
theorem requirePaths_of_pathFault {front rest : List String} (hfront : ∀ other ∈ front, IsUsable fs other)
    (htell : CanTell fs raw) (h : PathFault fs noun raw status message) :
    requirePaths fs noun (front ++ raw :: rest) = .error (detail status message) := by
  -- every path in front is accepted, so the walk comes to the one at fault, and what is after it is not looked at
  induction front with
  | nil =>
    show requirePaths fs noun (raw :: rest) = _
    rw [requirePaths, requirePath_of_pathFault htell h]
  | cons other front ih =>
    obtain ⟨hother, hfront⟩ := List.forall_mem_cons.1 hfront
    show requirePaths fs noun (other :: (front ++ raw :: rest)) = _
    rw [requirePaths, requirePath_of_isUsable noun hother]
    dsimp only
    rw [ih hfront]
    rfl

/-- Of some paths all can be used, or there is a first one that cannot, with paths before it that can. It is the fault
of this one that is told. -/
theorem all_isUsable_or_first_fault (fs : Files) (noun : String) (raws : List String) :
    (∀ raw ∈ raws, IsUsable fs raw) ∨
      ∃ front raw rest status message, raws = front ++ raw :: rest ∧ (∀ other ∈ front, IsUsable fs other) ∧
        PathFault fs noun raw status message := by
  induction raws with
  | nil => exact .inl fun raw hraw => absurd hraw List.not_mem_nil
  | cons raw rest ih =>
    by_cases hraw : IsUsable fs raw
    · rcases ih with hrest | ⟨front, other, rest, status, message, rfl, hfront, hfault⟩
      · exact .inl (List.forall_mem_cons.2 ⟨hraw, hrest⟩)
      · exact .inr ⟨raw :: front, other, rest, status, message, rfl, List.forall_mem_cons.2 ⟨hraw, hfront⟩, hfault⟩
    · -- nothing stands before the first path, so if it is at fault it is the first to be
      obtain ⟨status, message, hfault⟩ := exists_pathFault_of_not_isUsable noun hraw
      exact .inr ⟨[], raw, rest, status, message, rfl, fun other hother => absurd hother List.not_mem_nil, hfault⟩

/-! ## What a body asks for -/

/-- What is to be audited, as a body tells it. -/
inductive Wanted where
  | code (name : Option String) (text : String)
  | files (raws : List String)
  | folder (raw : String)
  | nothing

/-- What a body asks to audit: its code if it has some, even if that is empty; else its files if it lists some; else its
folder if the path is not empty. -/
inductive AnalyzeBody.Asks (b : AnalyzeBody) : Wanted → Prop where
  | code {text : String} (h : b.code = some text) : b.Asks (.code b.filename text)
  | files {raws : List String} (hcode : b.code = none) (h : b.filePaths = some raws) (hne : raws ≠ []) :
      b.Asks (.files raws)
  | folder {raw : String} (hcode : b.code = none) (hfiles : b.filePaths = none ∨ b.filePaths = some [])
      (h : b.folderPath = some raw) (hne : raw ≠ "") : b.Asks (.folder raw)
  | nothing (hcode : b.code = none) (hfiles : b.filePaths = none ∨ b.filePaths = some [])
      (hfolder : b.folderPath = none ∨ b.folderPath = some "") : b.Asks .nothing

variable {b : AnalyzeBody} {w w' : Wanted} {subject : Subject}

/-- A field counts as its usual value if it is missing or has this value. So a list that is empty is as good as none,
and so is an empty text. -/
theorem getD_eq_self_iff {α : Type} {value? : Option α} {usual : α} :
    value?.getD usual = usual ↔ value? = none ∨ value? = some usual := by
  cases value? <;> simp

/-- A request asks for one thing only, since each case rules out those before it. -/
theorem AnalyzeBody.Asks.unique (h : b.Asks w) (h' : b.Asks w') : w = w' := by
  cases h <;> cases h' <;> simp_all

/-- Every request asks for something, if only for nothing: code comes before files, and files before a folder. -/
theorem AnalyzeBody.exists_asks (b : AnalyzeBody) : ∃ w, b.Asks w := by
  cases hcode : b.code with
  | some text => exact ⟨_, .code hcode⟩
  | none =>
    -- an empty list of files and an empty folder ask for nothing
    by_cases hfiles : b.filePaths = none ∨ b.filePaths = some []
    · by_cases hfolder : b.folderPath = none ∨ b.folderPath = some ""
      · exact ⟨_, .nothing hcode hfiles hfolder⟩
      · obtain ⟨hsome, hne⟩ := not_or.1 hfolder
        obtain ⟨raw, hraw⟩ := Option.ne_none_iff_exists'.1 hsome
        exact ⟨_, .folder hcode hfiles hraw fun hempty => hne (hempty ▸ hraw)⟩
    · obtain ⟨hsome, hne⟩ := not_or.1 hfiles
      obtain ⟨raws, hraws⟩ := Option.ne_none_iff_exists'.1 hsome
      exact ⟨_, .files hcode hraws fun hempty => hne (hempty ▸ hraws)⟩

/-- The paths that a body names. -/
def AnalyzeBody.named (b : AnalyzeBody) : List String := b.filePaths.getD [] ++ b.folderPath.toList

/-- The files that a request lists are among the paths it names. -/
theorem AnalyzeBody.mem_named_of_files (h : b.filePaths = some raws) (hraw : raw ∈ raws) : raw ∈ b.named := by
  rw [named, h]
  exact List.mem_append_left _ hraw

/-- The folder of a request is among the paths it names. -/
theorem AnalyzeBody.mem_named_of_folder (h : b.folderPath = some raw) : raw ∈ b.named := by
  rw [named, h]
  exact List.mem_append_right _ (List.mem_singleton.2 rfl)

/-! ## What is refused -/

/-- What is wrong with what is asked for, as the status and the words of the refusal. -/
inductive Refused (fs : Files) : Wanted → Nat → String → Prop where
  | unnamed {name : Option String} {text : String} (h : name = none ∨ name = some "") :
      Refused fs (.code name text) 400 "filename is required with code"
  | unsupported {name text : String} (hname : name ≠ "")
      (h : lower (Path.ofString name).suffix ∉ sourceTypes.map ("." ++ ·)) :
      Refused fs (.code (some name) text) 400 s!"Unsupported file type: {name}"
  | files {front rest : List String} {raw message : String} {status : Nat} (hfront : ∀ other ∈ front, IsUsable fs other)
      (h : PathFault fs "file_paths entries" raw status message) :
      Refused fs (.files (front ++ raw :: rest)) status message
  | folder {raw message : String} {status : Nat} (h : PathFault fs "folder_path" raw status message) :
      Refused fs (.folder raw) status message
  | noDirectory {raw : String} {place : List String} {content : List UInt8}
      (habsolute : (Path.ofString raw).isAbsolute = true)
      (h : fs.find (Path.ofString raw) = .ok (place, .file content)) :
      Refused fs (.folder raw) 400 s!"Not a directory: {raw}"
  | nothing : Refused fs .nothing 400 "Provide either (code + filename), file_paths, or folder_path."

/-- What is audited where nothing is wrong with what is asked for. -/
inductive Admitted (fs : Files) : Wanted → Subject → Prop where
  | code {name text : String} (hname : name ≠ "")
      (h : lower (Path.ofString name).suffix ∈ sourceTypes.map ("." ++ ·)) :
      Admitted fs (.code (some name) text) (.code name text)
  | files {raws : List String} (h : ∀ raw ∈ raws, IsUsable fs raw) :
      Admitted fs (.files raws) (.files (raws.map Path.ofString))
  | folder {raw : String} {place : List String} (habsolute : (Path.ofString raw).isAbsolute = true)
      (h : fs.find (Path.ofString raw) = .ok (place, .directory)) :
      Admitted fs (.folder raw) (.folder (Path.ofString raw))

/-- Whatever is asked for is refused or admitted. The cases are what can be asked for, and in each of them the reasons
to refuse it are tried in their order. -/
theorem refused_or_admitted (fs : Files) (w : Wanted) :
    (∃ status message, Refused fs w status message) ∨ ∃ subject, Admitted fs w subject := by
  cases w with
  | code name text =>
    -- a text needs a name that tells what it is
    by_cases hname : name = none ∨ name = some ""
    · exact .inl ⟨_, _, .unnamed hname⟩
    · obtain ⟨hsome, hempty⟩ := not_or.1 hname
      obtain ⟨given, rfl⟩ := Option.ne_none_iff_exists'.1 hsome
      have hne : given ≠ "" := fun heq => hempty (congrArg some heq)
      by_cases hsuffix : lower (Path.ofString given).suffix ∈ sourceTypes.map ("." ++ ·)
      · exact .inr ⟨_, .code hne hsuffix⟩
      · exact .inl ⟨_, _, .unsupported hne hsuffix⟩
  | files raws =>
    -- the first path that cannot be used decides
    rcases all_isUsable_or_first_fault fs "file_paths entries" raws with
      hall | ⟨front, raw, rest, status, message, rfl, hfront, hfault⟩
    · exact .inr ⟨_, .files hall⟩
    · exact .inl ⟨_, _, .files hfront hfault⟩
  | folder raw =>
    -- a path that can be used may still be that of a file
    by_cases husable : IsUsable fs raw
    · obtain ⟨⟨place, e⟩, hfound⟩ := husable.found
      cases e with
      | directory => exact .inr ⟨_, .folder husable.absolute hfound⟩
      | file content => exact .inl ⟨_, _, .noDirectory husable.absolute hfound⟩
    · obtain ⟨status, message, hfault⟩ := exists_pathFault_of_not_isUsable "folder_path" husable
      exact .inl ⟨_, _, .folder hfault⟩
  | nothing => exact .inl ⟨_, _, .nothing⟩

/-! ## The subject of an audit -/

/-- A name belongs to no kind of source exactly if its suffix is none of theirs, in small letters or in capitals. -/
theorem isNone_fileKind?_iff {name : String} :
    (fileKind? name).isNone = true ↔ lower (Path.ofString name).suffix ∉ sourceTypes.map ("." ++ ·) := by
  rw [← isSome_ofSuffix?_iff, fileKind?, Path.kind?]
  cases FileKind.ofSuffix? (Path.ofString name).suffix <;> simp

/-- With code the subject is that code, if there is a name for it and the name is that of a source. Neither files nor
a folder are looked at. -/
theorem subject_of_code {name text : String} (h : b.code = some text) (hname : b.filename.getD "" = name) :
    b.subject fs =
      if name = "" then .error (detail 400 "filename is required with code")
      else if (fileKind? name).isNone then .error (detail 400 s!"Unsupported file type: {name}")
      else .ok (.code name text) := by
  rw [AnalyzeBody.subject, h]
  simp only [hname, String.isEmpty_iff]

/-- Without code and with files the subject is these files, provided that all their paths can be used. -/
theorem subject_of_files (hcode : b.code = none) (h : b.filePaths = some raws) (hne : raws ≠ []) :
    b.subject fs = (requirePaths fs "file_paths entries" raws).map .files := by
  rw [AnalyzeBody.subject, hcode, h]
  dsimp only
  rw [Option.getD_some, if_pos (by simpa using hne)]

/-- With nothing but a folder the subject is this folder, provided that its path can be used and leads to a directory.
-/
theorem subject_of_folder (hcode : b.code = none) (hfiles : b.filePaths = none ∨ b.filePaths = some [])
    (h : b.folderPath = some raw) (hne : raw ≠ "") :
    b.subject fs =
      match requirePath fs "folder_path" raw with
      | .error reply => .error reply
      | .ok path =>
        match fs.hasDirectory path with
        | .error _ => .error internalError
        | .ok false => .error (detail 400 s!"Not a directory: {raw}")
        | .ok true => .ok (.folder path) := by
  rw [AnalyzeBody.subject, hcode, getD_eq_self_iff.2 hfiles, h]
  dsimp only
  rw [if_neg (by simp), Option.getD_some]
  exact if_pos (by simpa using hne)

/-- A request for nothing is refused, with a message that says what one can ask for. -/
theorem subject_of_nothing (hcode : b.code = none) (hfiles : b.filePaths = none ∨ b.filePaths = some [])
    (hfolder : b.folderPath = none ∨ b.folderPath = some "") :
    b.subject fs = .error (detail 400 "Provide either (code + filename), file_paths, or folder_path.") := by
  rw [AnalyzeBody.subject, hcode, getD_eq_self_iff.2 hfiles, getD_eq_self_iff.2 hfolder]
  rfl

/-- A request that is refused has no subject but the reply of its refusal. The cases are those of what it asks for,
and then the reasons to refuse this. -/
theorem subject_of_refused (hasks : b.Asks w) (htell : ∀ raw ∈ b.named, CanTell fs raw)
    (h : Refused fs w status message) : b.subject fs = .error (detail status message) := by
  cases hasks with
  | code hcode =>
    rw [subject_of_code hcode rfl]
    -- the name is taken for any name, so that what is wrong can be told apart
    generalize b.filename = name at h
    cases h with
    | unnamed hname => rw [if_pos (getD_eq_self_iff.2 hname)]
    | unsupported hname hsuffix =>
      rw [Option.getD_some, if_neg hname, if_pos (isNone_fileKind?_iff.2 hsuffix)]
  | files hcode hraws hne =>
    rw [subject_of_files hcode hraws hne]
    cases h with
    | @files front rest raw _ _ hfront hfault =>
      have hraw : CanTell fs raw :=
        htell raw (AnalyzeBody.mem_named_of_files hraws (List.mem_append_right front List.mem_cons_self))
      rw [requirePaths_of_pathFault hfront hraw hfault]
      rfl
  | @folder raw hcode hfiles hraw hne =>
    rw [subject_of_folder hcode hfiles hraw hne]
    cases h with
    | folder hfault => rw [requirePath_of_pathFault (htell _ (AnalyzeBody.mem_named_of_folder hraw)) hfault]
    | noDirectory habsolute hfound =>
      have hdirectory : fs.hasDirectory (Path.ofString raw) = .ok false := by
        rw [Files.hasDirectory, Files.leadsTo, hfound]
        rfl
      rw [requirePath_of_isUsable _ ⟨habsolute, _, hfound⟩]
      dsimp only
      rw [hdirectory]
  | nothing hcode hfiles hfolder =>
    rw [subject_of_nothing hcode hfiles hfolder]
    cases h
    rfl

/-- A request that is admitted has the subject it was admitted for. -/
theorem subject_of_admitted (hasks : b.Asks w) (h : Admitted fs w subject) : b.subject fs = .ok subject := by
  cases hasks with
  | code hcode =>
    rw [subject_of_code hcode rfl]
    generalize b.filename = name at h
    cases h with
    | code hname hsuffix =>
      have hkind : ¬ (fileKind? _).isNone = true := fun hnone => isNone_fileKind?_iff.1 hnone hsuffix
      rw [Option.getD_some, if_neg hname, if_neg hkind]
  | files hcode hraws hne =>
    rw [subject_of_files hcode hraws hne]
    cases h with
    | files hall =>
      rw [requirePaths_of_isUsable _ hall]
      rfl
  | folder hcode hfiles hraw hne =>
    rw [subject_of_folder hcode hfiles hraw hne]
    cases h with
    | folder habsolute hfound =>
      rw [requirePath_of_isUsable _ ⟨habsolute, _, hfound⟩]
      dsimp only
      rw [Files.hasDirectory_eq_ok_true_iff.2 ⟨_, hfound⟩]
  | nothing hcode hfiles hfolder => cases h

/-! ## Audits of what is admitted -/

/-- What the audit of what is asked for gives: its findings, and the notices on the way. -/
inductive Gives (a : Audit) (fs : Files) : Wanted → Findings → List Notice → Prop where
  | code {name text : String} {f : Findings} {notices : List Notice} (h : a.ofSources [(name, text)] = (f, notices)) :
      Gives a fs (.code (some name) text) f notices
  | files {raws : List String} {f : Findings} {notices : List Notice}
      (h : a.ofPaths fs (raws.map Path.ofString) 1 = (.ok f, notices)) : Gives a fs (.files raws) f notices
  | folder {raw : String} {f : Findings} {notices : List Notice}
      (h : a.ofProject fs (Path.ofString raw) 1 = (.ok f, notices)) : Gives a fs (.folder raw) f notices

/-- A path that can be used has no null character in it, or else nothing would have been found there. -/
theorem IsUsable.not_hasNull (h : IsUsable fs raw) : ¬ (Path.ofString raw).hasNull = true := by
  obtain ⟨⟨place, e⟩, hfound⟩ := h.found
  exact (Path.fault?_eq_none_iff.1 (Files.follow_of_find hfound).1).1

/-- Nothing can go wrong any more with the audit of what is admitted. -/
theorem exists_gives_of_admitted (htree : fs.IsTree) (h : Admitted fs w subject) (a : Audit) :
    ∃ f notices, Gives a fs w f notices ∧ subject.findings a fs = (.ok f, notices) := by
  cases h with
  | @code name text hname hsuffix => exact ⟨_, _, .code rfl, rfl⟩
  | @files raws hall =>
    have hnull : ∀ p ∈ raws.map Path.ofString, ¬ p.hasNull = true := by
      intro p hp
      obtain ⟨raw, hraw, rfl⟩ := List.mem_map.1 hp
      exact (hall raw hraw).not_hasNull
    cases hpaths : a.ofPaths fs (raws.map Path.ofString) 1 with
    | mk result notices =>
      have hresult : result = .ok _ := (congrArg Prod.fst hpaths).symm.trans (Audit.ofPaths_of_ok hnull 1)
      subst hresult
      exact ⟨_, notices, .files hpaths, hpaths⟩
  | @folder raw place habsolute hfound =>
    -- discovery starts from the settled path, which leads to the same directory
    have hroot : fs.IsDirectory (Path.ofString raw) ((Path.ofString raw).resolved fs.directory) :=
      Files.isDirectory_of_hasDirectory habsolute (Files.hasDirectory_eq_ok_true_iff.2 ⟨place, hfound⟩)
    obtain ⟨notices, hproject⟩ := Audit.ofProject_isOk (a := a) (Files.sources_of_isDirectory hroot _)
      (fun p hp => Files.not_hasNull_of_mem_sourcesInside htree hp) 1
    exact ⟨_, _, .folder hproject, hproject⟩

/-! ## Answers -/

/-- The request posts a body that asks for an audit, and that there is room to read. -/
structure PostsAudit (room : Room) (r : Request) (b : AnalyzeBody) : Prop where
  method : r.method.toUpper = "POST"
  asked : ∃ t, Target.ofString r.target = .ok t ∧ t.path = "/analyze".toList
  body : readBody room AnalyzeBody.ofFields r.body = .ok b

variable {advisor : Advisor} {r : Request} {ws : Workspace} {settings : Settings} {registry : Registry}

/-- A request that posts a body for an audit is answered as that body is. -/
theorem respond_of_postsAudit (h : PostsAudit ws.room r b) :
    respond advisor ws r = .ok (answerAnalyze advisor ws b) := by
  obtain ⟨t, ht, hpath⟩ := h.asked
  have hroute : Route.of? t.path = some .analyze := by
    rw [hpath]
    decide
  rw [respond_of_route ht hroute h.method, Route.answer, h.body]

/-- The settings that a body asks for. -/
def AnalyzeBody.settingsIn (ws : Workspace) (b : AnalyzeBody) : Except SettingsError Settings :=
  Settings.load ws.room ws.files ws.environment { overrides := b.overrides }

/-- If the settings of a request cannot be loaded for a reason that is reported, then the answer is this reason with
status 400, whatever else is in the request. -/
theorem answerAnalyze_of_error {reason : SettingsError} (h : b.settingsIn ws = .error reason)
    (hreported : reason.isReported = true) :
    answerAnalyze advisor ws b = { reply := detail 400 reason.message, workspace := ws } := by
  rw [AnalyzeBody.settingsIn] at h
  rw [answerAnalyze, h]
  dsimp only
  rw [ofFailure, if_pos hreported]

/-- If the settings are there and the request is refused, the answer is the refusal and the workspace is as it was: no
dataset was loaded and no file was looked into. -/
theorem answerAnalyze_of_refused (hsettings : b.settingsIn ws = .ok settings) (hasks : b.Asks w)
    (htell : ∀ raw ∈ b.named, CanTell ws.files raw) (h : Refused ws.files w status message) :
    answerAnalyze advisor ws b = { reply := detail status message, workspace := ws } := by
  rw [AnalyzeBody.settingsIn] at hsettings
  rw [answerAnalyze, hsettings]
  dsimp only
  rw [subject_of_refused hasks htell h]

/-- What is answered to a body that asks for something admitted. -/
theorem answerAnalyze_of_admitted (hsettings : b.settingsIn ws = .ok settings) (hasks : b.Asks w)
    (h : Admitted ws.files w subject) :
    answerAnalyze advisor ws b =
      match ws.registry settings.dataset with
      | (.error reason, ws') => { reply := ofFailure (.dataset reason), workspace := ws' }
      | (.ok registry, ws') =>
        match subject.findings { registry, settings, room := ws.room } ws'.files with
        | (.error _, notices) => { reply := internalError, notices, workspace := ws' }
        | (.ok findings, notices) =>
          let (advice, told) := adviceOn advisor ws' settings b findings
          { reply := .json 200 (findingsValue findings advice), notices := notices ++ told, workspace := ws' } := by
  rw [AnalyzeBody.settingsIn] at hsettings
  rw [answerAnalyze, hsettings]
  dsimp only
  -- no registry is given, so the workspace's own is loaded before anything is read
  rw [subject_of_admitted hasks h, Workspace.audit_none]
  dsimp only
  cases ws.registry settings.dataset with
  | mk given ws' =>
    cases given with
    | error reason => rfl
    | ok registry =>
      rcases hfound : subject.findings { registry, settings, room := ws.room } ws'.files with ⟨found, notices⟩
      cases found <;> simp only [Except.map, hfound]

/-- What is admitted is answered with what its audit gives, and with the advice on that. -/
theorem answerAnalyze_of_gives (htree : ws.files.IsTree) (hsettings : b.settingsIn ws = .ok settings) (hasks : b.Asks w)
    (h : Admitted ws.files w subject) (hregistry : (ws.registry settings.dataset).1 = .ok registry) :
    ∃ f notices advice told, Gives { registry, settings, room := ws.room } ws.files w f notices ∧
      Advises advisor ws.environment settings b.code f advice told ∧
      answerAnalyze advisor ws b =
        { reply := .json 200 (findingsValue f advice), notices := notices ++ told
          workspace := (ws.registry settings.dataset).2 } := by
  obtain ⟨f, notices, hgives, hfindings⟩ :=
    exists_gives_of_admitted htree h { registry, settings, room := ws.room }
  -- to load a registry changes neither the files nor the environment, so what is found and asked afterwards is what
  -- the workspace tells now
  have hfiles : (ws.registry settings.dataset).2.files = ws.files := CommandLine.files_registry settings.dataset
  have henvironment : (ws.registry settings.dataset).2.environment = ws.environment :=
    (Workspace.sameSurrounding_after (.load settings.dataset)).environment
  have hpair : ws.registry settings.dataset = (.ok registry, (ws.registry settings.dataset).2) := Prod.ext hregistry rfl
  rcases hadvice : adviceOn advisor (ws.registry settings.dataset).2 settings b f with ⟨advice, told⟩
  refine ⟨f, notices, advice, told, hgives, ?_, ?_⟩
  · rw [← henvironment]
    exact adviceOn_eq_iff.1 hadvice
  · rw [answerAnalyze_of_admitted hsettings hasks h, hpair]
    dsimp only
    rw [hfiles, hfindings]
    dsimp only
    rw [hadvice]

/-- Findings are never mistaken for a refusal, whatever advice goes with them: the value of a refusal has a single
field. -/
theorem findingsValue_ne_detail (f : Findings) (advice : Option String) (message : String) :
    findingsValue f advice ≠ .obj [("detail", .str message)] := by
  simp [findingsValue, Findings.toFields, Findings.totalFields]

/-- What is admitted is not answered with what is wrong with it. -/
theorem reply_ne_detail_of_admitted (hsettings : b.settingsIn ws = .ok settings) (hasks : b.Asks w)
    (h : Admitted ws.files w subject) (status : Nat) (message : String) :
    (answerAnalyze advisor ws b).reply ≠ detail status message := by
  rw [answerAnalyze_of_admitted hsettings hasks h]
  cases ws.registry settings.dataset with
  | mk given ws' =>
    cases given with
    | error reason => simp [ofFailure, internalError, detail]
    | ok registry =>
      dsimp only
      split
      · simp [internalError, detail]
      · simp [detail, findingsValue_ne_detail]

/-- Refusals differ in their status or their message, so that the message tells which one it is. -/
theorem detail_inj {status' : Nat} {message' : String} (h : detail status message = detail status' message') :
    status = status' ∧ message = message' := by
  simpa [detail] using h

/-- A request is answered with what is wrong with it exactly if something is. -/
theorem answerAnalyze_eq_detail_iff (hsettings : b.settingsIn ws = .ok settings) (hasks : b.Asks w)
    (htell : ∀ raw ∈ b.named, CanTell ws.files raw) :
    answerAnalyze advisor ws b = { reply := detail status message, workspace := ws } ↔
      Refused ws.files w status message := by
  constructor
  · intro hanswer
    rcases refused_or_admitted ws.files w with ⟨status', message', hrefused⟩ | ⟨subject, hadmitted⟩
    · rw [answerAnalyze_of_refused hsettings hasks htell hrefused] at hanswer
      obtain ⟨rfl, rfl⟩ := detail_inj (congrArg Answer.reply hanswer)
      exact hrefused
    · -- an admitted request is answered with findings or with an internal error, and neither is a refusal
      exact absurd (congrArg Answer.reply hanswer) (reply_ne_detail_of_admitted hsettings hasks hadmitted status message)
  · exact answerAnalyze_of_refused hsettings hasks htell

/-- **Requests for an audit are checked before anything is audited.** Where the settings cannot be had, that is the
answer, whatever else is asked. Otherwise a body asks for one thing, by its code, then its files, then its folder; and
the request is refused, with nothing looked into or loaded, exactly if something is wrong with that thing. Where nothing
is wrong and there is a dataset, the answer is what the audit of that thing gives, with the advice on it that the reply of
the model has, if a model is asked. -/
theorem audit_requests_are_checked_first (advisor : Advisor) {ws : Workspace} (htree : ws.files.IsTree) {r : Request}
    {b : AnalyzeBody} (hposts : PostsAudit ws.room r b) (htell : ∀ raw ∈ b.named, CanTell ws.files raw) :
    ∃ answer, respond advisor ws r = .ok answer ∧
      (∀ reason, b.settingsIn ws = .error reason → reason.isReported = true →
        answer = { reply := detail 400 reason.message, workspace := ws }) ∧
      ∀ settings, b.settingsIn ws = .ok settings →
        (∃! w, b.Asks w) ∧
        ∀ w, b.Asks w →
          (∀ status message, answer = { reply := detail status message, workspace := ws } ↔
            Refused ws.files w status message) ∧
          ((¬ ∃ status message, Refused ws.files w status message) → ∀ registry,
            (ws.registry settings.dataset).1 = .ok registry →
              ∃ f notices advice told, Gives { registry, settings, room := ws.room } ws.files w f notices ∧
                Advises advisor ws.environment settings b.code f advice told ∧
                answer = { reply := .json 200 (findingsValue f advice), notices := notices ++ told
                           workspace := (ws.registry settings.dataset).2 }) := by
  refine ⟨answerAnalyze advisor ws b, respond_of_postsAudit hposts, fun reason => answerAnalyze_of_error,
    fun settings hsettings => ⟨?_, fun w hasks => ⟨fun status message => ?_, fun hnone registry hregistry => ?_⟩⟩⟩
  · obtain ⟨w, hasks⟩ := b.exists_asks
    exact ⟨w, hasks, fun w' hasks' => hasks'.unique hasks⟩
  · exact answerAnalyze_eq_detail_iff hsettings hasks htell
  · -- what is not refused is admitted
    obtain ⟨subject, hadmitted⟩ := (refused_or_admitted ws.files w).resolve_left hnone
    exact answerAnalyze_of_gives htree hsettings hasks hadmitted hregistry

/-- A request for an audit with some bytes as its body. -/
def auditPost (body : List UInt8) : Request := { method := "post", target := "/analyze", body }

/-- A body that can be read is posted for an audit by a request with it. -/
theorem postsAudit_auditPost {room : Room} {body : List UInt8} {b : AnalyzeBody}
    (h : readBody room AnalyzeBody.ofFields body = .ok b) : PostsAudit room (auditPost body) b := by
  have ht : Target.ofString "/analyze" = .ok { origin := usualOrigin, path := "/analyze".toList, query := [] } := by
    decide +kernel
  have hmethod : "post".toUpper = "POST" := by decide +kernel
  exact ⟨hmethod, ⟨_, ht, rfl⟩, h⟩

/-- Files of which the second leads nowhere and the third is not absolute, next to a folder. -/
def goneText : List UInt8 :=
  encode "\x7b\"file_paths\": [\"/a.js\", \"/gone.css\", \"b.js\"], \"folder_path\": \"/\"\x7d"

/-- What that asks for. -/
def goneBody : AnalyzeBody :=
  { code := none, filename := none, filePaths := some ["/a.js", "/gone.css", "b.js"], folderPath := some "/"
    target := none, exceptions := none, generateFixes := false }

/-- Code that falls short, next to a file that is not absolute, with the wish for fixes. -/
def fixesText : List UInt8 :=
  encode "\x7b\"code\": \"fetch(x)\", \"filename\": \"A.JS\", \"file_paths\": [\"b.js\"], \"generate_fixes\": true\x7d"

/-- What that asks for. -/
def fixesBody : AnalyzeBody :=
  { code := some "fetch(x)", filename := some "A.JS", filePaths := some ["b.js"], folderPath := none
    target := none, exceptions := none, generateFixes := true }

/-- A model that always replies the same, with blanks around it. -/
def wrapping : Advisor := fun _ => .choice (some " Wrap it.\n")

/-- A workspace with a dataset in which what the code uses is recent, and with a key for a model. -/
def keyedWorkspace : Workspace :=
  { CommandLine.madeWorkspace with
    environment := [("BASELINE_DATASET", "d.json"), ("TOGETHER_API_KEY", "k")] }

/-- The first file that leads nowhere counts, and neither the one after it nor the folder. Where there is code it counts,
and not the file; its findings come with what the model replies. -/
theorem audit_requests_are_checked_first_of_two :
    keyedWorkspace.files.IsTree ∧
      PostsAudit .usual (auditPost goneText) goneBody ∧
      (∀ raw ∈ goneBody.named, CanTell keyedWorkspace.files raw) ∧
      respond wrapping keyedWorkspace (auditPost goneText) =
        .ok { reply := detail 404 "Path not found: /gone.css", workspace := keyedWorkspace } ∧
      PostsAudit .usual (auditPost fixesText) fixesBody ∧
      (∀ raw ∈ fixesBody.named, CanTell keyedWorkspace.files raw) ∧
      ∃ answer f, respond wrapping keyedWorkspace (auditPost fixesText) = .ok answer ∧ f.warnings ≠ [] ∧
        answer.reply = .json 200 (findingsValue f (some "Wrap it.")) := by
  have htree : keyedWorkspace.files.IsTree := CommandLine.madeWorkspace_isTree
  have hgone : PostsAudit .usual (auditPost goneText) goneBody := postsAudit_auditPost (by decide +kernel)
  have hgoneTell : ∀ raw ∈ goneBody.named, CanTell keyedWorkspace.files raw := by decide +kernel
  have hfixes : PostsAudit .usual (auditPost fixesText) fixesBody := postsAudit_auditPost (by decide +kernel)
  have hfixesTell : ∀ raw ∈ fixesBody.named, CanTell keyedWorkspace.files raw := by decide +kernel
  refine ⟨htree, hgone, hgoneTell, ?_, hfixes, hfixesTell, ?_⟩
  · obtain ⟨answer, hanswer, -, hsettings⟩ := audit_requests_are_checked_first wrapping htree hgone hgoneTell
    have hload : goneBody.settingsIn keyedWorkspace = .ok { dataset := some "d.json" } := by decide +kernel
    have hasks : goneBody.Asks (.files (["/a.js"] ++ "/gone.css" :: ["b.js"])) := .files rfl rfl (by decide)
    have hrefused : Refused keyedWorkspace.files (.files (["/a.js"] ++ "/gone.css" :: ["b.js"])) 404
        "Path not found: /gone.css" := by
      refine .files (fun other hother => ?_) (.absent (by decide +kernel) ?_)
      · obtain rfl := List.mem_singleton.1 hother
        exact ⟨by decide +kernel, Files.has_eq_ok_true_iff.1 (by decide +kernel)⟩
      · rw [← Files.has_eq_ok_true_iff]
        decide +kernel
    rw [hanswer, (((hsettings _ hload).2 _ hasks).1 _ _).2 hrefused]
  · obtain ⟨answer, hanswer, -, hsettings⟩ := audit_requests_are_checked_first wrapping htree hfixes hfixesTell
    have hload : fixesBody.settingsIn keyedWorkspace = .ok { dataset := some "d.json", generateFixes := true } := by
      decide +kernel
    have hasks : fixesBody.Asks (.code (some "A.JS") "fetch(x)") := .code rfl
    have hwarned : (keyedWorkspace.registry (some "d.json")).1.toOption.map (fun registry =>
        (Audit.ofSources { registry, settings := { dataset := some "d.json", generateFixes := true }, room := .usual }
          [("A.JS", "fetch(x)")]).1.warnings.length) = some 1 := by
      decide +kernel
    obtain ⟨registry, hregistry, hlength⟩ := Option.map_eq_some_iff.1 hwarned
    have hnone : ¬ ∃ status message, Refused keyedWorkspace.files (.code (some "A.JS") "fetch(x)") status message := by
      rintro ⟨status, message, hrefused⟩
      cases hrefused with
      | unnamed h => exact absurd h (by decide)
      | unsupported hname h => exact h (by decide +kernel)
    obtain ⟨f, notices, advice, told, hgives, hadvises, rfl⟩ :=
      ((hsettings _ hload).2 _ hasks).2 hnone registry (Workspace.toOption_eq_some_iff.1 hregistry)
    have hfails : f.warnings ≠ [] := by
      cases hgives with
      | code h =>
        intro hnil
        rw [show keyedWorkspace.room = .usual from rfl] at h
        rw [h, hnil] at hlength
        exact absurd hlength (by decide)
    have hasked : IsAskedFor keyedWorkspace.environment { dataset := some "d.json", generateFixes := true } f :=
      ⟨rfl, by decide +kernel, .inr hfails⟩
    -- the reply is a text, so it is neither passed over nor a failure
    cases hadvises with
    | unasked h => exact absurd hasked h
    | silent _ hreply => exact absurd hreply (by simp [wrapping])
    | failed _ hreply => exact absurd hreply (by simp [wrapping])
    | given _ hne hreply =>
      obtain rfl : " Wrap it.\n" = _ := by simpa [wrapping] using hreply
      have hstrip : strip " Wrap it.\n" = "Wrap it." := by decide +kernel
      exact ⟨_, f, hanswer, hfails, by rw [hstrip]⟩

end Service

end FeatureAudit
