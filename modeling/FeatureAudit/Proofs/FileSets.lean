import Mathlib.Data.List.Induction
import Mathlib.Data.Finset.Card
import FeatureAudit.Proofs.Dataset.Failures
import FeatureAudit.Proofs.Detection
import FeatureAudit.Proofs.FirstWins
import FeatureAudit.Proofs.PathOrder
import FeatureAudit.Proofs.SourceText
import FeatureAudit.Proofs.Stylesheet.DeepSheets
import FeatureAudit.Workers

/-!
# An audit goes by the set of its files

The files of an audit are put in order before they are looked into, each result has the place of its file, and
a file that is named twice counts once. So neither the order in which files are named, nor how often, nor the
order in which workers finish makes a difference. Workers do make one: the room that they have is not that of the
rest of the program, and a stylesheet may be nested so deeply that there is room for it in one of the two only.

* **`mergeSort_eq_of_perm`**, **`distinct_mergeSort_eq`** — what sorting leaves of the order of a list.
* **`collect_of_ok`** — each result is in the place of its file once its worker has finished.
* **`tabulate_map`** — a table of keys that determine their values.
* **`Room.FitsAlike`** — a file for which it makes no difference whether workers look into it.
* **`Audit.ofPaths_of_ok`**, **`Audit.ofWorkers_of_ok`** — both audits are the findings of the set of files.
* **`audit_goes_by_set_of_files`** — and so they agree on files that fit alike.
* **`workers_find_more`** — on others they need not.
-/
namespace FeatureAudit

open FeatureAudit.Text FeatureAudit.Stylesheet

/-! ## Sorting -/

section Sorting

variable {α : Type} {le : α → α → Bool} {xs ys : List α}

/-- All arrangements of some elements are sorted alike, if no two of them are each before the other. -/
theorem mergeSort_eq_of_perm (htrans : ∀ a b c, le a b = true → le b c = true → le a c = true)
    (htotal : ∀ a b, (le a b || le b a) = true)
    (hantisymm : ∀ a ∈ xs, ∀ b ∈ xs, le a b = true → le b a = true → a = b) (h : xs.Perm ys) :
    xs.mergeSort le = ys.mergeSort le := by
  have hxs : (xs.mergeSort le).Perm xs := List.mergeSort_perm xs le
  have hys : (ys.mergeSort le).Perm ys := List.mergeSort_perm ys le
  refine List.Perm.eq_of_pairwise ?_ (List.pairwise_mergeSort htrans htotal xs)
    (List.pairwise_mergeSort htrans htotal ys) ((hxs.trans h).trans hys.symm)
  intro a b ha hb
  exact hantisymm a (hxs.mem_iff.1 ha) b (h.mem_iff.2 (hys.mem_iff.1 hb))

/-- All lists of some elements are alike once they are sorted and each element is kept once. -/
theorem distinct_mergeSort_eq [BEq α] [LawfulBEq α]
    (htrans : ∀ a b c, le a b = true → le b c = true → le a c = true)
    (htotal : ∀ a b, (le a b || le b a) = true)
    (hantisymm : ∀ a ∈ xs, ∀ b ∈ xs, le a b = true → le b a = true → a = b)
    (h : ∀ a, a ∈ ys ↔ a ∈ xs) :
    distinct (xs.mergeSort le) = distinct (ys.mergeSort le) := by
  have hmem (zs : List α) (a : α) : a ∈ distinct (zs.mergeSort le) ↔ a ∈ zs := by
    rw [mem_distinct_iff, (List.mergeSort_perm zs le).mem_iff]
  have hsorted (zs : List α) : (distinct (zs.mergeSort le)).Pairwise fun a b => le a b = true :=
    (List.pairwise_mergeSort htrans htotal zs).sublist (keepFirst_sublist _ _)
  -- two sorted lists without repetition that have the same members are one list
  refine List.Perm.eq_of_pairwise ?_ (hsorted xs) (hsorted ys) ?_
  · intro a b ha hb
    exact hantisymm a ((hmem xs a).1 ha) b ((h b).1 ((hmem ys b).1 hb))
  · refine (List.perm_ext_iff_of_nodup (nodup_distinct _) (nodup_distinct _)).2 fun a => ?_
    rw [hmem, hmem, h]

end Sorting

/-! ## Results in their places -/

section Collect

variable {ε α β : Type} {work : α → Except ε β} {files : List α} {given : α → β}

/-- Each result is in the place of its file once its worker has finished, and the other places are as they
were. The induction is on the workers that finish. -/
theorem collect_of_ok (h : ∀ file ∈ files, work file = .ok (given file)) (finished : List Nat)
    {results : List β} (hlength : results.length = files.length) :
    ∃ results', collect work files results finished = .ok results' ∧
      results'.length = files.length ∧
      ∀ i, results'[i]? = if i ∈ finished then files[i]?.map given else results[i]? := by
  induction finished generalizing results with
  | nil => exact ⟨results, rfl, hlength, fun i => by simp⟩
  | cons i finished ih =>
    rw [collect]
    cases hfile : files[i]? with
    | none =>
      obtain ⟨results', hcollect, hlength', hplaces⟩ := ih hlength
      refine ⟨results', hcollect, hlength', fun j => ?_⟩
      -- a place beyond the files stays empty
      have hbeyond : results[i]? = none := by
        rw [List.getElem?_eq_none_iff, hlength]
        exact List.getElem?_eq_none_iff.1 hfile
      rw [hplaces]
      by_cases hj : j = i
      · subst hj
        simp [hfile, hbeyond]
      · simp [hj]
    | some file =>
      have hgiven : work file = .ok (given file) := h file (List.mem_of_getElem? hfile)
      have hset : (results.set i (given file)).length = files.length := by
        rw [List.length_set, hlength]
      obtain ⟨results', hcollect, hlength', hplaces⟩ := ih hset
      refine ⟨results', by dsimp only; rw [hgiven]; exact hcollect, hlength', fun j => ?_⟩
      rw [hplaces]
      by_cases hj : j = i
      · subst hj
        have hwithin : j < results.length := by
          rw [hlength]
          exact (List.getElem?_eq_some_iff.1 hfile).1
        simp [hfile, hwithin]
      · have hother : i ≠ j := fun heq => hj heq.symm
        simp [hj, List.getElem?_set_ne hother]

/-- Every result is there once all workers have finished, in whatever order. -/
theorem collect_of_perm (h : ∀ file ∈ files, work file = .ok (given file)) {finished : List Nat}
    (hfinished : finished.Perm (List.range files.length)) {results : List β}
    (hlength : results.length = files.length) :
    collect work files results finished = .ok (files.map given) := by
  obtain ⟨results', hcollect, hlength', hplaces⟩ := collect_of_ok h finished hlength
  have hall : results' = files.map given := by
    refine List.ext_getElem? fun i => ?_
    rw [hplaces, List.getElem?_map]
    split
    · rfl
    · rename_i hi
      -- a worker that never finishes has no file
      have hbeyond : files.length ≤ i := by
        rw [hfinished.mem_iff, List.mem_range] at hi
        omega
      rw [List.getElem?_eq_none (by omega), List.getElem?_eq_none hbeyond]
      rfl
  rw [hcollect, hall]

/-- A worker that fails ends the collection, whichever it is. -/
theorem collect_of_error {reason : ε} (h : ∀ file e, work file = .error e → e = reason)
    {finished : List Nat} {i : Nat} {file : α} (hi : i ∈ finished) (hfile : files[i]? = some file)
    (hfails : work file = .error reason) (results : List β) :
    collect work files results finished = .error reason := by
  induction finished generalizing results with
  | nil => exact absurd hi List.not_mem_nil
  | cons j finished ih =>
    rw [collect]
    rcases List.mem_cons.1 hi with rfl | hi
    · rw [hfile]
      dsimp only
      rw [hfails]
    · -- another file was finished first: it has no result, or it failed for the same reason, or its result is kept
      split
      · exact ih hi results
      · split
        · rename_i e herror
          rw [h _ e herror]
        · exact ih hi _

end Collect

/-! ## Tables -/

section Tables

variable {κ α : Type} [BEq κ] [LawfulBEq κ] (f : κ → α)

/-- To set a key that determines its value leaves a table with one row for each key, in the order in which the keys
first came. -/
theorem setKey_map (key : κ) (keys : List κ) :
    setKey key (f key) (keys.map fun k => (k, f k)) =
      (if key ∈ keys then keys else keys ++ [key]).map fun k => (k, f k) := by
  induction keys with
  | nil => rfl
  | cons first rest ih =>
    rw [List.map_cons, setKey]
    -- the key is replaced where it stands, and goes to the end if it stands nowhere
    by_cases hkey : first = key
    · simp [hkey]
    · have hother : ¬ key = first := fun heq => hkey heq.symm
      rw [if_neg (by simpa using hkey), ih]
      by_cases hrest : key ∈ rest
      · simp [hrest]
      · simp [hrest, hother]

/-- A table of keys that determine their values has each key once. -/
theorem tabulate_map (keys : List κ) :
    tabulate (keys.map fun k => (k, f k)) = (distinct keys).map fun k => (k, f k) := by
  induction keys using List.reverseRecOn with
  | nil => rfl
  | append_singleton keys key ih =>
    rw [tabulate] at ih ⊢
    rw [List.map_append, List.foldl_append, ih, distinct_concat]
    show setKey key (f key) _ = _
    rw [setKey_map]
    simp only [mem_distinct_iff]

end Tables

/-! ## Files -/

/-- It makes no difference to the file whether a worker looks into it: if it is a stylesheet, there is room for it in
both cases or in neither. -/
def Room.FitsAlike (room : Room) (fs : Files) (p : Path) : Prop :=
  fileKind? p.toString = some .stylesheet → ∀ bytes, fs.read p = .ok bytes →
    (Node.depthOfAll (sheet (lexemes (Audit.sourceText bytes))) ≤ room.entries ↔
      Node.depthOfAll (sheet (lexemes (Audit.sourceText bytes))) ≤ room.workers)

namespace Audit

variable {a : Audit} {fs : Files} {p : Path} {paths : List Path}

/-- What an audit has found in a file; nothing where no file can be. -/
def found (a : Audit) (fs : Files) (p : Path) : Extraction :=
  (a.fileExtraction fs p).toOption.getD ⟨[], []⟩

/-- The only file that ends an audit is one with a null character in its path; a file that cannot be read is told of
and counts as empty. -/
theorem fileExtraction_eq_error_iff {e : AccessError} :
    a.fileExtraction fs p = .error e ↔ e = .nullCharacter ∧ p.hasNull = true := by
  have hnull : fs.read p = .error .nullCharacter ↔ p.hasNull = true :=
    Files.read_eq_nullCharacter_iff
  rw [fileExtraction, ← hnull]
  cases fs.read p with
  | ok bytes => simp
  | error reason => cases reason <;> simp [eq_comm]

/-- Without a null character in its path, a file gives what is found in it. -/
theorem fileExtraction_of_not_hasNull (h : ¬ p.hasNull = true) :
    a.fileExtraction fs p = .ok (a.found fs p) := by
  rw [found]
  cases hextraction : a.fileExtraction fs p with
  | ok e => rfl
  | error e => exact absurd (fileExtraction_eq_error_iff.1 hextraction).2 h

/-- Paths are the same before and after they are sorted, but for their order. -/
theorem mem_mergeSort_iff : p ∈ paths.mergeSort Path.le ↔ p ∈ paths :=
  (List.mergeSort_perm paths Path.le).mem_iff

/-- The findings of a set of files: each counts once, in the order of paths. -/
def foundIn (a : Audit) (fs : Files) (paths : List Path) : Findings :=
  a.findings ((distinct (paths.mergeSort Path.le)).map fun p => (p.toString, a.found fs p))

/-- Files without null characters in their paths give what is found in each of them, in their order. -/
theorem fileExtractions_of_ok (h : ∀ p ∈ paths, ¬ p.hasNull = true) (sideBySide : Bool) :
    (a.fileExtractions fs sideBySide paths).1 = .ok (paths.map fun p => (p, a.found fs p)) := by
  induction paths with
  | nil => rfl
  | cons p rest ih =>
    obtain ⟨hp, hrest⟩ := List.forall_mem_cons.1 h
    rw [fileExtractions, fileExtraction_of_not_hasNull hp]
    show Except.map _ _ = _
    rw [ih hrest]
    rfl

/-- One null character in a path ends the audit of all files, wherever the path stands. The induction is on the paths.
-/
theorem fileExtractions_of_error (h : ∃ p ∈ paths, p.hasNull = true) (sideBySide : Bool) :
    (a.fileExtractions fs sideBySide paths).1 = .error .nullCharacter := by
  induction paths with
  | nil => exact absurd h (by simp)
  | cons p rest ih =>
    rw [fileExtractions]
    cases hextraction : a.fileExtraction fs p with
    | error e =>
      obtain ⟨rfl, -⟩ := fileExtraction_eq_error_iff.1 hextraction
      rfl
    | ok e =>
      -- the first file is read, so the path with the null character is one of the others
      have hrest : ∃ p ∈ rest, p.hasNull = true := by
        obtain ⟨q, hq, hnull⟩ := h
        rcases List.mem_cons.1 hq with rfl | hq
        · rw [fileExtraction_eq_error_iff.2 ⟨rfl, hnull⟩] at hextraction
          exact absurd hextraction (by simp)
        · exact ⟨q, hq, hnull⟩
      show Except.map _ _ = _
      rw [ih hrest]
      rfl

/-! ## Workers

What a worker finds in a file is what is found in it otherwise, but for stylesheets that are nested too deeply for the
room of one and not for that of the other. -/

/-- What is made of the uses found does not depend on the room there was to find them in. -/
theorem findings_inWorker (files : List (String × Extraction)) : a.inWorker.findings files = a.findings files := rfl

/-- What is made of the uses found does not depend on whether workers have found them. -/
theorem findings_reader (sideBySide : Bool) (files : List (String × Extraction)) :
    (a.reader sideBySide).findings files = a.findings files := by
  cases sideBySide <;> rfl

/-- Of the room only whether it suffices for a stylesheet matters to what is found in a source. -/
theorem extraction_inWorker {file text : String}
    (h : fileKind? file = some .stylesheet →
      (Node.depthOfAll (sheet (lexemes text)) ≤ a.room.entries ↔
        Node.depthOfAll (sheet (lexemes text)) ≤ a.room.workers)) :
    a.inWorker.extraction file text = a.extraction file text := by
  have hsheet (hkind : fileKind? file = some .stylesheet) :
      extract a.room.workers a.registry a.settings.target file text =
        extract a.room.entries a.registry a.settings.target file text :=
    extract_congr_room (h hkind).symm
  clear h
  unfold extraction
  -- only stylesheets are read by calls that go down
  cases hkind : fileKind? file with
  | none => rfl
  | some kind =>
    cases kind with
    | script => rfl
    | stylesheet =>
      dsimp only [inWorker, Room.ofWorker]
      rw [hsheet hkind]

/-- A file that fits alike gives a worker what it gives without one: only for a stylesheet does the room matter, and
then its text is the same. -/
theorem found_inWorker (h : a.room.FitsAlike fs p) : a.inWorker.found fs p = a.found fs p := by
  have hextraction : a.inWorker.fileExtraction fs p = a.fileExtraction fs p := by
    have hsource (bytes : List UInt8) (hread : fs.read p = .ok bytes) :
        a.inWorker.extraction p.toString (sourceText bytes) = a.extraction p.toString (sourceText bytes) :=
      extraction_inWorker fun hkind => h hkind bytes hread
    unfold fileExtraction
    cases hread : fs.read p with
    | error reason => cases reason <;> rfl
    | ok bytes =>
      dsimp only
      rw [hsource bytes hread]
  rw [found, found, hextraction]

/-- Files that all fit alike give the same findings in a worker. The files are those that are listed, however often
and in whichever order. -/
theorem foundIn_inWorker (h : ∀ p ∈ paths, a.room.FitsAlike fs p) : a.inWorker.foundIn fs paths = a.foundIn fs paths := by
  rw [foundIn, foundIn, findings_inWorker]
  refine congrArg a.findings (List.map_congr_left fun p hp => ?_)
  rw [found_inWorker (h p (mem_mergeSort_iff.1 (mem_distinct_iff.1 hp)))]

/-- Where the files fit alike, workers find in them what is found without workers. -/
theorem foundIn_reader (h : ∀ p ∈ paths, a.room.FitsAlike fs p) (sideBySide : Bool) :
    (a.reader sideBySide).foundIn fs paths = a.foundIn fs paths := by
  cases sideBySide with
  | false => rfl
  | true => exact foundIn_inWorker h

/-! ## Audits of files -/

/-- The findings are those of the audit that looks into the files: itself, or as its workers make it. -/
theorem ofPaths_of_ok (h : ∀ p ∈ paths, ¬ p.hasNull = true) (jobs : Int) :
    (a.ofPaths fs paths jobs).1 = .ok ((a.reader (sideBySide paths jobs)).foundIn fs paths) := by
  have hordered : ∀ p ∈ paths.mergeSort Path.le, ¬ p.hasNull = true :=
    fun p hp => h p (mem_mergeSort_iff.1 hp)
  rw [ofPaths]
  dsimp only
  rw [fileExtractions_of_ok hordered]
  show Except.ok (a.findings _) = _
  rw [foundIn, findings_reader, keepFirst_map, List.map_map]
  rfl

/-- A null character in one of the paths ends an audit, whichever place the path is sorted to. -/
theorem ofPaths_of_error (h : ∃ p ∈ paths, p.hasNull = true) (jobs : Int) :
    (a.ofPaths fs paths jobs).1 = .error .nullCharacter := by
  have hnull : ∃ p ∈ paths.mergeSort Path.le, p.hasNull = true := by
    obtain ⟨p, hp, hnull⟩ := h
    exact ⟨p, mem_mergeSort_iff.2 hp, hnull⟩
  rw [ofPaths]
  dsimp only
  rw [fileExtractions_of_error hnull]
  rfl

/-- Workers find what the audit finds as they make it, in whatever order they finish. -/
theorem ofWorkers_of_ok (h : ∀ p ∈ paths, ¬ p.hasNull = true) {finished : List Nat}
    (hfinished : finished.Perm (List.range paths.length)) :
    a.ofWorkers fs paths finished = .ok (a.inWorker.foundIn fs paths) := by
  have hlength : (paths.mergeSort Path.le).length = paths.length :=
    (List.mergeSort_perm paths Path.le).length_eq
  have hgiven : ∀ p ∈ paths.mergeSort Path.le, a.inWorker.fileExtraction fs p = .ok (a.inWorker.found fs p) :=
    fun p hp => fileExtraction_of_not_hasNull (h p (mem_mergeSort_iff.1 hp))
  rw [ofWorkers, collect_of_perm hgiven (by rw [hlength]; exact hfinished) (by rw [List.length_map])]
  show Except.ok (a.findings _) = _
  -- results are put to their paths by place, in whatever order they were finished
  have hzip : (paths.mergeSort Path.le).zip ((paths.mergeSort Path.le).map (a.inWorker.found fs)) =
      (paths.mergeSort Path.le).map fun p => (p, a.inWorker.found fs p) := by
    rw [List.zip_eq_zipWith, List.zipWith_map_right, List.zipWith_self]
  rw [hzip, tabulate_map, List.map_map, foundIn, findings_inWorker]
  rfl

/-- A null character in one of the paths ends an audit by workers too, in whatever order they finish: the worker of
that path comes to its turn, and no other failure ends the audit before. -/
theorem ofWorkers_of_error (h : ∃ p ∈ paths, p.hasNull = true) {finished : List Nat}
    (hfinished : finished.Perm (List.range paths.length)) :
    a.ofWorkers fs paths finished = .error .nullCharacter := by
  obtain ⟨p, hp, hnull⟩ := h
  obtain ⟨i, hi, hget⟩ := List.getElem_of_mem (mem_mergeSort_iff.2 hp)
  have hlength : (paths.mergeSort Path.le).length = paths.length :=
    (List.mergeSort_perm paths Path.le).length_eq
  have hmem : i ∈ finished := by
    rw [hfinished.mem_iff, List.mem_range, ← hlength]
    exact hi
  have hfails : a.inWorker.fileExtraction fs p = .error .nullCharacter :=
    fileExtraction_eq_error_iff.2 ⟨rfl, hnull⟩
  have honly (q : Path) (e : AccessError) (he : a.inWorker.fileExtraction fs q = .error e) :
      e = .nullCharacter := (fileExtraction_eq_error_iff.1 he).1
  rw [ofWorkers, collect_of_error honly hmem (List.getElem?_eq_some_iff.2 ⟨hi, hget⟩) hfails]
  rfl

/-- What is found in files goes by the set of them. Written paths that are each before the other are equal, so there
is one way to sort them. -/
theorem foundIn_eq {paths' : List Path} (hwritten : ∀ p ∈ paths, p.IsWritten)
    (h : ∀ p, p ∈ paths' ↔ p ∈ paths) : a.foundIn fs paths = a.foundIn fs paths' := by
  have htotal (p q : Path) : (Path.le p q || Path.le q p) = true := by
    rw [Bool.or_eq_true]
    exact Path.le_total p q
  have hlinear : ∀ p ∈ paths, ∀ q ∈ paths, Path.le p q = true → Path.le q p = true → p = q :=
    fun p hp q hq => (hwritten p hp).le_antisymm (hwritten q hq)
  have hordered : distinct (paths.mergeSort Path.le) = distinct (paths'.mergeSort Path.le) :=
    distinct_mergeSort_eq (fun _ _ _ => Path.le_trans) htotal hlinear h
  rw [foundIn, foundIn, hordered]

/-- As many files are scanned as there are different paths. -/
theorem filesScanned_foundIn : (a.foundIn fs paths).filesScanned = paths.toFinset.card := by
  have hset : (distinct (paths.mergeSort Path.le)).toFinset = paths.toFinset := by
    ext p
    rw [List.mem_toFinset, List.mem_toFinset, mem_distinct_iff, mem_mergeSort_iff]
  rw [← hset, List.toFinset_card_of_nodup (nodup_distinct _)]
  simp [foundIn, findings, Findings.ofFiles, options]

/-! ## Audits of texts -/

/-- Sources are ordered as the names and texts that they consist of. -/
theorem sourceLe_iff (s t : String × String) : sourceLe s t = true ↔ [s.1, s.2] ≤ [t.1, t.2] := by
  rw [← Path.partsLe_iff, ← Bool.eq_iff_iff]
  unfold sourceLe
  by_cases hname : s.1 = t.1
  · by_cases htext : s.2 = t.2
    · simp [Path.partsLe, textLe, hname, htext]
    · simp [Path.partsLe, textLe, hname, htext]
  · simp [Path.partsLe, textLe, hname]

/-- In-memory sources are sorted by their names and texts before they are looked into, so that their order makes no
difference. Sources that are each before the other are equal. -/
theorem ofSources_perm {sources sources' : List (String × String)} (h : sources.Perm sources') :
    a.ofSources sources = a.ofSources sources' := by
  have htrans (s t u : String × String) (hst : sourceLe s t = true) (htu : sourceLe t u = true) :
      sourceLe s u = true := by
    rw [sourceLe_iff] at hst htu ⊢
    exact hst.trans htu
  have htotal (s t : String × String) : (sourceLe s t || sourceLe t s) = true := by
    rw [Bool.or_eq_true, sourceLe_iff, sourceLe_iff]
    exact le_total _ _
  -- sources of one name and one text are the same source
  have hantisymm (s : String × String) (_ : s ∈ sources) (t : String × String) (_ : t ∈ sources)
      (hst : sourceLe s t = true) (hts : sourceLe t s = true) : s = t := by
    rw [sourceLe_iff] at hst hts
    obtain ⟨hname, htext⟩ := List.cons.inj (hst.antisymm hts)
    exact Prod.ext hname (List.singleton_inj.1 htext)
  rw [ofSources, ofSources, mergeSort_eq_of_perm htrans htotal hantisymm h]

end Audit

/-- **An audit goes by the set of its files.** Lists of paths with the same paths, in any order and however often, are
audited alike, by any number of workers and in whatever order these finish, if both audits leave the files to workers or
neither does, or if the files fit alike. There are findings unless a path has a null character, and each path counts once
in them. Named texts are audited alike in any order. -/
theorem audit_goes_by_set_of_files (a : Audit) (fs : Files) :
    (∀ paths paths' : List Path, (∀ p ∈ paths, p.IsWritten) → (∀ p, p ∈ paths' ↔ p ∈ paths) →
      ∀ jobs jobs',
        ((Audit.sideBySide paths' jobs' = Audit.sideBySide paths jobs ∨ ∀ p ∈ paths, a.room.FitsAlike fs p) →
          (a.ofPaths fs paths' jobs').1 = (a.ofPaths fs paths jobs).1) ∧
        ((Audit.sideBySide paths jobs = true ∨ ∀ p ∈ paths, a.room.FitsAlike fs p) →
          ∀ finished, finished.Perm (List.range paths'.length) →
            a.ofWorkers fs paths' finished = (a.ofPaths fs paths jobs).1) ∧
        ((∃ f, (a.ofPaths fs paths jobs).1 = .ok f) ↔ ∀ p ∈ paths, ¬ p.hasNull = true) ∧
        ∀ f, (a.ofPaths fs paths jobs).1 = .ok f → f.filesScanned = paths.toFinset.card) ∧
      ∀ sources sources', sources.Perm sources' → a.ofSources sources' = a.ofSources sources := by
  refine ⟨fun paths paths' hwritten hsame jobs jobs' => ?_, fun _ _ h => (Audit.ofSources_perm h).symm⟩
  have hfound (b : Audit) : b.foundIn fs paths = b.foundIn fs paths' := Audit.foundIn_eq hwritten hsame
  by_cases hnull : ∃ p ∈ paths, p.hasNull = true
  · -- a path of no file ends every audit in which it is named
    have hnull' : ∃ p ∈ paths', p.hasNull = true := by
      obtain ⟨p, hp, hnull⟩ := hnull
      exact ⟨p, (hsame p).2 hp, hnull⟩
    rw [Audit.ofPaths_of_error hnull, Audit.ofPaths_of_error hnull']
    refine ⟨fun _ => rfl, fun _ finished hfinished => Audit.ofWorkers_of_error hnull' hfinished, ?_, ?_⟩
    · simpa using hnull
    · simp
  · have hok : ∀ p ∈ paths, ¬ p.hasNull = true := fun p hp h => hnull ⟨p, hp, h⟩
    have hok' : ∀ p ∈ paths', ¬ p.hasNull = true := fun p hp => hok p ((hsame p).1 hp)
    rw [Audit.ofPaths_of_ok hok, Audit.ofPaths_of_ok hok']
    refine ⟨?_, ?_, by simpa using hok, ?_⟩
    · rintro (hmode | hfits)
      · rw [hmode, hfound]
      · rw [← hfound, Audit.foundIn_reader hfits, Audit.foundIn_reader hfits]
    · intro hworkers finished hfinished
      rw [Audit.ofWorkers_of_ok hok' hfinished, ← hfound]
      rcases hworkers with hmode | hfits
      · rw [hmode]
        rfl
      · rw [Audit.foundIn_inWorker hfits, Audit.foundIn_reader hfits]
    · intro f hf
      rw [← Except.ok.inj hf, Audit.filesScanned_foundIn]

/-- A script and a stylesheet. -/
def twoFiles : Files :=
  ⟨[(["a.js"], .file (encode "fetch(x)")), (["b.css"], .file (encode "a \x7b\x7d"))], []⟩

/-- One of two files is named again, and the last worker finishes first; the other audit has no workers. -/
theorem audit_goes_by_set_of_files_named_twice :
    let paths := [Path.ofString "a.js", Path.ofString "b.css"]
    let paths' := [Path.ofString "a.js", Path.ofString "b.css", Path.ofString "./a.js"]
    (∀ p ∈ paths, fetchAudit.room.FitsAlike twoFiles p) ∧
      fetchAudit.ofWorkers twoFiles paths' [2, 0, 1] = (fetchAudit.ofPaths twoFiles paths 1).1 ∧
      (fetchAudit.ofPaths twoFiles paths' 4).1 = (fetchAudit.ofPaths twoFiles paths 1).1 ∧
      ∃ f, (fetchAudit.ofPaths twoFiles paths 1).1 = .ok f ∧ f.filesScanned = 2 ∧
        f.warnings ≠ [] := by
  intro paths paths'
  have hwritten : ∀ p ∈ paths, p.IsWritten := by
    intro p hp
    rcases List.mem_pair.1 hp with rfl | rfl
    · exact ⟨_, rfl⟩
    · exact ⟨_, rfl⟩
  have hsame : ∀ p, p ∈ paths' ↔ p ∈ paths := by
    intro p
    have hdot : Path.ofString "./a.js" = Path.ofString "a.js" := by decide +kernel
    simp only [paths, paths', hdot, List.mem_cons, List.not_mem_nil, or_false]
    constructor
    · rintro (hp | hp | hp)
      · exact Or.inl hp
      · exact Or.inr hp
      · exact Or.inl hp
    · rintro (hp | hp)
      · exact Or.inl hp
      · exact Or.inr (Or.inl hp)
  have hfits : ∀ p ∈ paths, fetchAudit.room.FitsAlike twoFiles p := by
    intro p hp hkind bytes hread
    rcases List.mem_pair.1 hp with rfl | rfl
    · exact absurd hkind (by decide +kernel)
    · have hbytes : (twoFiles.read (Path.ofString "b.css")) = .ok (encode "a \x7b\x7d") := rfl
      obtain rfl := Except.ok.inj (hbytes.symm.trans hread)
      -- one rule fits everywhere
      decide +kernel
  obtain ⟨hfiles, -⟩ := audit_goes_by_set_of_files fetchAudit twoFiles
  obtain ⟨hjobs, hworkers, hgives, hcount⟩ := hfiles paths paths' hwritten hsame 1 4
  refine ⟨hfits, hworkers (.inr hfits) [2, 0, 1] (by decide), hjobs (.inr hfits), ?_⟩
  obtain ⟨f, hf⟩ := hgives.2 (by decide +kernel)
  have htwo : paths.toFinset.card = 2 := by decide +kernel
  have hordered : paths.mergeSort Path.le = paths := List.mergeSort_of_pairwise (by decide +kernel)
  have hfound : (fetchAudit.ofPaths twoFiles paths 1).1.map Findings.warnings ≠ .ok [] := by
    rw [Audit.ofPaths, hordered]
    decide +kernel
  refine ⟨f, hf, by rw [hcount f hf, htwo]; rfl, ?_⟩
  intro hnone
  rw [hf] at hfound
  exact hfound (by rw [Except.map, hnone])

/-! ## Files that tell workers from no workers -/

/-- An empty stylesheet, and one that is as deep as told. -/
def deepFiles (depth : Nat) : Files :=
  ⟨[(["a.css"], .file []), (["b.css"], .file (encode (deepSheet depth)))], []⟩

/-- Their paths. -/
def deepPaths : List Path := [Path.ofString "a.css", Path.ofString "b.css"]

/-- The uses at the selector of the deep sheet. -/
def Audit.usesOfArrows (a : Audit) : List Usage :=
  (extractNodes a.registry a.settings.target "b.css" [.rule ⟨1, 1⟩ arrows []]).usages

/-- Once the bytes of a file are read, what is found in it is what is extracted from its text. -/
theorem Audit.found_of_read {a : Audit} {fs : Files} {p : Path} {bytes : List UInt8} (h : fs.read p = .ok bytes) :
    a.found fs p = a.extraction p.toString (sourceText bytes) := by
  have hextraction : a.fileExtraction fs p = .ok (a.extraction p.toString (sourceText bytes)) := by
    rw [fileExtraction, h]
  rw [found, hextraction, Except.toOption, Option.getD_some]

/-- The uses in the deep sheet are found if there is room for it. -/
theorem usages_extraction_deepSheet (a : Audit) (n : Nat) :
    (a.extraction "b.css" (deepSheet (n + 1))).usages =
      if n + 1 ≤ a.room.entries then a.usesOfArrows else [] := by
  have hkind : fileKind? "b.css" = some .stylesheet := by decide +kernel
  unfold Audit.extraction
  rw [hkind]
  dsimp only
  -- the sheet is read if there is room for every rule in it, and passed over with a notice if not
  by_cases hroom : n + 1 ≤ a.room.entries
  · rw [if_pos hroom, extract_of_within (longInteger?_deepSheet n) (by rwa [depthOfAll_deepSheet]),
      extractNodes_deepSheet]
    rfl
  · rw [if_neg hroom, extract_of_beyond (longInteger?_deepSheet n) (by rwa [depthOfAll_deepSheet])]

/-- In the nested stylesheet an audit finds its uses if there is room for as many rules, and nothing if there is not.
-/
theorem usages_found_deepFiles (a : Audit) (n : Nat) :
    (a.found (deepFiles (n + 1)) (Path.ofString "b.css")).usages =
      if n + 1 ≤ a.room.entries then a.usesOfArrows else [] := by
  have hread : (deepFiles (n + 1)).read (Path.ofString "b.css") = .ok (encode (deepSheet (n + 1))) := rfl
  have hname : (Path.ofString "b.css").toString = "b.css" := by decide +kernel
  have hplain : fileKind? "b.css" = some .script → Script.EndsLinesPlainly (deepSheet (n + 1)) := by
    have hkind : fileKind? "b.css" ≠ some .script := by decide +kernel
    exact fun h => absurd h hkind
  rw [Audit.found_of_read hread, hname, Audit.sourceText_encode, Audit.extraction_universalNewlines hplain,
    usages_extraction_deepSheet]

/-- There is room for the empty sheet, and there are no uses in it. -/
theorem usages_found_emptySheet (a : Audit) (n : Nat) :
    (a.found (deepFiles n) (Path.ofString "a.css")).usages = [] := by
  have hread : (deepFiles n).read (Path.ofString "a.css") = .ok [] := rfl
  have hname : (Path.ofString "a.css").toString = "a.css" := by decide +kernel
  have htext : Audit.sourceText [] = "" := by decide +kernel
  have hkind : fileKind? "a.css" = some .stylesheet := by decide +kernel
  have hnodes : sheet (lexemes "") = [] := by
    have hlexemes : lexemes "" = [] := by decide +kernel
    rw [hlexemes, sheet, nodesOf_eq_map]
    simp [nested, nestedFrom, items]
  -- nothing is nested in an empty sheet, so any room will do
  have hdepth : Node.depthOfAll (sheet (lexemes "")) ≤ a.room.entries := by
    rw [hnodes]
    exact Nat.zero_le _
  rw [Audit.found_of_read hread, hname, htext]
  unfold Audit.extraction
  rw [hkind]
  dsimp only
  rw [extract_of_within (by decide +kernel) hdepth, hnodes]
  rfl

/-- How many uses are found in the two files depends on the room of those that look into them. -/
theorem totalFeatures_ofPaths_deepFiles (a : Audit) (n : Nat) (jobs : Int) :
    (a.ofPaths (deepFiles (n + 1)) deepPaths jobs).1.map Findings.totalFeatures =
      .ok (if n + 1 ≤ (a.reader (Audit.sideBySide deepPaths jobs)).room.entries then a.usesOfArrows.length
        else 0) := by
  have hnull : ∀ p ∈ deepPaths, ¬ p.hasNull = true := by decide +kernel
  -- the two paths are in order, and differ
  have hordered : distinct (deepPaths.mergeSort Path.le) = deepPaths := by
    rw [List.mergeSort_of_pairwise (by decide +kernel)]
    decide +kernel
  have huses : (a.reader (Audit.sideBySide deepPaths jobs)).usesOfArrows = a.usesOfArrows := by
    rw [Audit.usesOfArrows, Audit.reader_registry, Audit.reader_settings]
    rfl
  rw [Audit.ofPaths_of_ok hnull]
  show Except.ok _ = _
  generalize a.reader (Audit.sideBySide deepPaths jobs) = b at huses ⊢
  rw [Audit.foundIn, hordered, ← huses]
  simp only [Audit.findings, Findings.ofFiles, deepPaths, List.map_cons, List.map_nil, List.flatMap_cons,
    List.flatMap_nil, usages_found_emptySheet, usages_found_deepFiles, List.nil_append, List.append_nil]
  split <;> rfl

/-- Wherever workers have more room or less, there are files that show it: a sheet that fits where there is more. -/
theorem exists_files_of_room_ne {a : Audit} (huses : a.usesOfArrows ≠ []) (hroom : a.room.entries ≠ a.room.workers) :
    ∃ fs, (a.ofPaths fs deepPaths 2).1 ≠ (a.ofPaths fs deepPaths 1).1 := by
  have hlength : a.usesOfArrows.length ≠ 0 := fun hnone => huses (List.length_eq_zero_iff.1 hnone)
  obtain ⟨n, hn⟩ : ∃ n, n + 1 = max a.room.entries a.room.workers := ⟨max a.room.entries a.room.workers - 1, by omega⟩
  refine ⟨deepFiles (n + 1), fun heq => ?_⟩
  have hsame := congrArg (Except.map Findings.totalFeatures) heq
  rw [totalFeatures_ofPaths_deepFiles, totalFeatures_ofPaths_deepFiles] at hsame
  have hcounts : (if n + 1 ≤ a.room.workers then a.usesOfArrows.length else 0) =
      if n + 1 ≤ a.room.entries then a.usesOfArrows.length else 0 := Except.ok.inj hsame
  -- the sheet fits in the larger of the two rooms only
  split at hcounts <;> split at hcounts <;> omega

/-- An audit that knows piercing combinators alone. -/
def piercingAudit : Audit :=
  { registry := .ofFeatures [⟨"deep-combinator", "Deep combinators", .limited, [], [], []⟩]
    settings := {}
    room := .usual }

/-- An audit that knows piercing combinators finds one use in three arrows. -/
theorem usesOfArrows_piercingAudit : piercingAudit.usesOfArrows.length = 1 := by decide +kernel

/-- With workers a use is found in two files, and without workers none. -/
theorem workers_find_more :
    (piercingAudit.ofPaths (deepFiles 983) deepPaths 2).1.map Findings.totalFeatures = .ok 1 ∧
      (piercingAudit.ofPaths (deepFiles 983) deepPaths 1).1.map Findings.totalFeatures = .ok 0 ∧
      (piercingAudit.ofPaths (deepFiles 983) deepPaths 2).1 ≠
        (piercingAudit.ofPaths (deepFiles 983) deepPaths 1).1 := by
  have htwo : (piercingAudit.ofPaths (deepFiles 983) deepPaths 2).1.map Findings.totalFeatures = .ok 1 := by
    rw [totalFeatures_ofPaths_deepFiles, usesOfArrows_piercingAudit]
    rfl
  have hone : (piercingAudit.ofPaths (deepFiles 983) deepPaths 1).1.map Findings.totalFeatures = .ok 0 := by
    rw [totalFeatures_ofPaths_deepFiles, usesOfArrows_piercingAudit]
    rfl
  refine ⟨htwo, hone, fun heq => ?_⟩
  rw [heq, hone] at htwo
  exact absurd htwo (by decide)

end FeatureAudit
