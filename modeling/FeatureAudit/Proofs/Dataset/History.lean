import Mathlib.Data.List.Induction
import FeatureAudit.Proofs.Dataset.Failures
import FeatureAudit.Proofs.Files

/-!
# The datasets of a workspace over time

Files are written and deleted while datasets are asked for. A dataset that was read once is kept under its
resolved path and given again, whatever has happened to its file; one that could not be read is not kept,
so each request for it goes to the file as it is then.

* **`Workspace.loaded?_after_eq_some_iff`** — what one event adds to the registries that are kept.
* **`Workspace.LoadedIn`** — among some events, a dataset was asked for and read.
* **`Workspace.loaded?_afterAll`** — what a workspace keeps is what was read in it.
* **`Workspace.agreeAt_filter_mayChange`** — requests for datasets at other paths do not matter.
* **`Workspace.KeepsDatasets`**, **`datasets_are_kept_once_read`** — how requests are answered after events.
-/
namespace FeatureAudit

open FeatureAudit.Text

/-! ## Resolved names -/

/-- No two dots are left among settled parts. Whenever a part is settled, either it takes away the one before it or it
is none of these. -/
theorem not_mem_settle (parts : List String) : ".." ∉ settle parts := by
  unfold settle
  refine List.foldlRecOn (motive := fun kept => ".." ∉ kept) parts _ List.not_mem_nil ?_
  intro kept hkept part _
  -- a step up takes a name away, and any other name is put behind
  split
  · exact fun hmem => hkept ((List.dropLast_sublist _).subset hmem)
  · rename_i hpart
    intro hmem
    rcases List.mem_append.1 hmem with hmem | hmem
    · exact hkept hmem
    · exact hpart (beq_iff_eq.2 (List.mem_singleton.1 hmem).symm)

/-- The last part of a resolved path is never two dots, so a file that is written there is found there again. -/
theorem Path.name_resolved_ne (directory : List String) (p : Path) :
    (p.resolved directory).name ≠ ".." := by
  intro h
  have hdots := not_mem_settle (if p.isAbsolute then p.parts else directory ++ p.parts)
  rw [Path.name] at h
  cases hlast : (p.resolved directory).parts.getLast? with
  | none =>
    rw [hlast] at h
    exact absurd h (by decide)
  | some name =>
    rw [hlast] at h
    obtain rfl : name = ".." := h
    exact hdots (List.mem_of_getLast? hlast)

namespace Workspace

/-! ## Where a dataset is looked for -/

/-- The path at which a dataset is looked for; none without a name, or for a name that is no path. Names of one path
are spelled in many ways: from the working directory on, from a home directory on, and with two dots. -/
def datasetPath? (ws : Workspace) (dataset : Option String) : Option Path :=
  match dataset with
  | none => none
  | some name => if name.isEmpty then none else (ws.resolve name).toOption

variable {ws : Workspace} {dataset : Option String} {path : Path}

/-- A dataset with a path is given out from that path: two names for one path have one registry. -/
theorem registry_of_datasetPath? (h : ws.datasetPath? dataset = some path) :
    ws.registry dataset = ws.registryAt path := by
  cases dataset with
  | none => exact absurd h (by simp [datasetPath?])
  | some name =>
    rw [datasetPath?] at h
    rw [registry]
    split at h
    · exact absurd h (by simp)
    · rename_i hname
      rw [if_neg hname]
      cases hresolve : ws.resolve name with
      | error reason =>
        rw [hresolve] at h
        exact absurd h (by simp [Except.toOption])
      | ok found =>
        rw [hresolve] at h
        obtain rfl := Option.some.inj h
        rfl

/-- Without a path nothing is looked for. -/
theorem registry_of_datasetPath?_eq_none (h : ws.datasetPath? dataset = none) :
    (ws.registry dataset).2 = ws := by
  cases dataset with
  | none => rfl
  | some name =>
    rw [datasetPath?] at h
    rw [registry]
    split at h
    · rename_i hname
      rw [if_pos hname]
    · rename_i hname
      rw [if_neg hname]
      cases hresolve : ws.resolve name with
      | error reason => rfl
      | ok found =>
        rw [hresolve] at h
        exact absurd h (by simp [Except.toOption])

/-! ## A dataset at a path -/

/-- A path that gives out no registry leaves the workspace as it was. -/
theorem registryAt_snd_of_error {e : DatasetError} (h : (ws.registryAt path).1 = .error e) :
    (ws.registryAt path).2 = ws := by
  unfold registryAt at h ⊢
  split at h
  · exact absurd h (by simp)
  · split at h
    · rfl
    · exact absurd h (by simp)

/-- No file is changed by giving out a registry. -/
theorem files_registryAt : (ws.registryAt path).2.files = ws.files := by
  rw [registryAt]
  split
  · rfl
  · split <;> rfl

/-- A dataset that was asked for has been read since, if it could be, and no other has. -/
theorem loaded?_registryAt (other : Path) :
    (ws.registryAt path).2.loaded? other =
      if path = other then (ws.registryAt path).1.toOption else ws.loaded? other := by
  cases hloaded : ws.loaded? path with
  | some r =>
    -- it was kept before, so nothing is read
    rw [registryAt_of_loaded hloaded]
    split
    · rename_i heq
      rw [← heq, hloaded]
      rfl
    · rfl
  | none =>
    rw [registryAt, hloaded]
    by_cases heq : path = other
    · rw [if_pos heq, ← heq]
      cases ws.files.registry ws.room path with
      | error e => exact hloaded
      | ok r => simp [loaded?, Except.toOption]
    · rw [if_neg heq]
      cases ws.files.registry ws.room path with
      | error e => rfl
      | ok r =>
        have hother : (path == other) = false := beq_eq_false_iff_ne.2 heq
        simp [loaded?, hother]

/-! ## One event -/

/-- No file is changed by loading a dataset, whether this goes well or not. -/
theorem files_after_load : (ws.after (.load dataset)).files = ws.files := by
  show (ws.registry dataset).2.files = ws.files
  cases hpath : ws.datasetPath? dataset with
  | none => rw [registry_of_datasetPath?_eq_none hpath]
  | some path => rw [registry_of_datasetPath? hpath, files_registryAt]

/-- After a dataset was loaded its path keeps what was given out, and nothing after a failure; all other paths keep
what they kept. -/
theorem loaded?_after_load (other : Path) :
    (ws.after (.load dataset)).loaded? other =
      if ws.datasetPath? dataset = some other then (ws.registry dataset).1.toOption
      else ws.loaded? other := by
  show (ws.registry dataset).2.loaded? other = _
  cases hpath : ws.datasetPath? dataset with
  | none =>
    rw [registry_of_datasetPath?_eq_none hpath]
    rfl
  | some path =>
    rw [registry_of_datasetPath? hpath, loaded?_registryAt]
    simp only [Option.some.injEq]

/-- A change to the files leaves all registries as they were loaded. -/
theorem loaded?_changed (result : Except AccessError Files) :
    (ws.changed result).loaded? path = ws.loaded? path := by
  cases result <;> rfl

/-- A result is there as an option exactly if it is a success. -/
theorem toOption_eq_some_iff {α ε : Type} {x : Except ε α} {a : α} :
    x.toOption = some a ↔ x = .ok a := by
  cases x <;> simp [Except.toOption]

/-- After an event a registry is kept at a path if it was kept there before, or has just been read there. What
was kept before answers the request itself. -/
theorem loaded?_after_eq_some_iff {e : Event} {r : Registry} :
    (ws.after e).loaded? path = some r ↔
      ws.loaded? path = some r ∨
        ∃ dataset, e = .load dataset ∧ ws.datasetPath? dataset = some path ∧
          (ws.registry dataset).1 = .ok r := by
  cases e with
  | write target content =>
    have hkept : (ws.after (.write target content)).loaded? path = ws.loaded? path :=
      loaded?_changed _
    simp [hkept]
  | delete target =>
    have hkept : (ws.after (.delete target)).loaded? path = ws.loaded? path := loaded?_changed _
    simp [hkept]
  | load dataset =>
    -- the only event after which more registries may be kept than before
    rw [loaded?_after_load]
    by_cases hpath : ws.datasetPath? dataset = some path
    · rw [if_pos hpath, toOption_eq_some_iff]
      constructor
      · intro h
        exact Or.inr ⟨dataset, rfl, hpath, h⟩
      · rintro (hloaded | ⟨other, heq, -, h⟩)
        · rw [registry_of_datasetPath? hpath, registryAt_of_loaded hloaded]
        · obtain rfl := Event.load.inj heq
          exact h
    · rw [if_neg hpath]
      constructor
      · exact Or.inl
      · rintro (hloaded | ⟨other, heq, hother, -⟩)
        · exact hloaded
        · obtain rfl := Event.load.inj heq
          exact absurd hother hpath

/-- Two workspaces stand in one surrounding: the working directory, the environment, the home directories and the room
are the same. -/
structure SameSurrounding (ws ws' : Workspace) : Prop where
  directory : ws'.files.directory = ws.files.directory
  environment : ws'.environment = ws.environment
  homes : ws'.homes = ws.homes
  room : ws'.room = ws.room

theorem SameSurrounding.refl (ws : Workspace) : SameSurrounding ws ws := ⟨rfl, rfl, rfl, rfl⟩

/-- Surroundings that did not change in either of two steps did not change in both. -/
theorem SameSurrounding.trans {ws' ws'' : Workspace} (h : SameSurrounding ws ws') (h' : SameSurrounding ws' ws'') :
    SameSurrounding ws ws'' :=
  ⟨h'.directory.trans h.directory, h'.environment.trans h.environment, h'.homes.trans h.homes,
    h'.room.trans h.room⟩

theorem SameSurrounding.symm {ws' : Workspace} (h : SameSurrounding ws ws') : SameSurrounding ws' ws :=
  ⟨h.directory.symm, h.environment.symm, h.homes.symm, h.room.symm⟩

/-- A name stands for the same path in every workspace of one surrounding, whatever the files are. -/
theorem SameSurrounding.datasetPath? {ws' : Workspace} (h : SameSurrounding ws ws') (dataset : Option String) :
    ws'.datasetPath? dataset = ws.datasetPath? dataset := by
  cases dataset with
  | none => rfl
  | some name =>
    rw [Workspace.datasetPath?, Workspace.datasetPath?, resolve, resolve, h.environment, h.homes, h.directory]

/-- To give out a registry changes nothing but what is kept, whether it was kept before, is read now or cannot be
read. -/
theorem sameSurrounding_registryAt : SameSurrounding ws (ws.registryAt path).2 := by
  unfold registryAt
  split
  · exact .refl ws
  · split
    · exact .refl ws
    · exact ⟨rfl, rfl, rfl, rfl⟩

/-- A change to the files leaves the surroundings as they are, as long as the working directory stays the same. -/
theorem sameSurrounding_changed {result : Except AccessError Files}
    (h : ∀ files, result = .ok files → files.directory = ws.files.directory) :
    SameSurrounding ws (ws.changed result) := by
  cases result with
  | error reason => exact .refl ws
  | ok files => exact ⟨h files rfl, rfl, rfl, rfl⟩

/-- No event changes the surrounding: files are written and deleted, but the working directory stays. -/
theorem sameSurrounding_after (e : Event) : SameSurrounding ws (ws.after e) := by
  cases e with
  | write path content => exact sameSurrounding_changed fun files h => Files.directory_of_write h
  | delete path => exact sameSurrounding_changed fun files h => Files.directory_of_delete h
  | load dataset =>
    show SameSurrounding ws (ws.registry dataset).2
    cases hpath : ws.datasetPath? dataset with
    | none =>
      rw [registry_of_datasetPath?_eq_none hpath]
      exact .refl ws
    | some path =>
      rw [registry_of_datasetPath? hpath]
      exact sameSurrounding_registryAt

/-! ## Many events -/

/-- Events one after the other, and then one more. Histories are followed from their end in the proofs below. -/
theorem afterAll_concat (events : List Event) (e : Event) :
    ws.afterAll (events ++ [e]) = (ws.afterAll events).after e := by
  rw [afterAll, List.foldl_append]
  rfl

/-- No events change the surroundings, by induction on them: neither the working directory nor the environment, the
homes or the room. -/
theorem sameSurrounding_afterAll (events : List Event) : SameSurrounding ws (ws.afterAll events) := by
  induction events using List.reverseRecOn with
  | nil => exact .refl ws
  | append_singleton events e ih =>
    rw [afterAll_concat]
    exact ih.trans (sameSurrounding_after e)

/-- A dataset leads to the same path after any events. This is what makes the path a key for what is kept. -/
theorem datasetPath?_afterAll (events : List Event) (dataset : Option String) :
    (ws.afterAll events).datasetPath? dataset = ws.datasetPath? dataset :=
  (sameSurrounding_afterAll events).datasetPath? dataset

/-- A dataset that was asked for among the events was read at the path. -/
def LoadedIn (ws : Workspace) (events : List Event) (path : Path) (r : Registry) : Prop :=
  ∃ before dataset later, events = before ++ .load dataset :: later ∧
    ws.datasetPath? dataset = some path ∧
    ((ws.afterAll before).registry dataset).1 = .ok r

/-- A registry was loaded in a history exactly if it was before the last event, or if the last event has loaded it. -/
theorem loadedIn_concat {events : List Event} {e : Event} {r : Registry} :
    ws.LoadedIn (events ++ [e]) path r ↔
      ws.LoadedIn events path r ∨
        ∃ dataset, e = .load dataset ∧ ws.datasetPath? dataset = some path ∧
          ((ws.afterAll events).registry dataset).1 = .ok r := by
  constructor
  · rintro ⟨before, dataset, later, heq, hpath, hloaded⟩
    rcases List.eq_nil_or_concat later with rfl | ⟨later, last, rfl⟩
    · -- the dataset was asked for last
      obtain ⟨rfl, hlast⟩ := List.append_inj' heq rfl
      obtain rfl := List.singleton_inj.1 hlast
      exact Or.inr ⟨dataset, rfl, hpath, hloaded⟩
    · rw [List.concat_eq_append, ← List.cons_append, ← List.append_assoc] at heq
      obtain ⟨rfl, -⟩ := List.append_inj' heq rfl
      exact Or.inl ⟨before, dataset, later, rfl, hpath, hloaded⟩
  · rintro (⟨before, dataset, later, rfl, hpath, hloaded⟩ | ⟨dataset, rfl, hpath, hloaded⟩)
    · exact ⟨before, dataset, later ++ [e], by simp, hpath, hloaded⟩
    · exact ⟨events, dataset, [], rfl, hpath, hloaded⟩

/-- What a workspace keeps is what was read in it. The induction is on the events, the last one split off. -/
theorem loaded?_afterAll (hfresh : ws.loaded = []) (events : List Event) (r : Registry) :
    (ws.afterAll events).loaded? path = some r ↔ ws.LoadedIn events path r := by
  induction events using List.reverseRecOn with
  | nil =>
    -- nothing was loaded before the first event
    have hnone : ws.loaded? path = none := by simp [loaded?, hfresh]
    constructor
    · intro h
      exact absurd (hnone.symm.trans h) (by simp)
    · rintro ⟨before, dataset, later, heq, -⟩
      exact absurd heq (by simp)
  | append_singleton events e ih =>
    rw [afterAll_concat, loadedIn_concat, ← ih, loaded?_after_eq_some_iff]
    simp only [datasetPath?_afterAll]

/-! ## Events that do not matter -/

/-- The event may change what is read at a path: it changes files, or asks for the dataset there. -/
def mayChange (ws : Workspace) (path : Path) : Event → Bool
  | .write .. => true
  | .delete _ => true
  | .load dataset => decide (ws.datasetPath? dataset = some path)

/-- Whether an event may change what is read at a path is the same before and after other events. -/
theorem mayChange_afterAll (events : List Event) (e : Event) :
    (ws.afterAll events).mayChange path e = ws.mayChange path e := by
  cases e with
  | write target content => rfl
  | delete target => rfl
  | load dataset => rw [mayChange, mayChange, datasetPath?_afterAll]

/-- Two workspaces have one surrounding, the same files, and the same registry read at the path. -/
structure AgreeAt (path : Path) (ws ws' : Workspace) : Prop where
  surrounding : SameSurrounding ws ws'
  files : ws'.files = ws.files
  loaded : ws'.loaded? path = ws.loaded? path

/-- Where two workspaces agree about a path, both answer a request for it alike: from what they keep, or from the
file. -/
theorem AgreeAt.registryAt_fst {ws' : Workspace} (h : AgreeAt path ws ws') :
    (ws'.registryAt path).1 = (ws.registryAt path).1 := by
  cases hloaded : ws.loaded? path with
  | some r => rw [registryAt_of_loaded hloaded, registryAt_of_loaded (h.loaded.trans hloaded)]
  | none =>
    rw [registryAt_fst_of_fresh hloaded, registryAt_fst_of_fresh (h.loaded.trans hloaded), h.files,
      h.surrounding.room]

/-- Workspaces that agree at a path still do if the same change is made to their files. -/
theorem AgreeAt.changed {ws' : Workspace} (h : AgreeAt path ws ws')
    (result : Except AccessError Files) : AgreeAt path (ws.changed result) (ws'.changed result) := by
  cases result with
  | error reason => exact h
  | ok files =>
    exact ⟨⟨rfl, h.surrounding.environment, h.surrounding.homes, h.surrounding.room⟩, rfl, h.loaded⟩

/-- Workspaces that agree at a path still do after the same event, whichever of the three kinds it is. -/
theorem AgreeAt.after {ws' : Workspace} (h : AgreeAt path ws ws') (e : Event) :
    AgreeAt path (ws.after e) (ws'.after e) := by
  cases e with
  | write target content =>
    show AgreeAt path (ws.changed (ws.files.write target content))
      (ws'.changed (ws'.files.write target content))
    rw [h.files]
    exact h.changed _
  | delete target =>
    show AgreeAt path (ws.changed (ws.files.delete target)) (ws'.changed (ws'.files.delete target))
    rw [h.files]
    exact h.changed _
  | load dataset =>
    have hsame : ws'.datasetPath? dataset = ws.datasetPath? dataset := h.surrounding.datasetPath? dataset
    refine ⟨?_, ?_, ?_⟩
    · exact ((sameSurrounding_after _).symm.trans h.surrounding).trans (sameSurrounding_after _)
    · rw [files_after_load, files_after_load, h.files]
    · -- a load keeps a registry for its own path only, and finds the same on both sides there
      rw [loaded?_after_load, loaded?_after_load, hsame]
      by_cases hpath : ws.datasetPath? dataset = some path
      · rw [if_pos hpath, if_pos hpath, registry_of_datasetPath? hpath,
          registry_of_datasetPath? (hsame.trans hpath), h.registryAt_fst]
      · rw [if_neg hpath, if_neg hpath, h.loaded]

/-- An event that changes no files and loads nothing from a path leaves all that matters for this path. -/
theorem agreeAt_after_of_not_mayChange {e : Event}
    (h : ws.mayChange path e = false) : AgreeAt path ws (ws.after e) := by
  cases e with
  | write target content => exact absurd h (by simp [mayChange])
  | delete target => exact absurd h (by simp [mayChange])
  | load dataset =>
    have hpath : ¬ ws.datasetPath? dataset = some path := of_decide_eq_false h
    exact ⟨sameSurrounding_after _, files_after_load, by rw [loaded?_after_load, if_neg hpath]⟩

/-- A workspace agrees at a path with whatever one agrees with that it agrees with. -/
theorem AgreeAt.trans {ws' ws'' : Workspace} (h : AgreeAt path ws ws') (h' : AgreeAt path ws' ws'') :
    AgreeAt path ws ws'' :=
  ⟨h.surrounding.trans h'.surrounding, h'.files.trans h.files, h'.loaded.trans h.loaded⟩

/-- Requests for datasets at other paths can be left out. The induction is on the events, the last one split
off: it does to both workspaces the same, or to the one nothing that matters. -/
theorem agreeAt_filter_mayChange (events : List Event) :
    AgreeAt path (ws.afterAll (events.filter (ws.mayChange path)))
      (ws.afterAll events) := by
  induction events using List.reverseRecOn with
  | nil => exact ⟨.refl ws, rfl, rfl⟩
  | append_singleton events e ih =>
    rw [List.filter_append, afterAll_concat]
    cases hmay : ws.mayChange path e with
    | true =>
      -- the event happens in both workspaces
      rw [List.filter_cons_of_pos hmay, List.filter_nil, afterAll_concat]
      exact ih.after e
    | false =>
      rw [List.filter_cons_of_neg (by simp [hmay]), List.filter_nil, List.append_nil]
      exact ih.trans (agreeAt_after_of_not_mayChange (by rw [mayChange_afterAll, hmay]))

/-! ## How requests are answered -/

/-- After some events, datasets are given again once they have been read, and are looked for in the files
as they are until then. -/
structure KeepsDatasets (ws : Workspace) (events : List Event) : Prop where
  /-- What was read is given again, and nothing changes. -/
  again : ∀ {dataset path r}, ws.datasetPath? dataset = some path →
    ws.LoadedIn events path r → (ws.afterAll events).registry dataset = (.ok r, ws.afterAll events)
  /-- What was not read is looked for in the file. -/
  fresh : ∀ {dataset path}, ws.datasetPath? dataset = some path →
    (∀ r, ¬ ws.LoadedIn events path r) →
      ((ws.afterAll events).registry dataset).1 = (ws.afterAll events).files.registry ws.room path
  /-- No request changes a file. -/
  files : ∀ dataset, ((ws.afterAll events).registry dataset).2.files = (ws.afterAll events).files
  /-- A request that fails changes nothing at all. -/
  failed : ∀ {dataset e}, ((ws.afterAll events).registry dataset).1 = .error e →
    ((ws.afterAll events).registry dataset).2 = ws.afterAll events
  /-- What was not read is given once its file has been written well. -/
  repaired : ∀ {dataset path content r files}, ws.datasetPath? dataset = some path →
    (∀ r, ¬ ws.LoadedIn events path r) →
    (ws.afterAll events).files.write path content = .ok files → Dataset.registry ws.room content = .ok r →
      ((ws.afterAll (events ++ [.write path content])).registry dataset).1 = .ok r
  /-- What was not read is not found once its file has been deleted. -/
  deleted : ∀ {dataset path files}, ws.datasetPath? dataset = some path →
    (∀ r, ¬ ws.LoadedIn events path r) → (ws.afterAll events).files.delete path = .ok files →
      ((ws.afterAll (events ++ [.delete path])).registry dataset).1 =
        .error ⟨path.toString, .unreadable .notFound⟩
  /-- Exactly what was read is kept. -/
  kept : ∀ {path r}, (ws.afterAll events).loaded? path = some r ↔ ws.LoadedIn events path r
  /-- All names of one path are answered alike. -/
  names : ∀ {dataset other path}, ws.datasetPath? dataset = some path →
    ws.datasetPath? other = some path →
      (ws.afterAll events).registry dataset = (ws.afterAll events).registry other
  /-- Requests for datasets at other paths do not matter. -/
  others : ∀ {dataset path}, ws.datasetPath? dataset = some path →
    ((ws.afterAll events).registry dataset).1 =
      ((ws.afterAll (events.filter (ws.mayChange path))).registry dataset).1

variable {events : List Event}

/-- If nothing was loaded from a path in a history that began with nothing kept, then nothing is kept for it. -/
theorem loaded?_eq_none_of_not_loadedIn (hfresh : ws.loaded = [])
    (h : ∀ r, ¬ ws.LoadedIn events path r) : (ws.afterAll events).loaded? path = none := by
  cases hloaded : (ws.afterAll events).loaded? path with
  | none => rfl
  | some r => exact absurd ((loaded?_afterAll hfresh events r).1 hloaded) (h r)

/-- After any events, a dataset is given out from the path that it had led to before them. -/
theorem registry_afterAll (events : List Event)
    (hpath : ws.datasetPath? dataset = some path) :
    (ws.afterAll events).registry dataset = (ws.afterAll events).registryAt path :=
  registry_of_datasetPath? (by rw [datasetPath?_afterAll, hpath])

/-- A request after files were changed goes to the changed files. -/
theorem registry_of_changed {files : Files} (hfresh : ws.loaded? path = none)
    (hpath : ws.datasetPath? dataset = some path) (hdirectory : files.directory = ws.files.directory) :
    ((ws.changed (.ok files)).registry dataset).1 = files.registry ws.room path := by
  have hsame : SameSurrounding ws (ws.changed (.ok files)) := ⟨hdirectory, rfl, rfl, rfl⟩
  rw [registry_of_datasetPath? ((hsame.datasetPath? dataset).trans hpath)]
  exact registryAt_fst_of_fresh hfresh

/-- A dataset that cannot be loaded leaves the workspace as it is, so that it may be tried again. -/
theorem failed_registry {e : DatasetError} (h : (ws.registry dataset).1 = .error e) :
    (ws.registry dataset).2 = ws := by
  cases hpath : ws.datasetPath? dataset with
  | none => exact registry_of_datasetPath?_eq_none hpath
  | some path =>
    rw [registry_of_datasetPath? hpath] at h ⊢
    exact registryAt_snd_of_error h

/-- The path of a dataset ends in a name, never in two dots, so a file that is written there is read there. -/
theorem name_ne_of_datasetPath? (h : ws.datasetPath? dataset = some path) : path.name ≠ ".." := by
  cases dataset with
  | none => exact absurd h (by simp [datasetPath?])
  | some name =>
    rw [datasetPath?] at h
    split at h
    · exact absurd h (by simp)
    · obtain ⟨p, -, -, rfl⟩ := resolve_eq_ok_iff.1 (toOption_eq_some_iff.1 h)
      exact Path.name_resolved_ne ws.files.directory p

end Workspace

/-- **Datasets are kept once they have been read.** Whatever is written, deleted and asked for in a workspace
in which no dataset has been read before, a dataset that was read is given again, one that was not is
looked for in its file as it is, a request that fails changes nothing, and neither the name of a path nor
requests for other paths make a difference. -/
theorem datasets_are_kept_once_read (files : Files) (environment : Environment) (homes : Homes)
    (room : Room) (events : List Event) :
    (Workspace.opened files environment homes room).KeepsDatasets events := by
  have hopened : (Workspace.opened files environment homes room).loaded = [] := rfl
  constructor
  case again =>
    intro dataset path r hpath hloaded
    rw [Workspace.registry_afterAll events hpath]
    exact Workspace.registryAt_of_loaded ((Workspace.loaded?_afterAll hopened events r).2 hloaded)
  case fresh =>
    intro dataset path hpath hnever
    rw [Workspace.registry_afterAll events hpath]
    rw [Workspace.registryAt_fst_of_fresh (Workspace.loaded?_eq_none_of_not_loadedIn hopened hnever),
      (Workspace.sameSurrounding_afterAll events).room]
  case files => exact fun dataset => Workspace.files_after_load
  case failed => exact Workspace.failed_registry
  case repaired =>
    intro dataset path content r changed hpath hnever hwrite hregistry
    -- nothing is kept at the path, so the request goes to the file that was written
    have hread : changed.read path = .ok content :=
      Files.read_of_write (Workspace.name_ne_of_datasetPath? hpath) hwrite
    rw [Workspace.afterAll_concat, Workspace.after, hwrite,
      Workspace.registry_of_changed (Workspace.loaded?_eq_none_of_not_loadedIn hopened hnever)
        (by rw [Workspace.datasetPath?_afterAll, hpath]) (Files.directory_of_write hwrite),
      Files.registry, hread]
    dsimp only
    rw [(Workspace.sameSurrounding_afterAll events).room, hregistry]
  case deleted =>
    intro dataset path changed hpath hnever hdelete
    have hread : changed.read path = .error .notFound := Files.read_of_delete hdelete
    rw [Workspace.afterAll_concat, Workspace.after, hdelete,
      Workspace.registry_of_changed (Workspace.loaded?_eq_none_of_not_loadedIn hopened hnever)
        (by rw [Workspace.datasetPath?_afterAll, hpath]) (Files.directory_of_delete hdelete),
      Files.registry, hread]
  case kept => exact Workspace.loaded?_afterAll hopened events _
  case names =>
    intro dataset other path hpath hother
    rw [Workspace.registry_afterAll events hpath, Workspace.registry_afterAll events hother]
  case others =>
    intro dataset path hpath
    rw [Workspace.registry_afterAll events hpath, Workspace.registry_afterAll _ hpath]
    exact (Workspace.agreeAt_filter_mayChange events).registryAt_fst

/-- A file that holds no dataset. -/
def brokenFiles : Files := ⟨[(["d.json"], .file [0xFF])], []⟩

/-- A dataset of one feature. -/
def goodDataset : List UInt8 :=
  encode "\x7b\"a\": \x7b\"status\": \x7b\"baseline\": \"high\"\x7d\x7d\x7d"

/-- A home directory that is the root. -/
def rootHome : Environment := [(homeVariable, "/")]

/-- A dataset that cannot be read is asked for, repaired, asked for again and deleted, and still given under
two other names of its path. -/
theorem datasets_are_kept_once_read_repaired :
    let ws := Workspace.opened brokenFiles rootHome {} .usual
    let repair := [Event.load (some "d.json"), .write ⟨"/", ["d.json"]⟩ goodDataset]
    let events := repair ++ [.load (some "d.json"), .delete ⟨"/", ["d.json"]⟩]
    (ws.registry (some "d.json")).1.toOption.isNone = true ∧
      ((ws.afterAll events).files.read ⟨"/", ["d.json"]⟩) = .error .notFound ∧
      ∃ r, Dataset.registry .usual goodDataset = .ok r ∧
        ((ws.afterAll repair).registry (some "d.json")).1 = .ok r ∧
        (ws.afterAll events).registry (some "x/../d.json") = (.ok r, ws.afterAll events) ∧
        (ws.afterAll events).registry (some "~/d.json") = (.ok r, ws.afterAll events) := by
  intro ws repair events
  have hpath : ws.datasetPath? (some "d.json") = some ⟨"/", ["d.json"]⟩ := by decide +kernel
  have hdots : ws.datasetPath? (some "x/../d.json") = some ⟨"/", ["d.json"]⟩ := by decide +kernel
  have hhome : ws.datasetPath? (some "~/d.json") = some ⟨"/", ["d.json"]⟩ := by decide +kernel
  -- the first request fails, so nothing is kept
  have hnone : ((ws.afterAll [.load (some "d.json")]).loaded? ⟨"/", ["d.json"]⟩).isNone = true := by
    decide +kernel
  have hnever : ∀ r, ¬ ws.LoadedIn [.load (some "d.json")] ⟨"/", ["d.json"]⟩ r := by
    intro r hloaded
    have hkept := (datasets_are_kept_once_read brokenFiles rootHome {} .usual [.load (some "d.json")]).kept.2
      hloaded
    rw [hkept] at hnone
    exact absurd hnone (by simp)
  have hwritten : ((ws.afterAll [.load (some "d.json")]).files.write ⟨"/", ["d.json"]⟩
      goodDataset).toOption.isSome = true := by
    decide +kernel
  obtain ⟨files, hfiles⟩ := Option.isSome_iff_exists.1 hwritten
  have hgood : (Dataset.registry .usual goodDataset).toOption.isSome = true := by decide +kernel
  obtain ⟨r, hr⟩ := Option.isSome_iff_exists.1 hgood
  have hregistry : Dataset.registry .usual goodDataset = .ok r := Workspace.toOption_eq_some_iff.1 hr
  have hrepaired : ((ws.afterAll repair).registry (some "d.json")).1 = .ok r :=
    (datasets_are_kept_once_read brokenFiles rootHome {} .usual [.load (some "d.json")]).repaired hpath
      hnever (Workspace.toOption_eq_some_iff.1 hfiles) hregistry
  have hloaded : ws.LoadedIn events ⟨"/", ["d.json"]⟩ r :=
    ⟨repair, some "d.json", [.delete ⟨"/", ["d.json"]⟩], rfl, hpath, hrepaired⟩
  have hkeeps := datasets_are_kept_once_read brokenFiles rootHome {} .usual events
  exact ⟨by decide +kernel, by decide +kernel, r, hregistry, hrepaired, hkeeps.again hdots hloaded,
    hkeeps.again hhome hloaded⟩

end FeatureAudit
