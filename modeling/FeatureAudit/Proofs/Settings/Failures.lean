import FeatureAudit.Proofs.Dataset.Failures
import FeatureAudit.Proofs.Settings.Precedence

/-!
# Failures of settings

Settings that cannot be loaded are told to the user, but for the failures that the steps of loading do not
expect. These come from the path of the file and from its content alone: values that are at fault are always
told, whichever source they are from.

* **`UnexpectedText`** — content of a file that reading an object in it does not expect.
* **`readSettingsFile_fails_unreported_iff`** — which files are refused without being reported.
* **`Settings.isReported_of_ofSources`** — values that are at fault are reported.
* **`SettingsRequest.Unexpected`**, **`settings_are_reported_iff`** — settings are loaded or the failure is
  told, unless something of the file is not expected.
* **`unreported_settings`** — some failures are not told.
-/
namespace FeatureAudit

open FeatureAudit.Json FeatureAudit.Text

/-! ## Files -/

/-- Content that reading an object in it does not expect: bytes that write no text, and a text beyond the
limits of the reader in the room that there is. -/
inductive UnexpectedText (room : Room) (bytes : List UInt8) : Prop where
  | noText (h : ∀ s, encode s ≠ bytes)
  | beyondLimits {s : String} (hs : encode s = bytes) {e : ReadError}
      (hread : read room (universalNewlines s.toList) = .error e)
      (h : ∀ fault line column offset, e ≠ .malformed fault line column offset)

variable {room : Room}

/-- Content that writes a text is expected but for the limits of the reader. -/
theorem unexpectedText_iff_of_decode? {bytes : List UInt8} {cs : List Char} (h : decode? bytes = some cs) :
    UnexpectedText room bytes ↔
      ∃ e, read room (universalNewlines cs) = .error e ∧
        ∀ fault line column offset, e ≠ .malformed fault line column offset := by
  constructor
  · rintro (hnone | @⟨s, hs, e, hread, hlimit⟩)
    · exact absurd h (by simp [decode?_eq_none_iff.2 hnone])
    · obtain rfl : s.toList = cs := by
        rw [← hs, decode?_encode] at h
        exact Option.some.inj h
      exact ⟨e, hread, hlimit⟩
  · rintro ⟨e, hread, hlimit⟩
    have hs : encode (String.ofList cs) = bytes := by
      rw [encode, String.toList_ofList, ← decode?_eq_some_iff.1 h]
    exact .beyondLimits hs (by rwa [String.toList_ofList]) hlimit

/-- What cannot be read as JSON is not reported unless it is malformed: numbers that are too long and too many levels
escape. -/
theorem SettingsError.isReported_malformed_eq_false_iff {path : String} {e : ReadError} :
    (SettingsError.malformed path e).isReported = false ↔
      ∀ fault line column offset, e ≠ .malformed fault line column offset := by
  cases e <;> simp [SettingsError.isReported]

variable {fs : Files} {path : Path}

/-- A file that cannot be opened is reported, and only a null character in its path is not. -/
theorem readSettingsFile_of_error {reason : AccessError} (h : fs.read path = .error reason) :
    (∃ e, readSettingsFile room fs path = .error e ∧ e.isReported = false) ↔ reason = .nullCharacter := by
  unfold readSettingsFile
  rw [h]
  cases reason <;> simp [SettingsError.isReported]

/-- Content is refused without being reported exactly if it is not expected. -/
theorem readSettingsFile_of_ok {bytes : List UInt8} (h : fs.read path = .ok bytes) :
    (∃ e, readSettingsFile room fs path = .error e ∧ e.isReported = false) ↔ UnexpectedText room bytes := by
  unfold readSettingsFile
  rw [h]
  dsimp only
  cases hcs : decode? bytes with
  | none => exact ⟨fun _ => .noText (decode?_eq_none_iff.1 hcs), fun _ => ⟨_, rfl, rfl⟩⟩
  | some cs =>
    rw [unexpectedText_iff_of_decode? hcs]
    dsimp only
    cases hread : read room (universalNewlines cs) with
    | error reason => simp [SettingsError.isReported_malformed_eq_false_iff]
    | ok v => cases v <;> simp [SettingsError.isReported]

/-- A file is refused without being reported exactly if its path has a null character, or its content is not
expected. -/
theorem readSettingsFile_fails_unreported_iff :
    (∃ e, readSettingsFile room fs path = .error e ∧ e.isReported = false) ↔
      path.hasNull = true ∨ ∃ bytes, fs.read path = .ok bytes ∧ UnexpectedText room bytes := by
  rw [← Files.read_eq_nullCharacter_iff]
  cases hread : fs.read path with
  | error reason => simp [readSettingsFile_of_error hread]
  | ok bytes => simp [readSettingsFile_of_ok hread]

/-! ## Requests -/

/-- Values that are at fault are reported. -/
theorem Settings.isReported_of_ofSources {file overrides : List (String × Value)} {env : Environment}
    {e : SettingsError} (h : ofSources file env overrides = .error e) : e.isReported = true := by
  obtain ⟨rfl, -⟩ := ofSources_eq_error_iff.1 h
  rfl

/-- Looking for a file fails for a path that cannot be followed alone. -/
theorem isReported_of_firstFile? {paths : List Path} {e : SettingsError}
    (h : firstFile? fs paths = .error e) : e.isReported = false := by
  induction paths with
  | nil => exact absurd h (by simp [firstFile?])
  | cons path rest ih =>
    rw [firstFile?] at h
    split at h
    · obtain rfl := Except.error.inj h
      rfl
    · exact absurd h (by simp)
    · exact ih h

/-- Something of the file that a request leads to is not expected: that none can be looked for, its path or
its content. -/
inductive SettingsRequest.Unexpected (r : SettingsRequest) (room : Room) (fs : Files) : Prop where
  | search {e : SettingsError} (h : r.file? fs = .error e)
  | path {path : Path} (hfile : r.file? fs = .ok (some path)) (h : path.hasNull = true)
  | content {path : Path} (hfile : r.file? fs = .ok (some path)) {bytes : List UInt8}
      (hread : fs.read path = .ok bytes) (h : UnexpectedText room bytes)

variable {r : SettingsRequest}

/-- If the search for a file of settings fails, this is not reported. -/
theorem SettingsRequest.isReported_of_file? {e : SettingsError} (h : r.file? fs = .error e) :
    e.isReported = false := by
  unfold SettingsRequest.file? at h
  split at h
  · exact isReported_of_firstFile? h
  · exact absurd h (by simp)

/-- Where there is no file of settings, nothing unexpected can come of it. -/
theorem SettingsRequest.not_unexpected_of_none (hfile : r.file? fs = .ok none) : ¬ r.Unexpected room fs := by
  intro h
  cases h with
  | search h => exact absurd (hfile.symm.trans h) (by simp)
  | path h _ => exact absurd (hfile.symm.trans h) (by simp)
  | content h _ _ => exact absurd (hfile.symm.trans h) (by simp)

/-- Once a file was found or named, something unexpected comes of it exactly if its path has a null character or its
bytes are what the reader does not expect. -/
theorem SettingsRequest.unexpected_iff_of_file? (hfile : r.file? fs = .ok (some path)) :
    r.Unexpected room fs ↔ path.hasNull = true ∨ ∃ bytes, fs.read path = .ok bytes ∧ UnexpectedText room bytes := by
  constructor
  · intro h
    cases h with
    | search h => exact absurd (hfile.symm.trans h) (by simp)
    | path h hnull =>
      obtain rfl := Option.some.inj (Except.ok.inj (hfile.symm.trans h))
      exact .inl hnull
    | content h hread htext =>
      obtain rfl := Option.some.inj (Except.ok.inj (hfile.symm.trans h))
      exact .inr ⟨_, hread, htext⟩
  · rintro (hnull | ⟨bytes, hread, htext⟩)
    · exact .path hfile hnull
    · exact .content hfile hread htext

/-- Settings fail without being reported exactly if something of their file is not expected. -/
theorem Settings.load_fails_unreported_iff (env : Environment) :
    (∃ e, Settings.load room fs env r = .error e ∧ e.isReported = false) ↔ r.Unexpected room fs := by
  -- values at fault are reported, so only the file is left to fail
  have hsources : ∀ file, ¬ ∃ e, ofSources file env r.overrides = .error e ∧ e.isReported = false := by
    rintro file ⟨e, hfails, hsilent⟩
    exact absurd (isReported_of_ofSources hfails) (by simp [hsilent])
  cases hfile : r.file? fs with
  | error e =>
    have hload : Settings.load room fs env r = .error e := by rw [Settings.load, hfile]
    exact ⟨fun _ => .search hfile, fun _ => ⟨e, hload, r.isReported_of_file? hfile⟩⟩
  | ok found =>
    cases found with
    | none =>
      have hload : Settings.load room fs env r = ofSources [] env r.overrides := by rw [Settings.load, hfile]
      rw [hload]
      exact iff_of_false (hsources []) (r.not_unexpected_of_none hfile)
    | some path =>
      rw [r.unexpected_iff_of_file? hfile, ← readSettingsFile_fails_unreported_iff, Settings.load, hfile]
      dsimp only
      cases readSettingsFile room fs path with
      | error e => simp
      | ok fields => exact iff_of_false (hsources fields) (by simp)

/-- **Settings are loaded, or the failure is told to the user, unless something of their file is not
expected**: unless a path has a null character or cannot be followed, the bytes write no text, or the text is
beyond the limits of the reader. What the environment and the overrides hold never matters. -/
theorem settings_are_reported_iff (room : Room) (fs : Files) (env : Environment) (r : SettingsRequest) :
    ((∃ s, Settings.load room fs env r = .ok s) ∨
        ∃ e, Settings.load room fs env r = .error e ∧ e.isReported = true) ↔
      ¬ r.Unexpected room fs := by
  rw [← Settings.load_fails_unreported_iff env]
  cases Settings.load room fs env r with
  | error e => simp
  | ok s => simp

/-- A file of settings with some content. -/
def settingsFiles (content : List UInt8) : Files := ⟨[(["c.json"], .file content)], []⟩

/-- A byte that starts no character is a failure that is not told. -/
theorem unreported_settings :
    ∃ e, Settings.load .usual (settingsFiles [0xFF]) [] { file := "c.json" } = .error e ∧
      e.isReported = false :=
  ⟨.notText "c.json", by decide +kernel, rfl⟩

end FeatureAudit
