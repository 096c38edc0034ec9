import FeatureAudit.Proofs.Files
import FeatureAudit.Proofs.Json.Writing
import FeatureAudit.Proofs.Settings.Precedence

/-!
# Settings that are written and read

Settings are written under the second names of their fields and read under either, and paths that are not set
are left out. So what is read in the fields that were written is what was written; and a file with a text of
these fields gives the settings back, whatever its gaps, escapes and line ends.

* **`Settings.value?`** — the values that settings have, by the names of the settings.
* **`Settings.drawnFrom_value?`** — settings are drawn from the values that they have.
* **`Settings.isPlain_toValue`**, **`Settings.depth_toValue_le`** — settings as JSON are read back from every
  text.
* **`Settings.load_of_isTextOf`** — a file with the text of settings gives the settings.
* **`load_of_writeDefaultSettings`** — the file of defaults gives the defaults.
* **`settings_come_back`** — settings come back from their fields and from their texts.
-/
namespace FeatureAudit

open FeatureAudit.Json FeatureAudit.Text

namespace Settings

/-! ## What settings are written as -/

/-- The values that settings have, by the names of the settings. -/
def value? (s : Settings) (name : String) : Option Value :=
  match name with
  | "target" => some (.str s.target.name)
  | "browsers" => some (.ofStrings s.browsers)
  | "exceptions" => some (.ofStrings s.exceptions)
  | "ignore_files" => some (.ofStrings s.ignoreFiles)
  | "generate_fixes" => some (.bool s.generateFixes)
  | "report_format" => some (.str s.reportFormat.name)
  | "output_file" => s.outputFile.map .str
  | "dataset" => s.dataset.map .str
  | _ => none

variable {s : Settings} {name : String}

/-- Among the fields that are written, read as fields that are given directly. -/
theorem lookup?_toFields (h : name ∈ fieldNames) :
    Value.lookup? (withSecondNames s.toFields) name = s.value? name := by
  obtain ⟨_, _, _, _, _, _, outputFile, dataset⟩ := s
  simp only [fieldNames, List.mem_cons, List.not_mem_nil, or_false] at h
  cases outputFile <;> cases dataset <;>
    rcases h with rfl | rfl | rfl | rfl | rfl | rfl | rfl | rfl <;> rfl

/-- Among the fields that are written, read as the fields of a file. -/
theorem lastValue?_toFields (h : name ∈ fieldNames) :
    lastValue? (isNamedBy name) s.toFields = s.value? name := by
  obtain ⟨_, _, _, _, _, _, outputFile, dataset⟩ := s
  simp only [fieldNames, List.mem_cons, List.not_mem_nil, or_false] at h
  cases outputFile <;> cases dataset <;>
    rcases h with rfl | rfl | rfl | rfl | rfl | rfl | rfl | rfl <;> rfl

/-- Without an environment and overrides the values of a file count. -/
theorem winner?_toFields (h : name ∈ fieldNames) : winner? s.toFields [] [] name = s.value? name := by
  have henvironment : environmentValue? [] name = none := by
    simp only [fieldNames, List.mem_cons, List.not_mem_nil, or_false] at h
    rcases h with rfl | rfl | rfl | rfl | rfl | rfl | rfl | rfl <;> rfl
  have hoverride : overrideValue? [] name = none := rfl
  rw [winner?, hoverride, henvironment, lastValue?_toFields h]
  rfl

/-! ## Reading what settings are written as -/

theorem checkTier_name (t : Tier) : checkTier (.str t.name) = .good t := by
  cases t <;> rfl

/-- The name of a report's format is checked to be that format. -/
theorem checkFormat_name (f : ReportFormat) : checkFormat (.str f.name) = .good f := by
  cases f <;> rfl

/-- Items that are all texts are checked to be these texts, wherever in a list they start. -/
theorem checkItems_map_str (start : Nat) (xs : List String) :
    checkItems checkText start (xs.map .str) = .good xs := by
  induction xs generalizing start with
  | nil => rfl
  | cons x xs ih =>
    rw [List.map_cons, checkItems, ih]
    rfl

theorem checkList_ofStrings (xs : List String) : checkList checkText (.ofStrings xs) = .good xs :=
  checkItems_map_str 0 xs

/-- A path that may be missing is given back by the value it is written as: by null if it is missing. -/
theorem gives_checkOptional (path : Option String) :
    Gives (checkOptional checkText) none (path.map .str) path := by
  cases path <;> rfl

/-- Settings are drawn from the values that they have. -/
theorem drawnFrom_value? (s : Settings) : s.DrawnFrom s.value? where
  target := checkTier_name s.target
  browsers := checkList_ofStrings s.browsers
  exceptions := checkList_ofStrings s.exceptions
  ignoreFiles := checkList_ofStrings s.ignoreFiles
  generateFixes := rfl
  reportFormat := checkFormat_name s.reportFormat
  outputFile := gives_checkOptional s.outputFile
  dataset := gives_checkOptional s.dataset

/-- The fields that settings are written as are read as these settings. Each setting is found under the name it was
written with. -/
theorem ofFields_toFields (s : Settings) : ofFields s.toFields = .good s :=
  ofFields_eq_good_iff_drawnFrom.2 (s.drawnFrom_value?.congr fun _ => lookup?_toFields)

/-- With neither variables nor overrides, the fields that settings are written as bring them back. -/
theorem ofSources_toFields (s : Settings) : ofSources s.toFields [] [] = .ok s :=
  ofSources_eq_ok_iff.2 (s.drawnFrom_value?.congr fun _ => winner?_toFields)

/-! ## Settings as text -/

/-- Settings are written with each name once. The two paths may be missing, which leaves out names and never adds one.
-/
theorem nodup_names_toFields (s : Settings) : (s.toFields.map Prod.fst).Nodup := by
  have hpath : ∀ name path, ((textField? name path).map Prod.fst).Sublist [name] := by
    intro name path
    cases path with
    | none => exact List.nil_sublist _
    | some path => exact List.Sublist.refl _
  have hnames : ["target", "browsers", "exceptions", "ignoreFiles", "generateFixes", "reportFormat",
      "outputFile", "dataset"].Nodup := by decide
  rw [toFields, List.map_append, List.map_append]
  exact (((List.Sublist.refl _).append (hpath _ _)).append (hpath _ _)).nodup hnames

/-- A text, a truth value or a list of texts. -/
inductive IsFlat : Value → Prop where
  | text (s : String) : IsFlat (.str s)
  | flag (b : Bool) : IsFlat (.bool b)
  | texts (xs : List String) : IsFlat (.ofStrings xs)

/-- Texts, flags and lists of texts are plain: there are no numbers and no names in them. -/
theorem IsFlat.isPlain {v : Value} (h : IsFlat v) : v.IsPlain := by
  cases h with
  | text s => exact trivial
  | flag b => exact trivial
  | texts xs =>
    refine Value.arePlain_iff.2 fun v hv => ?_
    obtain ⟨x, -, rfl⟩ := List.mem_map.1 hv
    exact trivial

/-- Texts and flags have no levels, and lists of texts have one. -/
theorem IsFlat.depth_le {v : Value} (h : IsFlat v) : v.depth ≤ 1 := by
  cases h with
  | text s => exact Nat.zero_le 1
  | flag b => exact Nat.zero_le 1
  | texts xs =>
    refine Nat.succ_le_succ (Value.depthOfItems_le_iff.2 fun v hv => ?_)
    obtain ⟨x, -, rfl⟩ := List.mem_map.1 hv
    exact Nat.le_refl 0

/-- Settings are written as texts, flags and lists of texts, one for each setting. -/
theorem isFlat_of_mem_toFields {f : String × Value} (h : f ∈ s.toFields) : IsFlat f.2 := by
  have hpath : ∀ name path, ∀ f ∈ textField? name path, IsFlat f.2 := by
    intro name path f hf
    cases path with
    | none => exact absurd hf List.not_mem_nil
    | some path =>
      obtain rfl := List.mem_singleton.1 hf
      exact .text path
  rw [toFields, List.mem_append, List.mem_append] at h
  rcases h with (h | h) | h
  · simp only [List.mem_cons, List.not_mem_nil, or_false] at h
    rcases h with rfl | rfl | rfl | rfl | rfl | rfl <;> constructor
  · exact hpath _ _ f h
  · exact hpath _ _ f h

/-- The value that settings are written as is plain, so a text of it is read back as it was. -/
theorem isPlain_toValue (s : Settings) : s.toValue.IsPlain :=
  ⟨s.nodup_names_toFields, Value.fieldsArePlain_iff.2 fun _ hf => (isFlat_of_mem_toFields hf).isPlain⟩

/-- There is room for the value of settings, however little there is. -/
theorem depth_toValue_le (room : Room) (s : Settings) : s.toValue.depth ≤ room.values := by
  have hfields : Value.depthOfFields s.toFields ≤ 1 :=
    Value.depthOfFields_le_iff.2 fun _ hf => (isFlat_of_mem_toFields hf).depth_le
  calc s.toValue.depth
    _ ≤ 1 + 1 := Nat.succ_le_succ hfields
    _ ≤ writtenDepth := by decide
    _ ≤ room.values := room.enough

/-! ## Files with settings -/

variable {room : Room} {fs : Files} {r : SettingsRequest} {path : Path} {text : String}

/-- A file with a text of settings is read as the fields of these settings, whatever its line ends and its gaps are.
There is always room for the levels in it. -/
theorem readSettingsFile_of_isTextOf (htext : IsTextOf s.toValue text.toList)
    (hread : fs.read path = .ok (encode text)) : readSettingsFile room fs path = .ok s.toFields := by
  have hvalue : read room (universalNewlines text.toList) = .ok (.obj s.toFields) :=
    read_of_isTextOf htext.universalNewlines s.isPlain_toValue (s.depth_toValue_le room)
  unfold readSettingsFile
  rw [hread]
  dsimp only
  rw [decode?_encode]
  dsimp only
  rw [hvalue]

/-- A file with the text of settings gives the settings. -/
theorem load_of_isTextOf (htext : IsTextOf s.toValue text.toList) (hfile : r.file? fs = .ok (some path))
    (hread : fs.read path = .ok (encode text)) (hnone : r.overrides = []) :
    load room fs [] r = .ok s := by
  have hobject : r.Reads room fs s.toFields := .object hfile (readSettingsFile_of_isTextOf htext hread)
  rw [hobject.load_eq, hnone, ofSources_toFields]

end Settings

open Settings

/-- The file of defaults gives the defaults: once it is written, forced or not, to load it gives them again, where
nothing is set in the environment or by the request. -/
theorem load_of_writeDefaultSettings {room : Room} {fs fs' : Files} {path : Path} {force : Bool} {r : SettingsRequest}
    (hwrite : writeDefaultSettings fs path force = .ok fs') (hname : path.name ≠ "..")
    (hfile : r.file? fs' = .ok (some path)) (hnone : r.overrides = []) :
    Settings.load room fs' [] r = .ok {} := by
  have htext : IsTextOf (toValue {}) defaultSettingsText.toList := by
    rw [defaultSettingsText, String.toList_append]
    exact (Value.isTextOf_indented (isPlain_toValue _)).append_gap (by decide)
  -- of the ways in which writing ends, only one has written
  have hread : fs'.read path = .ok (encode defaultSettingsText) := by
    unfold writeDefaultSettings at hwrite
    split at hwrite
    · exact absurd hwrite (by simp)
    split at hwrite
    · exact absurd hwrite (by simp)
    split at hwrite
    · rename_i hwritten
      rw [← Except.ok.inj hwrite]
      exact Files.read_of_write hname hwritten
    · exact absurd hwrite (by simp)
  exact load_of_isTextOf htext hfile hread hnone

/-- **Settings come back.** Read in the fields that settings are written as, they are the settings that were
written. So they are from a file: whichever of their texts it has, and wherever it is found, settings loaded
from it without an environment and overrides are those that were written. -/
theorem settings_come_back (s : Settings) :
    ofFields s.toFields = .good s ∧
      IsTextOf s.toValue s.toValue.indented.toList ∧
      ∀ text : String, IsTextOf s.toValue text.toList →
        ∀ (room : Room) (fs : Files) (r : SettingsRequest) (path : Path), r.file? fs = .ok (some path) →
          fs.read path = .ok (encode text) → r.overrides = [] → Settings.load room fs [] r = .ok s :=
  ⟨ofFields_toFields s, Value.isTextOf_indented s.isPlain_toValue,
    fun _ htext _ _ _ _ hfile hread hnone => load_of_isTextOf htext hfile hread hnone⟩

/-- Settings with a quote, a character beyond the first 65536 and an empty path. -/
def quotedSettings : Settings :=
  { target := .limited, exceptions := ["\"", "😀"], outputFile := some "" }

/-- A file with the text of these settings and a line end of two characters. -/
def quotedFiles : Files :=
  ⟨[(["c.json"], .file (encode (quotedSettings.toValue.indented ++ "\r\n")))], []⟩

/-- Settings with a quote and with a character of two code units come back from their file, also with a line end of
two characters behind them. -/
theorem settings_come_back_quoted :
    IsTextOf quotedSettings.toValue (quotedSettings.toValue.indented ++ "\r\n").toList ∧
      Settings.load .usual quotedFiles [] { file := "c.json" } = .ok quotedSettings := by
  obtain ⟨-, hwritten, hloaded⟩ := settings_come_back quotedSettings
  have htext : IsTextOf quotedSettings.toValue
      (quotedSettings.toValue.indented ++ "\r\n").toList := by
    rw [String.toList_append]
    exact hwritten.append_gap (by decide)
  have hread : quotedFiles.read (Path.ofString "c.json") =
      .ok (encode (quotedSettings.toValue.indented ++ "\r\n")) := by
    rfl
  exact ⟨htext, hloaded _ htext .usual quotedFiles { file := "c.json" } (Path.ofString "c.json") rfl hread rfl⟩

end FeatureAudit
