import FeatureAudit.Proofs.Settings.Reading

/-!
# Each setting from its strongest source

Four sources can have a value for a setting: the overrides of a run, the environment, a file, and what is
usual. They are laid over each other field by field before any value is read, so for each setting the
strongest source that has a value counts, and that value alone is read.

* **`Settings.winner?`** — the value that counts for a setting, said of the sources one by one.
* **`Settings.lookup?_laidOver`** — it is what is found in the sources laid over each other.
* **`Settings.ofSources_eq_ok_iff`**, **`Settings.ofSources_eq_error_iff`** — settings and faults are drawn
  from the values that count.
* **`each_setting_from_its_strongest_source`** — what settings a request leads to, and when there are none.
-/
namespace FeatureAudit

open FeatureAudit.Json FeatureAudit.Text

/-! ## The value that counts -/

namespace Settings

variable {name : String}

/-- A key names a setting by its first name or by its second. -/
def isNamedBy (name key : String) : Bool := key == name || secondNames.contains (name, key)

/-- A value that says something: any but null. -/
def isSaid : Value → Bool
  | .null => false
  | _ => true

/-- The override for a setting is the last one, unless that is null. -/
def overrideValue? (overrides : List (String × Value)) (name : String) : Option Value :=
  (lastValue? (isNamedBy name) overrides).filter isSaid

/-- A text that is not empty as a value. -/
def unlessEmpty (text : String) (v : Value) : Option Value := if text.isEmpty then none else some v

/-- The value that the environment has for a setting. A blank variable has none. -/
def environmentValue? (env : Environment) (name : String) : Option Value :=
  match name with
  | "target" =>
    unlessEmpty (env.value "BASELINE_TARGET") (.str (env.value "BASELINE_TARGET"))
  | "exceptions" =>
    unlessEmpty (env.value "BASELINE_EXCEPTIONS")
      (.ofStrings (commaItems (env.value "BASELINE_EXCEPTIONS")))
  | "dataset" =>
    unlessEmpty (env.value "BASELINE_DATASET") (.str (env.value "BASELINE_DATASET"))
  | _ => none

/-- The value that counts for a setting, if any source but the defaults has one: the override, else the
value of the environment, else that of the file. -/
def winner? (file : List (String × Value)) (env : Environment) (overrides : List (String × Value))
    (name : String) : Option Value :=
  (overrideValue? overrides name).or
    ((environmentValue? env name).or (lastValue? (isNamedBy name) file))

variable {file overrides : List (String × Value)} {env : Environment}

/-! ### Names -/

/-- The first name of a second name is the one it stands beside in the table. -/
theorem firstName_of_mem_secondNames {key : String} (h : (name, key) ∈ secondNames) :
    firstName key = name := by
  have hall : ∀ n ∈ secondNames, firstName n.2 = n.1 := by decide
  exact hall _ h

/-- A key is its own first name, unless it is a second name in the table. -/
theorem firstName_eq_or (key : String) :
    firstName key = key ∨ (firstName key, key) ∈ secondNames := by
  unfold firstName
  cases hfind : secondNames.find? fun n => n.2 == key with
  | none => exact Or.inl rfl
  | some n =>
    have hkey : n.2 = key := by simpa using List.find?_some hfind
    have hmem : n ∈ secondNames := List.mem_of_find?_eq_some hfind
    exact Or.inr (hkey ▸ hmem)

theorem firstName_ne_of_mem_secondNames {n : String × String} (h : n ∈ secondNames) (key : String) :
    firstName key ≠ n.2 := by
  intro heq
  have hdistinct : ∀ n ∈ secondNames, n.1 ≠ n.2 ∧ ∀ m ∈ secondNames, m.1 ≠ n.2 := by decide
  rcases firstName_eq_or key with hkey | hmem
  · have hfirst : firstName key = n.1 := firstName_of_mem_secondNames (by rwa [← hkey, heq])
    exact (hdistinct n h).1 (hfirst.symm.trans heq)
  · exact (hdistinct n h).2 _ hmem heq

/-- Under the first name of a setting is put what is named by it. -/
theorem firstName_beq_eq_isNamedBy (h : name ∈ fieldNames) (key : String) :
    (firstName key == name) = isNamedBy name key := by
  have hfirst : ∀ name ∈ fieldNames, firstName name = name := by decide
  rw [Bool.eq_iff_iff, beq_iff_eq, isNamedBy, Bool.or_eq_true, beq_iff_eq, List.contains_iff_mem]
  constructor
  · rintro rfl
    exact (firstName_eq_or key).imp Eq.symm id
  · rintro (rfl | hmem)
    · exact hfirst key h
    · exact firstName_of_mem_secondNames hmem

/-! ### The sources laid over each other -/

/-- A field that is only given if its text is not empty counts as given exactly then, provided its key is admitted. -/
theorem lastValue?_unlessEmpty {admits : String → Bool} (key text : String) (v : Value) :
    lastValue? admits (if text.isEmpty then [] else [(key, v)]) =
      if admits key then unlessEmpty text v else none := by
  unfold unlessEmpty lastValue?
  cases text.isEmpty <;> cases hkey : admits key <;> simp [hkey]

/-- Under the name of a setting, the environment gives the value of its variable, if the setting has one and it is not
blank. The cases are the eight names. -/
theorem lastValue?_environmentFields (h : name ∈ fieldNames) :
    lastValue? (fun key => key == name) (environmentFields env) = environmentValue? env name := by
  unfold environmentFields
  simp only [lastValue?_append, lastValue?_unlessEmpty]
  simp only [fieldNames, List.mem_cons, List.not_mem_nil, or_false] at h
  rcases h with rfl | rfl | rfl | rfl | rfl | rfl | rfl | rfl <;> simp [environmentValue?]

/-- Under the name of a setting stands the last value that a file gives for it by either of its names. -/
theorem lookup?_underFirstNames_of_mem (h : name ∈ fieldNames) :
    Value.lookup? (underFirstNames file) name = lastValue? (isNamedBy name) file := by
  rw [lookup?_underFirstNames, funext (firstName_beq_eq_isNamedBy h)]

/-- Under the name of a setting, the overrides give the last value that says anything; null says nothing. -/
theorem lastValue?_effectiveOverrides (h : name ∈ fieldNames) :
    lastValue? (fun key => key == name) (effectiveOverrides overrides) =
      overrideValue? overrides name := by
  have hsaid : effectiveOverrides overrides =
      (underFirstNames overrides).filter fun f => isSaid f.2 := rfl
  rw [hsaid, lastValue?_filter_of_nodup (nodup_map_fst_underFirstNames overrides),
    lookup?_underFirstNames_of_mem h,
    overrideValue?]

/-- What is read for a setting: the fields of the sources laid over each other. -/
def laidOver (file : List (String × Value)) (env : Environment)
    (overrides : List (String × Value)) : List (String × Value) :=
  overlay (overlay (underFirstNames file) (environmentFields env)) (effectiveOverrides overrides)

/-- What is found under the name of a setting in the sources laid over each other is the value that
counts. -/
theorem lookup?_laidOver (h : name ∈ fieldNames) :
    Value.lookup? (laidOver file env overrides) name = winner? file env overrides name := by
  rw [laidOver, lookup?_overlay, lookup?_overlay, lastValue?_effectiveOverrides h,
    lastValue?_environmentFields h, lookup?_underFirstNames_of_mem h, winner?]

/-- No field is left under a second name once fields are put under their first ones. -/
theorem ne_of_mem_underFirstNames {fields : List (String × Value)} {n : String × String} (hn : n ∈ secondNames) :
    ∀ f ∈ underFirstNames fields, f.1 ≠ n.2 := by
  rintro f hf heq
  have hfound : Value.lookup? (underFirstNames fields) n.2 = some f.2 :=
    (lookup?_eq_some_iff_of_nodup (nodup_map_fst_underFirstNames fields)).2 (heq ▸ hf)
  have hnone : lastValue? (fun key => firstName key == n.2) fields = none := by
    rw [lastValue?, Option.map_eq_none_iff, List.find?_eq_none]
    intro g _ hg
    exact firstName_ne_of_mem_secondNames hn g.1 (beq_iff_eq.1 hg)
  rw [lookup?_underFirstNames, hnone] at hfound
  exact absurd hfound (by simp)

/-- The environment gives fields under first names only, and just three of them. -/
theorem ne_of_mem_environmentFields {n : String × String} (hn : n ∈ secondNames) :
    ∀ f ∈ environmentFields env, f.1 ≠ n.2 := by
  have hnames : ∀ n ∈ secondNames, n.2 ∉ ["target", "exceptions", "dataset"] := by decide
  have hkeys : ∀ f ∈ environmentFields env, f.1 ∈ ["target", "exceptions", "dataset"] := by
    intro f hf
    unfold environmentFields at hf
    rcases List.mem_append.1 hf with hf | hdataset
    · rcases List.mem_append.1 hf with htarget | hexceptions
      · split at htarget <;> simp_all
      · split at hexceptions <;> simp_all
    · split at hdataset <;> simp_all
  rintro f hf heq
  exact hnames n hn (heq ▸ hkeys f hf)

/-- No source has a field under a second name any more. -/
theorem lookup?_laidOver_secondName {n : String × String} (hn : n ∈ secondNames) :
    Value.lookup? (laidOver file env overrides) n.2 = none := by
  have hoverrides : ∀ f ∈ effectiveOverrides overrides, f.1 ≠ n.2 := by
    intro f hf
    exact ne_of_mem_underFirstNames hn f (List.mem_filter.1 hf).1
  rw [laidOver, lookup?_overlay_of_not_mem hoverrides,
    lookup?_overlay_of_not_mem (ne_of_mem_environmentFields hn)]
  rw [Value.lookup?, Option.map_eq_none_iff, List.find?_eq_none]
  intro f hf heq
  exact ne_of_mem_underFirstNames hn f hf (beq_iff_eq.1 heq)

/-- Fields of all sources laid over each other have no second names left, so taking those in changes nothing. Each
source was put under first names before. -/
theorem withSecondNames_laidOver :
    withSecondNames (laidOver file env overrides) = laidOver file env overrides := by
  have htake : ∀ n ∈ secondNames, ∀ kept,
      takeSecondName (laidOver file env overrides) kept n = kept := by
    intro n hn kept
    rw [takeSecondName, lookup?_laidOver_secondName hn]
  rw [withSecondNames_eq_foldl]
  exact List.foldlRecOn (motive := fun kept => kept = laidOver file env overrides) secondNames _ rfl
    fun kept hkept n hn => (htake n hn kept).trans hkept

/-! ## Settings from the sources -/

theorem ofSources_of_good {s : Settings} (h : ofFields (laidOver file env overrides) = .good s) :
    ofSources file env overrides = .ok s := by
  unfold laidOver at h
  rw [ofSources, h]

/-- Fields that are faulty as settings give an error that lists their faults. -/
theorem ofSources_of_faulty {faults : List FieldFault}
    (h : ofFields (laidOver file env overrides) = .faulty faults) :
    ofSources file env overrides = .error (.invalid faults) := by
  unfold laidOver at h
  rw [ofSources, h]

/-- Sources give settings exactly if each setting is drawn from the strongest source that has it. The fields laid over
each other hold just these winners. -/
theorem ofSources_eq_ok_iff {s : Settings} :
    ofSources file env overrides = .ok s ↔ s.DrawnFrom (winner? file env overrides) := by
  have hread : ofSources file env overrides = .ok s ↔ ofFields (laidOver file env overrides) = .good s := by
    cases hfields : ofFields (laidOver file env overrides) with
    | good s => simp [ofSources_of_good hfields]
    | faulty faults => simp [ofSources_of_faulty hfields]
  rw [hread, ofFields_eq_good_iff_drawnFrom, withSecondNames_laidOver]
  constructor
  · intro h
    exact h.congr fun name hname => (lookup?_laidOver hname).symm
  · intro h
    exact h.congr fun name hname => lookup?_laidOver hname

/-- There are no settings exactly if a value that counts is at fault, and all such faults are told. -/
theorem ofSources_eq_error_iff {e : SettingsError} :
    ofSources file env overrides = .error e ↔
      e = SettingsError.invalid (faultsOf (winner? file env overrides)) ∧
        faultsOf (winner? file env overrides) ≠ [] := by
  have hfaults : (ofFields (laidOver file env overrides)).faults =
      faultsOf (winner? file env overrides) := by
    rw [faults_ofFields, withSecondNames_laidOver]
    exact faultsOf_congr fun name hname => lookup?_laidOver hname
  -- what fails has a fault to tell
  have htold : (ofFields (laidOver file env overrides)).IsTold := ofFields_isTold
  rw [← hfaults]
  cases hread : ofFields (laidOver file env overrides) with
  | good s => simp [ofSources_of_good hread, Checked.faults]
  | faulty faults =>
    have hne : faults ≠ [] := by
      rintro rfl
      rw [hread] at htold
      obtain ⟨s, hs⟩ := htold rfl
      exact absurd hs (by simp)
    simp [ofSources_of_faulty hread, Checked.faults, hne, eq_comm]

/-- The outcome hangs on the values that count alone. -/
theorem ofSources_congr {file' overrides' : List (String × Value)} {env' : Environment}
    (h : ∀ name ∈ fieldNames, winner? file' env' overrides' name = winner? file env overrides name) :
    ofSources file' env' overrides' = ofSources file env overrides := by
  cases hread : ofSources file env overrides with
  | ok s =>
    rw [ofSources_eq_ok_iff] at hread ⊢
    exact hread.congr h
  | error e =>
    rw [ofSources_eq_error_iff] at hread ⊢
    rwa [faultsOf_congr h]

/-! ### Keys that name no setting -/

/-- A key names a setting. -/
def isKnown (key : String) : Bool := fieldNames.any fun name => isNamedBy name key

/-- To drop fields of unknown names does not change what is given for a setting, since both of its names are known. -/
theorem lastValue?_filter_isKnown (h : name ∈ fieldNames) (fields : List (String × Value)) :
    lastValue? (isNamedBy name) (fields.filter fun f => isKnown f.1) =
      lastValue? (isNamedBy name) fields := by
  have hknown : ∀ f : String × Value, isNamedBy name f.1 = true → isKnown f.1 = true := by
    intro f hf
    exact List.any_eq_true.2 ⟨name, h, hf⟩
  rw [lastValue?, lastValue?, ← List.filter_reverse, List.find?_filter]
  congr 2
  funext f
  cases hf : isNamedBy name f.1 with
  | false => simp
  | true => simp [hknown f hf]

/-- The winner for a setting is the same whether unknown names are dropped from the sources or not. -/
theorem winner?_filter_isKnown (h : name ∈ fieldNames) :
    winner? (file.filter fun f => isKnown f.1) env (overrides.filter fun f => isKnown f.1) name =
      winner? file env overrides name := by
  rw [winner?, winner?, overrideValue?, overrideValue?, lastValue?_filter_isKnown h,
    lastValue?_filter_isKnown h]

end Settings

/-- The fields that a request reads in a file: none without a file, and those of the object in it. -/
inductive SettingsRequest.Reads (r : SettingsRequest) (room : Room) (fs : Files) :
    List (String × Value) → Prop where
  | nothing (h : r.file? fs = .ok none) : r.Reads room fs []
  | object {path : Path} {fields : List (String × Value)} (hfile : r.file? fs = .ok (some path))
      (h : readSettingsFile room fs path = .ok fields) : r.Reads room fs fields

variable {room : Room}

/-- Settings are loaded from the fields of the file that is read, or from none if there is no file; the environment
and the overrides come to them. -/
theorem SettingsRequest.Reads.load_eq {r : SettingsRequest} {fs : Files} {file : List (String × Value)}
    (h : r.Reads room fs file) (env : Environment) :
    Settings.load room fs env r = Settings.ofSources file env r.overrides := by
  unfold Settings.load
  cases h with
  | nothing hfile => rw [hfile]
  | object hfile hread =>
    rw [hfile]
    dsimp only
    rw [hread]

/-- Settings that are loaded come with fields that were read, even if there was no file: then they are none. -/
theorem SettingsRequest.exists_reads_of_load {r : SettingsRequest} {fs : Files} {env : Environment}
    {s : Settings} (h : Settings.load room fs env r = .ok s) : ∃ file, r.Reads room fs file := by
  unfold Settings.load at h
  split at h
  · exact absurd h (by simp)
  · rename_i hfile
    exact ⟨[], .nothing hfile⟩
  · rename_i path hfile
    split at h
    · exact absurd h (by simp)
    · rename_i fields hread
      exact ⟨fields, .object hfile hread⟩

open Settings in
/-- **Each setting comes from its strongest source.** Settings that are loaded are drawn, each by itself,
from the values that count: the override, else the value of the environment, else that of the file, else
what is usual. Where there is no file, or an object in it, loading fails exactly if one of these values is
at fault; so a value that gives way to a stronger one never matters, nor does a key that names no
setting. -/
theorem each_setting_from_its_strongest_source (room : Room) (fs : Files) (env : Environment)
    (r : SettingsRequest) :
    (∀ s, Settings.load room fs env r = .ok s →
        ∃ file, r.Reads room fs file ∧ s.DrawnFrom (winner? file env r.overrides)) ∧
      ∀ file, r.Reads room fs file →
        (∀ s, Settings.load room fs env r = .ok s ↔ s.DrawnFrom (winner? file env r.overrides)) ∧
        (∀ e, Settings.load room fs env r = .error e ↔
          e = .invalid (faultsOf (winner? file env r.overrides)) ∧
            ∃ name ∈ fieldNames, ∃ v,
              winner? file env r.overrides name = some v ∧ valueFaults name v ≠ []) ∧
        Settings.load room fs env r =
          ofSources (file.filter fun f => isKnown f.1) env (r.overrides.filter fun f => isKnown f.1) := by
  refine ⟨fun s hs => ?_, fun file hfile => ⟨fun s => ?_, fun e => ?_, ?_⟩⟩
  · obtain ⟨file, hfile⟩ := SettingsRequest.exists_reads_of_load hs
    rw [hfile.load_eq] at hs
    exact ⟨file, hfile, ofSources_eq_ok_iff.1 hs⟩
  · rw [hfile.load_eq, ofSources_eq_ok_iff]
  · rw [hfile.load_eq, ofSources_eq_error_iff, faultsOf_ne_nil_iff]
  · rw [hfile.load_eq]
    -- what is dropped for its name had no say in any winner
    exact (ofSources_congr fun name hname => winner?_filter_isKnown hname).symm

/-- A file with a target that is no tier, both names of one setting, and a key that names none. -/
def shadowedFiles : Files :=
  ⟨[(["c.json"], .file (encode ("\x7b\"target\": 1, \"ignore_files\": [\"a\"], " ++
    "\"ignoreFiles\": [\"b\"], \"color\": 2\x7d")))], []⟩

/-- A target is set, and the exceptions are left blank. -/
def shadowingEnvironment : Environment :=
  [("BASELINE_TARGET", " limited "), ("BASELINE_EXCEPTIONS", " ")]

/-- A path is given under one name of its setting, and taken back under the other. -/
def shadowedRequest : SettingsRequest :=
  { file := "c.json", overrides := [("output_file", .str "r.txt"), ("outputFile", .null)] }

/-- The target of the file is at fault and gives way to that of the environment. -/
theorem each_setting_from_its_strongest_source_shadowed :
    ∃ file, shadowedRequest.Reads .usual shadowedFiles file ∧
      Settings.load .usual shadowedFiles shadowingEnvironment shadowedRequest =
        .ok { target := .limited, ignoreFiles := ["b"] } ∧
      Settings.DrawnFrom { target := .limited, ignoreFiles := ["b"] }
        (Settings.winner? file shadowingEnvironment shadowedRequest.overrides) ∧
      ∀ name ∈ Settings.fieldNames, ∀ v,
        Settings.winner? file shadowingEnvironment shadowedRequest.overrides name = some v →
          Settings.valueFaults name v = [] := by
  have hload : Settings.load .usual shadowedFiles shadowingEnvironment shadowedRequest =
      .ok { target := .limited, ignoreFiles := ["b"] } := by
    decide +kernel
  obtain ⟨hdrawn, hexact⟩ := each_setting_from_its_strongest_source .usual shadowedFiles
    shadowingEnvironment shadowedRequest
  obtain ⟨file, hfile, hfrom⟩ := hdrawn _ hload
  obtain ⟨-, herror, -⟩ := hexact file hfile
  refine ⟨file, hfile, hload, hfrom, fun name hname v hv => ?_⟩
  -- a fault in a value that counts would have been an error
  by_contra hfault
  have hfails := (herror _).2 ⟨rfl, name, hname, v, hv, hfault⟩
  rw [hload] at hfails
  exact absurd hfails (by simp)

end FeatureAudit
