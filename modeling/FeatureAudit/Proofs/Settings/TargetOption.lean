import FeatureAudit.CommandLine.Run
import FeatureAudit.Proofs.Retargeting
import FeatureAudit.Proofs.Settings.Reading

/-!
# The target of a command line

The option for the target goes over every other source of settings, and over the target alone: two command
lines that differ in it lead to settings that differ in their target.

* **`Settings.ofFields_of_differAt`** — fields that differ in the target make settings that do.
* **`CommandLine.ScanOptions.settings_withTarget`** — so do command lines.
-/
namespace FeatureAudit

open FeatureAudit.Json

/-! ## Settings from fields -/

namespace Settings

variable {given given' : List (String × Value)}

/-- Second names are taken in without a change to other settings: only the names they stand for are set. The induction
goes along the table of names. -/
theorem lookup?_foldl_takeSecondName {name : String} (names : List (String × String))
    (hname : ∀ n ∈ names, n.1 ≠ name) (kept : List (String × Value)) :
    Value.lookup? (names.foldl (takeSecondName given) kept) name = Value.lookup? kept name := by
  induction names generalizing kept with
  | nil => rfl
  | cons n rest ih =>
    rw [List.foldl_cons, ih fun m hm => hname m (List.mem_cons_of_mem _ hm)]
    unfold takeSecondName
    split
    · rw [lookup?_setField, if_neg (hname n List.mem_cons_self)]
    · rfl

/-- Fields that differ under one name only still do after second names are taken in, as long as that name is none of
the second ones. -/
theorem differAt_foldl_takeSecondName {name : String} (names : List (String × String))
    (hname : ∀ n ∈ names, name ≠ n.2) (h : DifferAt name given given')
    {kept kept' : List (String × Value)} (hkept : DifferAt name kept kept') :
    DifferAt name (names.foldl (takeSecondName given) kept)
      (names.foldl (takeSecondName given') kept') := by
  induction names generalizing kept kept' with
  | nil => exact hkept
  | cons n rest ih =>
    rw [List.foldl_cons, List.foldl_cons]
    refine ih (fun m hm => hname m (List.mem_cons_of_mem _ hm)) ?_
    -- what is taken is the same, since the fields do not differ under a second name
    unfold takeSecondName
    rw [h n.2 (hname n List.mem_cons_self)]
    split
    · exact hkept.setField n.1 _
    · exact hkept

/-- Fields that differ in the target make settings that differ in the target. -/
theorem ofFields_of_differAt {s : Settings} {target' : Tier}
    (hdiffer : DifferAt "target" given given')
    (htarget' : Value.lookup? given' "target" = some (.str target'.name))
    (h : ofFields given = .good s) : ofFields given' = .good (s.withTarget target') := by
  obtain ⟨-, hbrowsers, hexceptions, hignore, hfixes, hformat, houtput, hdataset⟩ :=
    ofFields_eq_good_iff.1 h
  have hrest : DifferAt "target" (withSecondNames given) (withSecondNames given') :=
    differAt_foldl_takeSecondName _ (by decide) hdiffer hdiffer
  have htarget : checkFieldOr .widelyAvailable (withSecondNames given') "target" checkTier =
      .good target' := by
    rw [checkFieldOr, withSecondNames_eq_foldl, lookup?_foldl_takeSecondName _ (by decide), htarget']
    show Checked.within _ (checkTier (.str target'.name)) = _
    cases target' <;> rfl
  -- the other seven settings are found where they were
  refine ofFields_eq_good_iff.2 ⟨htarget, ?_⟩
  refine ⟨?_, ?_, ?_, ?_, ?_, ?_, ?_⟩
  · exact (checkFieldOr_congr (hrest _ (by decide))).trans hbrowsers
  · exact (checkFieldOr_congr (hrest _ (by decide))).trans hexceptions
  · exact (checkFieldOr_congr (hrest _ (by decide))).trans hignore
  · exact (checkFieldOr_congr (hrest _ (by decide))).trans hfixes
  · exact (checkFieldOr_congr (hrest _ (by decide))).trans hformat
  · exact (checkFieldOr_congr (hrest _ (by decide))).trans houtput
  · exact (checkFieldOr_congr (hrest _ (by decide))).trans hdataset

end Settings

namespace CommandLine

variable {target target' : Tier} {output : OptionValue} {s : Settings}

/-! ## The option over other sources -/

/-- The overrides of a command line with a target. -/
def overridesWithTarget (target : Tier) (output : OptionValue) : List (String × Value) :=
  overrideOf "target" (.text target.name) ++ overrideOf "output_file" output ++ []

/-- The overrides of a command line with a target are the target and then the output, if one is named. -/
theorem effectiveOverrides_overridesWithTarget (target : Tier) (output : OptionValue) :
    effectiveOverrides (overridesWithTarget target output) =
      ("target", .str target.name) :: overrideOf "output_file" output := by
  cases output <;> rfl

/-- Another target on a command line gives the same settings with this target. The overrides go over every other
source, and they differ in the target alone. -/
theorem ofSources_overridesWithTarget {file : List (String × Value)} {env : Environment}
    (h : Settings.ofSources file env (overridesWithTarget target output) = .ok s) :
    Settings.ofSources file env (overridesWithTarget target' output) =
      .ok (s.withTarget target') := by
  unfold Settings.ofSources at h ⊢
  rw [effectiveOverrides_overridesWithTarget] at h ⊢
  generalize overlay (Settings.underFirstNames file) (environmentFields env) = below at h ⊢
  -- the target goes over everything below it, and the rest of the overrides leaves it alone
  have hdiffer : DifferAt "target"
      (overlay below (("target", .str target.name) :: overrideOf "output_file" output))
      (overlay below (("target", .str target'.name) :: overrideOf "output_file" output)) :=
    (differAt_setField _ _).overlay _
  have htarget' : Value.lookup?
      (overlay below (("target", .str target'.name) :: overrideOf "output_file" output)) "target" =
        some (.str target'.name) := by
    show Value.lookup? (overlay (setField below "target" (.str target'.name))
      (overrideOf "output_file" output)) "target" = _
    rw [lookup?_overlay_of_not_mem (by cases output <;> simp [overrideOf]), lookup?_setField,
      if_pos rfl]
  split at h
  · rename_i s' hread
    obtain rfl := Except.ok.inj h
    rw [Settings.ofFields_of_differAt hdiffer htarget' hread]
  · exact absurd h (by simp)

/-- Settings loaded for another target are the same but for the target, since the same file is read. -/
theorem load_overridesWithTarget {room : Room} {fs : Files} {env : Environment} {file : String}
    (h : Settings.load room fs env { file, overrides := overridesWithTarget target output } = .ok s) :
    Settings.load room fs env { file, overrides := overridesWithTarget target' output } =
      .ok (s.withTarget target') := by
  -- the overrides have no say in which file is read
  have hsame : SettingsRequest.file? { file, overrides := overridesWithTarget target' output } fs =
      SettingsRequest.file? { file, overrides := overridesWithTarget target output } fs := rfl
  unfold Settings.load at h ⊢
  rw [hsame]
  split at h
  · exact absurd h (by simp)
  · exact ofSources_overridesWithTarget h
  · split at h
    · exact absurd h (by simp)
    · exact ofSources_overridesWithTarget h

/-- A scan for a target has the settings that are loaded with this target over all other sources, and ignores the
patterns of the command line besides. -/
theorem ScanOptions.settings_eq_map_load (o : ScanOptions) (ws : Workspace) (target : Tier) :
    ({ o with target := .text target.name } : ScanOptions).settings ws [] =
      (Settings.load ws.room ws.files ws.environment
        { file := o.settingsFile, overrides := overridesWithTarget target o.output }).map
          fun s => { s with ignoreFiles := s.ignoreFiles ++ o.ignore } := rfl

/-- Command lines that differ in their target lead to settings that differ in it. -/
theorem ScanOptions.settings_withTarget {o : ScanOptions} {ws : Workspace}
    (h : ({ o with target := .text target.name } : ScanOptions).settings ws [] = .ok s) :
    ({ o with target := .text target'.name } : ScanOptions).settings ws [] =
      .ok (s.withTarget target') := by
  rw [settings_eq_map_load] at h ⊢
  cases hload : Settings.load ws.room ws.files ws.environment
      { file := o.settingsFile, overrides := overridesWithTarget target o.output } with
  | error reason =>
    rw [hload] at h
    exact absurd h (by simp [Except.map])
  | ok loaded =>
    -- the option is the strongest source of the target, and no source of anything else
    have hload' : Settings.load ws.room ws.files ws.environment
        { file := o.settingsFile, overrides := overridesWithTarget target' o.output } =
          .ok (loaded.withTarget target') := load_overridesWithTarget hload
    rw [hload] at h
    obtain rfl := Except.ok.inj h
    rw [hload']
    rfl

end CommandLine

end FeatureAudit
