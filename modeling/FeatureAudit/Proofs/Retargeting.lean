import FeatureAudit.Proofs.Detection

/-!
# What the target decides

The target decides how bad a use is and what is suggested about it, and nothing else: not which tokens
name features, not which of them count, and not which stylesheets are discarded. So a run under another
target is the same run with every use rated anew.

* **`Usage.retarget`** — a use, rated for another target.
* **`Site.usage?_retarget`** — the use that a token makes, under another target.
* **`Tally.foldl_addAll_retarget`** — what a tally counts, under another target.
* **`Audit.extraction_withTarget`**, **`Audit.fileExtractions_withTarget`** — what is found in a source
  and in some files, under another target.
* **`Usage.sighting_retarget`** — what a use tells about the source is the same for every target.
-/
namespace FeatureAudit

open FeatureAudit.Text

/-! ## One use -/

/-- The same use as it is for another target. -/
def Usage.retarget (target : Tier) (u : Usage) : Usage :=
  { u with
    severity := Severity.of u.tier (Tier.meets? u.tier target)
    suggestion := u.tier.bind fun tier => suggestionFor tier target }

/-- What a use tells about its source: the token, the feature and its tier, the place and the text
around it. -/
def Usage.sighting (u : Usage) : String × String × String × Int × Int × String × Option Tier :=
  (u.token, u.featureId, u.file, u.line, u.column, u.context, u.tier)

/-- What was sighted, and where, does not depend on the target that it is judged by. -/
theorem Usage.sighting_retarget (target : Tier) (u : Usage) :
    (u.retarget target).sighting = u.sighting := rfl

variable {r : Registry} {target target' : Tier} {file : String}

/-- A token makes the same use under every target, rated for each. -/
theorem Site.usage?_retarget (s : Site) (token : String) :
    s.usage? r target' file token =
      (s.usage? r target file token).map (Usage.retarget target') := by
  rw [Site.usage?_eq, Site.usage?_eq, Option.map_map]
  rfl

/-! ## One source -/

namespace Tally

/-- A tally with its uses as they are for another target. What has been counted stays the same: it is
told by the features alone. -/
def retarget (target : Tier) (t : Tally) : Tally :=
  ⟨t.usages.map (Usage.retarget target), t.seen⟩

/-- To try a token for another target is to try it as before and judge what comes of it by that target. A use is fresh
for both targets or for neither. -/
theorem add_retarget (t : Tally) (s : Site) (token : String) :
    (t.retarget target').add r target' file s token =
      (t.add r target file s token).retarget target' := by
  have hmade : s.usage? r target' file token =
      (s.usage? r target file token).map (Usage.retarget target') := s.usage?_retarget token
  cases hu : s.usage? r target file token with
  | none =>
    rw [hu, Option.map_none] at hmade
    rw [add_of_none hu, add_of_none hmade]
  | some u =>
    rw [hu, Option.map_some] at hmade
    -- what was counted is remembered by feature, and no target changes that
    have hfresh : (t.retarget target').fresh s (u.retarget target') = t.fresh s u := rfl
    cases h : t.fresh s u with
    | false => rw [add_of_seen hu h, add_of_seen hmade (hfresh.trans h)]
    | true =>
      rw [add_of_fresh hu h, add_of_fresh hmade (hfresh.trans h), retarget, retarget,
        List.map_append]
      rfl

/-- All tokens of a site are tried for another target as before, and what comes of them is judged by it. -/
theorem addAll_retarget (t : Tally) (s : Site) :
    (t.retarget target').addAll r target' file s =
      (t.addAll r target file s).retarget target' := by
  rw [addAll, addAll]
  induction s.tokens generalizing t with
  | nil => rfl
  | cons token rest ih => rw [List.foldl_cons, List.foldl_cons, add_retarget, ih]

/-- Some sites give the same tally under every target, with the uses rated for each. -/
theorem foldl_addAll_retarget (sites : List Site) (t : Tally) :
    sites.foldl (addAll r target' file) (t.retarget target') =
      (sites.foldl (addAll r target file) t).retarget target' := by
  induction sites generalizing t with
  | nil => rfl
  | cons s rest ih => rw [List.foldl_cons, List.foldl_cons, addAll_retarget, ih]

end Tally

/-- The same extraction as it is for another target. -/
def Extraction.retarget (target : Tier) (e : Extraction) : Extraction :=
  ⟨e.usages.map (Usage.retarget target), e.notices⟩

/-- Another target makes the same uses in a script, judged by that target. -/
theorem Script.extract_retarget (text : String) :
    Script.extract r target' file text = (Script.extract r target file text).retarget target' := by
  rw [Script.extract, Script.extract, Extraction.retarget]
  congr 1
  exact congrArg Tally.usages (Tally.foldl_addAll_retarget (Script.sites text) .empty)

namespace Stylesheet

/-- Another target makes the same uses in the entries of a stylesheet, judged by that target, and notices the same
faults. -/
theorem extractNodes_retarget (nodes : List Node) :
    extractNodes r target' file nodes = (extractNodes r target file nodes).retarget target' := by
  cases hnoticed : noticedOf nodes with
  | nil =>
    rw [extractNodes_of_unnoticed hnoticed, extractNodes_of_unnoticed hnoticed, Extraction.retarget,
      walkAll_eq_foldl, walkAll_eq_foldl, tally_foldl_enter, tally_foldl_enter]
    congr 1
    exact congrArg Tally.usages (Tally.foldl_addAll_retarget (sitesOf nodes) .empty)
  | cons first others =>
    -- a fault is noticed under every target, and no use is left to rate
    rw [extractNodes_of_noticed hnoticed, extractNodes_of_noticed hnoticed]
    rfl

/-- Another target makes the same uses in a stylesheet, and it has no say in whether there is room for it. -/
theorem extract_retarget (room : Nat) (text : String) :
    extract room r target' file text =
      (extract room r target file text).map (Extraction.retarget target') := by
  unfold extract
  dsimp only
  split
  · rfl
  · split
    · rfl
    · exact congrArg Except.ok (extractNodes_retarget _)

end Stylesheet

/-! ## An audit -/

/-- The uses of some files, as they are for another target. -/
def retargetUses (target : Tier) (files : List (String × List Usage)) :
    List (String × List Usage) :=
  files.map fun f => (f.1, f.2.map (Usage.retarget target))

/-- The uses in all files, judged by another target, are the uses in all files judged one by one. -/
theorem flatMap_retargetUses (target : Tier) (files : List (String × List Usage)) :
    (retargetUses target files).flatMap Prod.snd =
      (files.flatMap Prod.snd).map (Usage.retarget target) := by
  rw [retargetUses, List.flatMap_map, List.map_flatMap]

/-- The same settings with another target. -/
def Settings.withTarget (s : Settings) (target : Tier) : Settings := { s with target }

namespace Audit

variable (a : Audit)

/-- The same audit for another target. -/
def withTarget (target : Tier) : Audit := { a with settings := a.settings.withTarget target }

@[simp]
theorem withTarget_registry (target : Tier) : (a.withTarget target).registry = a.registry := rfl

@[simp]
theorem withTarget_room (target : Tier) : (a.withTarget target).room = a.room := rfl

@[simp]
theorem withTarget_target (target : Tier) : (a.withTarget target).settings.target = target := rfl

@[simp]
theorem withTarget_options (target : Tier) : (a.withTarget target).options = a.options := rfl

/-- Workers are given the target of the audit that they work for. -/
theorem reader_withTarget (target : Tier) (sideBySide : Bool) :
    (a.withTarget target).reader sideBySide = (a.reader sideBySide).withTarget target := by
  cases sideBySide <;> rfl

/-- Another target makes the same uses in a text of any kind, judged by that target. -/
theorem extraction_withTarget (target : Tier) (file text : String) :
    (a.withTarget target).extraction file text = (a.extraction file text).retarget target := by
  unfold extraction
  cases fileKind? file with
  | none => rfl
  | some kind =>
    cases kind with
    | stylesheet =>
      have hextract : Stylesheet.extract a.room.entries a.registry target file text =
          (Stylesheet.extract a.room.entries a.registry a.settings.target file text).map
            (Extraction.retarget target) := Stylesheet.extract_retarget _ text
      simp only [withTarget_registry, withTarget_target, withTarget_room, hextract]
      cases Stylesheet.extract a.room.entries a.registry a.settings.target file text <;> rfl
    | script =>
      show (if a.readsScripts then Script.extract a.registry target file text else ⟨[], []⟩) =
        (if a.readsScripts then Script.extract a.registry a.settings.target file text
          else ⟨[], []⟩).retarget target
      split
      · exact Script.extract_retarget text
      · rfl

/-- Texts have the same uses under every target, rated for each. -/
theorem usesBySource_withTarget (target : Tier) (sources : List (String × String)) :
    (a.withTarget target).usesBySource sources =
      retargetUses target (a.usesBySource sources) := by
  simp only [usesBySource, retargetUses, extraction_withTarget, Extraction.retarget, List.map_map,
    Function.comp_def]

/-- Another target makes the same uses in a file, judged by that target, and fails for the same paths. -/
theorem fileExtraction_withTarget (target : Tier) (fs : Files) (p : Path) :
    (a.withTarget target).fileExtraction fs p =
      (a.fileExtraction fs p).map (Extraction.retarget target) := by
  simp only [fileExtraction, extraction_withTarget]
  split <;> rfl

/-- Files have the same uses and notices under every target, with the uses rated for each. The
induction is on the paths. -/
theorem fileExtractions_withTarget (target : Tier) (fs : Files) (sideBySide : Bool)
    (paths : List Path) :
    (a.withTarget target).fileExtractions fs sideBySide paths =
      ((a.fileExtractions fs sideBySide paths).1.map
          (List.map fun f => (f.1, f.2.retarget target)),
        (a.fileExtractions fs sideBySide paths).2) := by
  induction paths with
  | nil => rfl
  | cons p rest ih =>
    simp only [fileExtractions, ih, fileExtraction_withTarget]
    cases a.fileExtraction fs p with
    | error reason => rfl
    | ok e => cases (a.fileExtractions fs sideBySide rest).1 <;> rfl

/-- The uses of some files, each of which counts once, are those for every target. -/
theorem findings_withTarget (target : Tier) (files : List (Path × Extraction)) :
    (a.withTarget target).findings
        ((keepFirst Prod.fst (files.map fun f => (f.1, f.2.retarget target))).map fun f =>
          (f.1.toString, f.2)) =
      Findings.ofFiles
        (retargetUses target
          ((keepFirst Prod.fst files).map fun f => (f.1.toString, f.2.usages))) a.options := by
  rw [keepFirst_map]
  simp only [findings, retargetUses, List.map_map, Function.comp_def, withTarget_options,
    Extraction.retarget]

end Audit

end FeatureAudit
