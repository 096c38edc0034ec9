import FeatureAudit.Proofs.Settings.Fields

/-!
# Reading settings

Each setting is read from the field of its name, and from nothing else. One that cannot be read is told
with its faults, so there are faults exactly where there are no settings.

* **`Checked.IsTold`** — where a reading fails it says why; every check does (`checkText_isTold` and the
  lemmas after it).
* **`Settings.ofFields_eq_good_iff`** — fields make settings if each of them can be read.
* **`Settings.DrawnFrom`**, **`Settings.faultsOf`** — settings and faults drawn from a choice of values.
* **`Settings.ofFields_eq_good_iff_drawnFrom`**, **`Settings.faults_ofFields`** — what is read from fields is
  drawn from the values found there.
-/
namespace FeatureAudit

open FeatureAudit.Json

/-! ## Readings -/

namespace Checked

variable {α β : Type}

/-- A function and its argument that are both checked give a good value exactly if both are good, and then it is what
the function makes of the argument. -/
theorem seq_eq_good_iff {f : Checked (α → β)} {a : Checked α} {b : β} :
    (f <*> a) = Checked.good b ↔ ∃ g x, f = .good g ∧ a = .good x ∧ g x = b := by
  show Checked.seq f (fun _ => a) = .good b ↔ _
  cases f <;> cases a <;> simp [Checked.seq]

/-- What is made of a checked value is good exactly if the value is. -/
theorem map_eq_good_iff {f : α → β} {a : Checked α} {b : β} :
    (f <$> a) = Checked.good b ↔ ∃ x, a = .good x ∧ f x = b := by
  show Checked.map f a = .good b ↔ _
  cases a <;> simp [Checked.map]

/-- To say within what a value was checked changes only where its faults are, not whether it is good. -/
theorem within_eq_good_iff {step : Step} {c : Checked α} {a : α} :
    c.within step = .good a ↔ c = .good a := by
  cases c <;> simp [within]

/-! ### Faults -/

/-- Where a reading fails it says why. -/
def IsTold (c : Checked α) : Prop := c.faults = [] → ∃ a, c = .good a

theorem isTold_good (a : α) : (good a).IsTold := fun _ => ⟨a, rfl⟩

/-- A value that fails has a fault, so that its failure is told. -/
theorem isTold_fail (kind : FaultKind) (v : Value) : (fail kind v : Checked α).IsTold := by
  intro h
  exact absurd h (by simp [fail, faults])

/-- What is made of a checked value has the faults of the value. -/
theorem faults_map (f : α → β) (c : Checked α) : (f <$> c).faults = c.faults := by
  cases c <;> rfl

/-- The faults of a function and its argument are all told, those of the function first. This is why all fields are
reported and not just the first that is wrong. -/
theorem faults_seq (f : Checked (α → β)) (a : Checked α) :
    (f <*> a).faults = f.faults ++ a.faults := by
  show (Checked.seq f fun _ => a).faults = _
  cases f <;> cases a <;> simp [Checked.seq, faults]

/-- The faults of what was checked within something are its own, one step further inside. -/
theorem faults_within (step : Step) (c : Checked α) :
    (c.within step).faults = inside step c.faults := by
  cases c <;> rfl

/-- If a failure is told, it is still told by whatever is made of the checked value. -/
theorem IsTold.map {c : Checked α} (h : c.IsTold) (f : α → β) : (f <$> c).IsTold := by
  intro hnone
  rw [faults_map] at hnone
  obtain ⟨a, rfl⟩ := h hnone
  exact ⟨f a, rfl⟩

/-- If the failures of a function and of its argument are told, then so are those of the two together. -/
theorem IsTold.seq {f : Checked (α → β)} {a : Checked α} (hf : f.IsTold) (ha : a.IsTold) :
    (f <*> a).IsTold := by
  intro hnone
  rw [faults_seq, List.append_eq_nil_iff] at hnone
  obtain ⟨g, rfl⟩ := hf hnone.1
  obtain ⟨x, rfl⟩ := ha hnone.2
  exact ⟨g x, rfl⟩

/-- A failure is told just as well with its place within something. -/
theorem IsTold.within {c : Checked α} (h : c.IsTold) (step : Step) : (c.within step).IsTold := by
  intro hnone
  rw [faults_within] at hnone
  obtain ⟨a, rfl⟩ := h (List.map_eq_nil_iff.1 hnone)
  exact ⟨a, rfl⟩

end Checked

/-! ### Checks -/

theorem checkText_isTold (v : Value) : (checkText v).IsTold := by
  cases v with
  | str s => exact Checked.isTold_good s
  | _ => exact Checked.isTold_fail _ _

/-- Whatever is no name of a tier is told to be none. -/
theorem checkTier_isTold (v : Value) : (checkTier v).IsTold := by
  rw [checkTier]
  split
  · exact Checked.isTold_good _
  · exact Checked.isTold_fail _ _

/-- Whatever is no name of a report's format is told to be none. -/
theorem checkFormat_isTold (v : Value) : (Settings.checkFormat v).IsTold := by
  rw [Settings.checkFormat]
  split
  · exact Checked.isTold_good _
  · exact Checked.isTold_fail _ _

/-- Numbers other than one and nothing are told to be no flags. -/
theorem flagOfInt_isTold (least n : Int) : (flagOfInt least n).IsTold := by
  rw [flagOfInt]
  split
  · exact Checked.isTold_good _
  · split
    · exact Checked.isTold_good _
    · split <;> exact Checked.isTold_fail _ _

/-- Whatever does not stand for a flag is told not to. Flags can be given in many ways, and there is one case for each
kind of value. -/
theorem checkFlag_isTold (v : Value) : (checkFlag v).IsTold := by
  cases v with
  | bool b => exact Checked.isTold_good b
  | int n => exact flagOfInt_isTold _ n
  | float x =>
    rw [checkFlag]
    split
    · exact flagOfInt_isTold _ _
    · exact Checked.isTold_fail _ _
  | str s =>
    rw [checkFlag, flagOfWord]
    split
    · exact Checked.isTold_good _
    · split
      · exact Checked.isTold_good _
      · exact Checked.isTold_fail _ _
  | _ => exact Checked.isTold_fail _ _

section

variable {α : Type} {check : Value → Checked α}

/-- If every item tells its failures, so do the items of a list, each with its place. The induction goes along the
list. -/
theorem checkItems_isTold (h : ∀ v, (check v).IsTold) (start : Nat) (items : List Value) :
    (checkItems check start items).IsTold := by
  induction items generalizing start with
  | nil => exact Checked.isTold_good []
  | cons v rest ih => exact (((h v).within _).map _).seq (ih (start + 1))

/-- A list tells the failures of its items, and what is no list is told to be none. -/
theorem checkList_isTold (h : ∀ v, (check v).IsTold) (v : Value) : (checkList check v).IsTold := by
  cases v with
  | arr items => exact checkItems_isTold h 0 items
  | _ => exact Checked.isTold_fail _ _

/-- A value that may be missing is fine if it is null, and else tells its failures as usual. -/
theorem checkOptional_isTold (h : ∀ v, (check v).IsTold) (v : Value) :
    (checkOptional check v).IsTold := by
  cases v with
  | null => exact Checked.isTold_good none
  | _ => exact (h _).map some

/-- A field tells the failures of its value, and has none if it is not there: then it has its usual value. -/
theorem checkFieldOr_isTold (h : ∀ v, (check v).IsTold) (fallback : α)
    (fields : List (String × Value)) (name : String) :
    (checkFieldOr fallback fields name check).IsTold := by
  rw [checkFieldOr]
  split
  · exact (h _).within _
  · exact Checked.isTold_good fallback

end

/-- A field is checked by what is found under its name, whatever else stands beside it. -/
theorem checkFieldOr_congr {α : Type} {fallback : α} {fields fields' : List (String × Value)}
    {name : String} {check : Value → Checked α}
    (h : Value.lookup? fields' name = Value.lookup? fields name) :
    checkFieldOr fallback fields' name check = checkFieldOr fallback fields name check := by
  rw [checkFieldOr, checkFieldOr, h]

/-! ## Settings from fields -/

namespace Settings

variable {given : List (String × Value)}

/-- Fields make settings exactly if each of them can be read. -/
theorem ofFields_eq_good_iff {s : Settings} :
    ofFields given = .good s ↔
      checkFieldOr .widelyAvailable (withSecondNames given) "target" checkTier = .good s.target ∧
      checkFieldOr defaultBrowsers (withSecondNames given) "browsers" (checkList checkText) =
        .good s.browsers ∧
      checkFieldOr [] (withSecondNames given) "exceptions" (checkList checkText) =
        .good s.exceptions ∧
      checkFieldOr defaultIgnore (withSecondNames given) "ignore_files" (checkList checkText) =
        .good s.ignoreFiles ∧
      checkFieldOr false (withSecondNames given) "generate_fixes" checkFlag =
        .good s.generateFixes ∧
      checkFieldOr .console (withSecondNames given) "report_format" checkFormat =
        .good s.reportFormat ∧
      checkFieldOr none (withSecondNames given) "output_file" (checkOptional checkText) =
        .good s.outputFile ∧
      checkFieldOr none (withSecondNames given) "dataset" (checkOptional checkText) =
        .good s.dataset := by
  -- the eight fields are checked inside one another, from the first to the last
  unfold ofFields
  simp only [Checked.seq_eq_good_iff, Checked.map_eq_good_iff]
  constructor
  · rintro ⟨_, _, ⟨_, _, ⟨_, _, ⟨_, _, ⟨_, _, ⟨_, _, ⟨_, _, ⟨_, htarget, rfl⟩, hbrowsers, rfl⟩,
      hexceptions, rfl⟩, hignore, rfl⟩, hfixes, rfl⟩, hformat, rfl⟩, houtput, rfl⟩, hdataset, rfl⟩
    exact ⟨htarget, hbrowsers, hexceptions, hignore, hfixes, hformat, houtput, hdataset⟩
  · rintro ⟨htarget, hbrowsers, hexceptions, hignore, hfixes, hformat, houtput, hdataset⟩
    exact ⟨_, _, ⟨_, _, ⟨_, _, ⟨_, _, ⟨_, _, ⟨_, _, ⟨_, _, ⟨_, htarget, rfl⟩, hbrowsers, rfl⟩,
      hexceptions, rfl⟩, hignore, rfl⟩, hfixes, rfl⟩, hformat, rfl⟩, houtput, rfl⟩, hdataset, rfl⟩

/-- Put the value under a second name, if there is one, under the first. -/
def takeSecondName (fields kept : List (String × Value)) (n : String × String) :
    List (String × Value) :=
  match Value.lookup? fields n.2 with
  | some v => setField kept n.1 v
  | none => kept

/-- Second names are taken in one after the other, each from the fields as they were given. -/
theorem withSecondNames_eq_foldl (fields : List (String × Value)) :
    withSecondNames fields = secondNames.foldl (takeSecondName fields) fields := rfl

/-- Settings that are not good always say why: each of the eight fields tells its failures. -/
theorem ofFields_isTold : (ofFields given).IsTold := by
  unfold ofFields
  have hlist := checkList_isTold checkText_isTold
  have hoptional := checkOptional_isTold checkText_isTold
  exact ((((((((checkFieldOr_isTold checkTier_isTold _ _ _).map _).seq
    (checkFieldOr_isTold hlist _ _ _)).seq (checkFieldOr_isTold hlist _ _ _)).seq
    (checkFieldOr_isTold hlist _ _ _)).seq (checkFieldOr_isTold checkFlag_isTold _ _ _)).seq
    (checkFieldOr_isTold checkFormat_isTold _ _ _)).seq
    (checkFieldOr_isTold hoptional _ _ _)).seq (checkFieldOr_isTold hoptional _ _ _)

/-! ### A choice of values -/

/-- The names of the settings, in their order. -/
def fieldNames : List String :=
  ["target", "browsers", "exceptions", "ignore_files", "generate_fixes", "report_format",
   "output_file", "dataset"]

/-- What is drawn from the value of a setting: what a check reads in it, or what is usual where there is
none. -/
def Gives {α : Type} (check : Value → Checked α) (usual : α) (value? : Option Value) (a : α) : Prop :=
  match value? with
  | some v => check v = .good a
  | none => a = usual

/-- Each setting is drawn from the value that is chosen for it. -/
structure DrawnFrom (s : Settings) (value? : String → Option Value) : Prop where
  target : Gives checkTier .widelyAvailable (value? "target") s.target
  browsers : Gives (checkList checkText) defaultBrowsers (value? "browsers") s.browsers
  exceptions : Gives (checkList checkText) [] (value? "exceptions") s.exceptions
  ignoreFiles : Gives (checkList checkText) defaultIgnore (value? "ignore_files") s.ignoreFiles
  generateFixes : Gives checkFlag false (value? "generate_fixes") s.generateFixes
  reportFormat : Gives checkFormat .console (value? "report_format") s.reportFormat
  outputFile : Gives (checkOptional checkText) none (value? "output_file") s.outputFile
  dataset : Gives (checkOptional checkText) none (value? "dataset") s.dataset

/-- What is wrong with a value for a setting. -/
def valueFaults (name : String) (v : Value) : List FieldFault :=
  match name with
  | "target" => (checkTier v).faults
  | "browsers" | "exceptions" | "ignore_files" => (checkList checkText v).faults
  | "generate_fixes" => (checkFlag v).faults
  | "report_format" => (checkFormat v).faults
  | "output_file" | "dataset" => (checkOptional checkText v).faults
  | _ => []

/-- What is wrong with the values that are chosen, setting by setting. -/
def faultsOf (value? : String → Option Value) : List FieldFault :=
  fieldNames.flatMap fun name =>
    match value? name with
    | some v => inside (.field name) (valueFaults name v)
    | none => []

variable {fields : List (String × Value)} {name : String}

/-- A field is good with a value exactly if what stands under its name gives the value, or if nothing does and the
value is the usual one. -/
theorem checkFieldOr_eq_good_iff {α : Type} {usual a : α} {check : Value → Checked α} :
    checkFieldOr usual fields name check = .good a ↔
      Gives check usual (Value.lookup? fields name) a := by
  rw [checkFieldOr]
  cases Value.lookup? fields name with
  | some v => exact Checked.within_eq_good_iff
  | none =>
    show Checked.good usual = .good a ↔ a = usual
    rw [Checked.good.injEq, eq_comm]

/-- The faults of a field are those of the value under its name, told with the name. A field that is not there has
none. -/
theorem faults_checkFieldOr {α : Type} (usual : α) (check : Value → Checked α) :
    (checkFieldOr usual fields name check).faults =
      match Value.lookup? fields name with
      | some v => inside (.field name) (check v).faults
      | none => [] := by
  rw [checkFieldOr]
  cases Value.lookup? fields name with
  | some v => exact Checked.faults_within _ _
  | none => rfl

/-- Settings come of fields exactly if each of them is drawn from what stands under its name, the second name
included. -/
theorem ofFields_eq_good_iff_drawnFrom {s : Settings} :
    ofFields given = .good s ↔ s.DrawnFrom (Value.lookup? (withSecondNames given)) := by
  rw [ofFields_eq_good_iff]
  simp only [checkFieldOr_eq_good_iff]
  constructor
  · rintro ⟨htarget, hbrowsers, hexceptions, hignore, hfixes, hformat, houtput, hdataset⟩
    exact ⟨htarget, hbrowsers, hexceptions, hignore, hfixes, hformat, houtput, hdataset⟩
  · rintro ⟨htarget, hbrowsers, hexceptions, hignore, hfixes, hformat, houtput, hdataset⟩
    exact ⟨htarget, hbrowsers, hexceptions, hignore, hfixes, hformat, houtput, hdataset⟩

/-- The faults of fields are those of the eight settings in their order, each read under its name. -/
theorem faults_ofFields :
    (ofFields given).faults = faultsOf (Value.lookup? (withSecondNames given)) := by
  unfold ofFields
  simp only [Checked.faults_seq, Checked.faults_map, faults_checkFieldOr, faultsOf, fieldNames,
    List.flatMap_cons, List.flatMap_nil, List.append_nil, valueFaults, List.append_assoc]

/-- Only values under the names of settings can have faults; what stands under other names makes no difference. -/
theorem faultsOf_congr {value? value?' : String → Option Value}
    (h : ∀ name ∈ fieldNames, value?' name = value? name) : faultsOf value?' = faultsOf value? := by
  unfold faultsOf
  refine List.flatMap_congr fun name hname => ?_
  rw [h name hname]

/-- Settings are drawn from the values under the eight names, so sources that agree there give the same settings. -/
theorem DrawnFrom.congr {s : Settings} {value? value?' : String → Option Value}
    (hdrawn : s.DrawnFrom value?) (h : ∀ name ∈ fieldNames, value?' name = value? name) :
    s.DrawnFrom value?' where
  target := h "target" (by decide) ▸ hdrawn.target
  browsers := h "browsers" (by decide) ▸ hdrawn.browsers
  exceptions := h "exceptions" (by decide) ▸ hdrawn.exceptions
  ignoreFiles := h "ignore_files" (by decide) ▸ hdrawn.ignoreFiles
  generateFixes := h "generate_fixes" (by decide) ▸ hdrawn.generateFixes
  reportFormat := h "report_format" (by decide) ▸ hdrawn.reportFormat
  outputFile := h "output_file" (by decide) ▸ hdrawn.outputFile
  dataset := h "dataset" (by decide) ▸ hdrawn.dataset

/-- A choice of values is at fault exactly if one of the values is. -/
theorem faultsOf_ne_nil_iff {value? : String → Option Value} :
    faultsOf value? ≠ [] ↔
      ∃ name ∈ fieldNames, ∃ v, value? name = some v ∧ valueFaults name v ≠ [] := by
  constructor
  · intro h
    obtain ⟨fault, hfault⟩ := List.exists_mem_of_ne_nil _ h
    obtain ⟨name, hname, hmem⟩ := List.mem_flatMap.1 hfault
    cases hv : value? name with
    | none =>
      -- a field that is not there has no faults
      rw [hv] at hmem
      exact absurd hmem List.not_mem_nil
    | some v =>
      rw [hv] at hmem
      obtain ⟨inner, hinner, -⟩ := List.mem_map.1 hmem
      exact ⟨name, hname, v, hv, List.ne_nil_of_mem hinner⟩
  · rintro ⟨name, hname, v, hv, hne⟩ hnil
    have hnone := List.flatMap_eq_nil_iff.1 hnil name hname
    rw [hv] at hnone
    exact hne (List.map_eq_nil_iff.1 hnone)

end Settings

end FeatureAudit
