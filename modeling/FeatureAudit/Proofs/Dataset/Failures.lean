import FeatureAudit.Proofs.Dataset.HomePaths
import FeatureAudit.Proofs.Text.Utf8

/-!
# How loading a dataset fails

Loading a dataset gives a registry or an error, and most errors are told to the user as one of the dataset.
Some are not: they are what the steps of loading do not expect. Which content leads to them is said here
without the loader.

* **`Dataset.IsDefective`** — what is wrong with an entry.
* **`Dataset.featuresOfEntries_eq_error_iff`** — the first defective entry of a dataset is its defect.
* **`Dataset.Unexpected`** — content that the steps of loading do not expect.
* **`Dataset.registry_fails_unreported_iff`** — such content alone is refused without being reported.
* **`load_is_reported_iff`** — when a dataset is loaded, or the failure is told to the user.
-/
namespace FeatureAudit

open FeatureAudit.Json FeatureAudit.Text

namespace Dataset

/-! ## Entries -/

/-- What is wrong with an entry: it is no object; or it has a status, and in it a support that is no
object; or it has a status, and its compatibility keys are no list. -/
inductive IsDefective : String × Value → Defect → Prop where
  | entry {id : String} {entry : Value} (h : ∀ fields, entry ≠ .obj fields) :
      IsDefective (id, entry) (.entryNotAnObject id)
  | support {id : String} {fields status : List (String × Value)} {support : Value}
      (hstatus : Value.lookup? fields "status" = some (.obj status))
      (hsupport : presentField? (.obj status) "support" = some support)
      (h : ∀ versions, support ≠ .obj versions) :
      IsDefective (id, .obj fields) (.supportNotAnObject id)
  | compatKeys {id : String} {fields status : List (String × Value)} {keys : Value}
      (hstatus : Value.lookup? fields "status" = some (.obj status))
      (hsupport : ∀ support, presentField? (.obj status) "support" = some support →
        ∃ versions, support = .obj versions)
      (hkeys : presentField? (.obj fields) "compat_features" = some keys)
      (h : ∀ items, keys ≠ .arr items) :
      IsDefective (id, .obj fields) (.compatKeysNotAList id)

/-- Nothing is wrong with an entry. -/
def IsSound (e : String × Value) : Prop := ∀ d, ¬ IsDefective e d

variable {id : String} {status : Value} {d : Defect}

/-- The browsers of an entry cannot be listed exactly if its status has a support that counts and is not an object. -/
theorem browsersOf_eq_error_iff :
    browsersOf id status = .error d ↔
      d = .supportNotAnObject id ∧
        ∃ support, presentField? status "support" = some support ∧
          ∀ versions, support ≠ .obj versions := by
  unfold browsersOf
  cases hsupport : presentField? status "support" with
  | none => simp
  | some support => cases support <;> simp [eq_comm]

/-- The keys of an entry cannot be listed exactly if it has a field for them that counts and is not a list. -/
theorem compatKeysOf_eq_error_iff {entry : Value} :
    compatKeysOf id entry = .error d ↔
      d = .compatKeysNotAList id ∧
        ∃ keys, presentField? entry "compat_features" = some keys ∧
          ∀ items, keys ≠ .arr items := by
  unfold compatKeysOf
  cases hkeys : presentField? entry "compat_features" with
  | none => simp
  | some keys => cases keys <;> simp [eq_comm]

/-- An entry fails for its browsers first, and for its keys only if its browsers are fine. -/
theorem featureOf_eq_error_iff {entry : Value} :
    featureOf id entry status = .error d ↔
      browsersOf id status = .error d ∨
        (∀ d', browsersOf id status ≠ .error d') ∧ compatKeysOf id entry = .error d := by
  unfold featureOf
  cases browsersOf id status with
  | error d' => simp
  | ok browsers => cases compatKeysOf id entry <;> simp

/-- An entry with a status is defective exactly if no feature can be made of it. -/
theorem featureOf_eq_error_iff_isDefective {fields status : List (String × Value)}
    (hstatus : Value.lookup? fields "status" = some (.obj status)) :
    featureOf id (.obj fields) (.obj status) = .error d ↔ IsDefective (id, .obj fields) d := by
  rw [featureOf_eq_error_iff]
  constructor
  · rintro (hbrowsers | ⟨hbrowsers, hkeys⟩)
    · obtain ⟨rfl, support, hsupport, h⟩ := browsersOf_eq_error_iff.1 hbrowsers
      exact .support hstatus hsupport h
    · obtain ⟨rfl, keys, hkeys, h⟩ := compatKeysOf_eq_error_iff.1 hkeys
      refine .compatKeys hstatus (fun support hsupport => ?_) hkeys h
      by_cases hobj : ∃ versions, support = .obj versions
      · exact hobj
      · refine absurd (browsersOf_eq_error_iff.2 ⟨rfl, support, hsupport, ?_⟩) (hbrowsers _)
        exact fun versions heq => hobj ⟨versions, heq⟩
  · intro h
    cases h with
    | entry h => exact absurd rfl (h _)
    | support hstatus' hsupport h =>
      obtain rfl := by simpa [hstatus] using hstatus'
      exact .inl (browsersOf_eq_error_iff.2 ⟨rfl, _, hsupport, h⟩)
    | compatKeys hstatus' hsupport hkeys h =>
      -- a defect of the keys is told only where the support has none
      obtain rfl := by simpa [hstatus] using hstatus'
      refine .inr ⟨fun d' hbrowsers => ?_, compatKeysOf_eq_error_iff.2 ⟨rfl, _, hkeys, h⟩⟩
      obtain ⟨-, support, hsome, hno⟩ := browsersOf_eq_error_iff.1 hbrowsers
      obtain ⟨versions, rfl⟩ := hsupport support hsome
      exact hno versions rfl

/-- Without a status an entry is passed over. -/
theorem isSound_of_no_status {fields : List (String × Value)}
    (h : ∀ status, Value.lookup? fields "status" ≠ some (.obj status)) :
    IsSound (id, .obj fields) := by
  intro d hdefective
  cases hdefective with
  | entry h => exact h _ rfl
  | support hstatus _ _ => exact h _ hstatus
  | compatKeys hstatus _ _ _ => exact h _ hstatus

/-- An entry with a status is converted before the entries behind it, and if it fails they are not looked at. -/
theorem featuresOfEntries_cons_of_status {fields status rest : List (String × Value)}
    (hstatus : Value.lookup? fields "status" = some (.obj status)) :
    featuresOfEntries ((id, .obj fields) :: rest) =
      match featureOf id (.obj fields) (.obj status) with
      | .error d => .error d
      | .ok f => (featuresOfEntries rest).map (f :: ·) := by
  rw [featuresOfEntries, Value.field?]
  generalize Value.lookup? fields "status" = found at hstatus ⊢
  subst hstatus
  rfl

/-- An entry without a status is passed over, whatever else is in it. -/
theorem featuresOfEntries_cons_of_no_status {fields rest : List (String × Value)}
    (h : ∀ status, Value.lookup? fields "status" ≠ some (.obj status)) :
    featuresOfEntries ((id, .obj fields) :: rest) = featuresOfEntries rest := by
  rw [featuresOfEntries, Value.field?]
  split
  · rename_i status hstatus
    exact absurd hstatus (h status)
  · rfl

/-- An entry that is not an object ends the conversion at once. -/
theorem featuresOfEntries_cons_of_no_object {entry : Value} {rest : List (String × Value)}
    (h : ∀ fields, entry ≠ .obj fields) :
    featuresOfEntries ((id, entry) :: rest) = .error (.entryNotAnObject id) := by
  cases entry with
  | obj fields => exact absurd rfl (h fields)
  | _ => rfl

/-- The first of some entries is defective, or it is sound and the defect is in the others. -/
theorem featuresOfEntries_cons_eq_error_iff {e : String × Value} {rest : List (String × Value)} :
    featuresOfEntries (e :: rest) = .error d ↔
      IsDefective e d ∨ IsSound e ∧ featuresOfEntries rest = .error d := by
  obtain ⟨id, entry⟩ := e
  -- an entry that is no object is a defect; one without a status is passed over; any other is converted
  by_cases hobj : ∃ fields, entry = .obj fields
  · obtain ⟨fields, rfl⟩ := hobj
    by_cases hstatus : ∃ status, Value.lookup? fields "status" = some (.obj status)
    · obtain ⟨status, hstatus⟩ := hstatus
      have hdefective (d : Defect) : IsDefective (id, .obj fields) d ↔
          featureOf id (.obj fields) (.obj status) = .error d :=
        (featureOf_eq_error_iff_isDefective hstatus).symm
      rw [featuresOfEntries_cons_of_status hstatus]
      simp only [IsSound, hdefective]
      cases featureOf id (.obj fields) (.obj status) with
      | error d' => simp
      | ok f => cases featuresOfEntries rest <;> simp [Except.map]
    · have hsound : IsSound (id, .obj fields) :=
        isSound_of_no_status fun status h => hstatus ⟨status, h⟩
      rw [featuresOfEntries_cons_of_no_status fun status h => hstatus ⟨status, h⟩,
        or_iff_right (hsound d), and_iff_right hsound]
  · have hentry : IsDefective (id, entry) (.entryNotAnObject id) :=
      .entry fun fields heq => hobj ⟨fields, heq⟩
    rw [featuresOfEntries_cons_of_no_object fun fields heq => hobj ⟨fields, heq⟩]
    constructor
    · intro h
      obtain rfl := Except.error.inj h
      exact .inl hentry
    · rintro (hdefective | ⟨hsound, -⟩)
      · cases hdefective with
        | entry _ => rfl
        | support _ _ _ => exact absurd ⟨_, rfl⟩ hobj
        | compatKeys _ _ _ _ => exact absurd ⟨_, rfl⟩ hobj
      · exact absurd hentry (hsound _)

/-- The first defective entry of a dataset is its defect. The induction is on the entries. -/
theorem featuresOfEntries_eq_error_iff {entries : List (String × Value)} :
    featuresOfEntries entries = .error d ↔
      ∃ before e after, entries = before ++ e :: after ∧ (∀ e' ∈ before, IsSound e') ∧
        IsDefective e d := by
  induction entries with
  | nil => simp [featuresOfEntries]
  | cons e rest ih =>
    rw [featuresOfEntries_cons_eq_error_iff, ih]
    constructor
    · -- the first entry is the defective one, or the entries before that grow by one
      rintro (hdefective | ⟨hsound, before, e', after, rfl, hbefore, hdefective⟩)
      · exact ⟨[], e, rest, rfl, by simp, hdefective⟩
      · exact ⟨e :: before, e', after, rfl, List.forall_mem_cons.2 ⟨hsound, hbefore⟩, hdefective⟩
    · rintro ⟨before, e', after, heq, hbefore, hdefective⟩
      cases before with
      | nil =>
        obtain ⟨rfl, rfl⟩ := List.cons.inj heq
        exact .inl hdefective
      | cons first before =>
        obtain ⟨rfl, rfl⟩ := List.cons.inj heq
        obtain ⟨hsound, hbefore⟩ := List.forall_mem_cons.1 hbefore
        exact .inr ⟨hsound, before, e', after, rfl, hbefore, hdefective⟩

/-! ## Content -/

/-- The first defective entry of a dataset has a support that is no object. -/
def FailsOnSupport (data : Value) : Prop :=
  ∃ before e after id, entries data = .ok (before ++ e :: after) ∧ (∀ e' ∈ before, IsSound e') ∧
    IsDefective e (.supportNotAnObject id)

/-- Content that the steps of loading do not expect: bytes that write no text, a text beyond the limits of
the reader in the room that there is, and a dataset whose first defect is a support. -/
inductive Unexpected (room : Room) (bytes : List UInt8) : Prop where
  | noText (h : ∀ s, encode s ≠ bytes)
  | beyondLimits {s : String} (hs : encode s = bytes) {e : ReadError}
      (hread : read room (universalNewlines s.toList) = .error e)
      (h : ∀ fault line column offset, e ≠ .malformed fault line column offset)
  | support {s : String} (hs : encode s = bytes) {data : Value}
      (hread : read room (universalNewlines s.toList) = .ok data) (h : FailsOnSupport data)

variable {room : Room}

/-- The entries of a dataset are looked for before any of them is, so that no support is what is wrong with them. -/
theorem entries_ne_supportNotAnObject {data : Value} (id : String) :
    entries data ≠ .error (.supportNotAnObject id) := by
  unfold entries
  intro h
  split at h
  · exact absurd h (by simp)
  · split at h
    · exact absurd h (by simp)
    · exact absurd h (by simp)

/-- A dataset fails on a support exactly if that is its first defect. -/
theorem features_eq_supportNotAnObject_iff {data : Value} :
    (∃ id, features data = .error (.supportNotAnObject id)) ↔ FailsOnSupport data := by
  unfold features FailsOnSupport
  cases hentries : entries data with
  | error d =>
    constructor
    · rintro ⟨id, h⟩
      obtain rfl := Except.error.inj h
      exact absurd hentries (entries_ne_supportNotAnObject id)
    · rintro ⟨before, e, after, id, h, -⟩
      exact absurd h (by simp)
  | ok fields =>
    have hfields : (∃ id, featuresOfEntries fields = .error (.supportNotAnObject id)) ↔
        ∃ before e after id, fields = before ++ e :: after ∧ (∀ e' ∈ before, IsSound e') ∧
          IsDefective e (.supportNotAnObject id) := by
      simp only [featuresOfEntries_eq_error_iff]
      constructor
      · rintro ⟨id, before, e, after, h⟩
        exact ⟨before, e, after, id, h⟩
      · rintro ⟨before, e, after, id, h⟩
        exact ⟨id, before, e, after, h⟩
    -- what is left besides a defect is the dataset without features, which fails in another way
    simp only [Except.ok.injEq, ← hfields]
    cases featuresOfEntries fields with
    | error d => simp
    | ok fs => cases fs <;> simp

/-- What cannot be read as JSON is not reported unless it is malformed: numbers that are too long and too many levels
escape. -/
theorem isReported_malformed_eq_false_iff {path : String} {e : ReadError} :
    (⟨path, .content (.malformed e)⟩ : DatasetError).isReported = false ↔
      ∀ fault line column offset, e ≠ .malformed fault line column offset := by
  cases e <;> simp [DatasetError.isReported]

/-- Of all defects of a dataset there is one kind that is not reported, a support that is no object. -/
theorem isReported_defective_eq_false_iff {path : String} {d : Defect} :
    (⟨path, .content (.defective d)⟩ : DatasetError).isReported = false ↔
      ∃ id, d = .supportNotAnObject id := by
  cases d <;> simp [DatasetError.isReported]

/-- Bytes that are UTF-8 are read as a registry through their text, with its line ends made one, and then through its
JSON value. -/
theorem registry_of_decode? {bytes : List UInt8} {cs : List Char} (h : decode? bytes = some cs) :
    registry room bytes =
      match read room (universalNewlines cs) with
      | .error e => .error (.malformed e)
      | .ok data =>
        match features data with
        | .error e => .error (.defective e)
        | .ok fs => .ok (Registry.ofFeatures fs) := by
  unfold registry
  generalize decode? bytes = text at h ⊢
  subst h
  rfl

/-- Content is refused without being reported exactly if it is not expected. -/
theorem registry_fails_unreported_iff {bytes : List UInt8} (path : String) :
    (∃ e, registry room bytes = .error e ∧
        (⟨path, .content e⟩ : DatasetError).isReported = false) ↔ Unexpected room bytes := by
  constructor
  · rintro ⟨e, hfails, hsilent⟩
    cases hcs : decode? bytes with
    | none => exact .noText (decode?_eq_none_iff.1 hcs)
    | some cs =>
      have hs : encode (String.ofList cs) = bytes := by
        rw [encode, String.toList_ofList, ← decode?_eq_some_iff.1 hcs]
      rw [registry_of_decode? hcs, ← String.toList_ofList (l := cs)] at hfails
      cases hread : read room (universalNewlines (String.ofList cs).toList) with
      | error reason =>
        rw [hread] at hfails
        obtain rfl := Except.error.inj hfails
        exact .beyondLimits hs hread (isReported_malformed_eq_false_iff.1 hsilent)
      | ok data =>
        rw [hread] at hfails
        dsimp only at hfails
        cases hfeatures : features data with
        | error d =>
          rw [hfeatures] at hfails
          obtain rfl := Except.error.inj hfails
          obtain ⟨id, rfl⟩ := isReported_defective_eq_false_iff.1 hsilent
          exact .support hs hread (features_eq_supportNotAnObject_iff.1 ⟨id, hfeatures⟩)
        | ok fs =>
          rw [hfeatures] at hfails
          exact absurd hfails (by simp)
  · intro h
    cases h with
    | noText h =>
      refine ⟨.notText, ?_, rfl⟩
      rw [registry, decode?_eq_none_iff.2 h]
    | @beyondLimits s hs e hread h =>
      refine ⟨.malformed e, ?_, isReported_malformed_eq_false_iff.2 h⟩
      rw [← hs, registry_of_decode? (decode?_encode s), hread]
    | @support s hs data hread h =>
      obtain ⟨id, hfeatures⟩ := features_eq_supportNotAnObject_iff.2 h
      refine ⟨.defective (.supportNotAnObject id), ?_, rfl⟩
      rw [← hs, registry_of_decode? (decode?_encode s), hread]
      dsimp only
      rw [hfeatures]

end Dataset

/-! ## Files -/

namespace Files

variable {fs : Files} {room : Room} {path : Path}

/-- To follow names never ends with a null character: this is a fault of paths, which is looked for before they are
followed. -/
theorem follow_ne_nullCharacter (names here : List String) :
    fs.follow here names ≠ .error .nullCharacter := by
  induction names generalizing here with
  | nil =>
    rw [follow]
    split <;> simp
  | cons name rest ih =>
    -- a name is too long, or leads on, or stands in no directory
    rw [follow]
    split
    · split
      · simp
      · exact ih _
    · simp
    · simp

/-- Only a path with a null character is refused for one. -/
theorem read_eq_nullCharacter_iff : fs.read path = .error .nullCharacter ↔ path.hasNull = true := by
  unfold read find Path.fault?
  by_cases hnull : path.hasNull = true
  · simp [hnull]
  · rw [if_neg hnull]
    split
    · simp [hnull]
    · simp [hnull]
    · rename_i reason hfind
      split at hfind
      · rename_i fault hfault
        obtain rfl := Except.error.inj hfind
        split at hfault
        · obtain rfl := Option.some.inj hfault
          simp [hnull]
        · exact absurd hfault (by simp)
      · -- following names never meets a null character
        have hreason : reason ≠ .nullCharacter := by
          rintro rfl
          exact follow_ne_nullCharacter _ _ hfind
        simp [hnull, hreason]

/-- A file is refused without being reported exactly if its path has a null character, or its content is
not expected. -/
theorem registry_fails_unreported_iff :
    (∃ e, fs.registry room path = .error e ∧ e.isReported = false) ↔
      path.hasNull = true ∨ ∃ bytes, fs.read path = .ok bytes ∧ Dataset.Unexpected room bytes := by
  rw [← read_eq_nullCharacter_iff]
  unfold registry
  cases fs.read path with
  | error reason => cases reason <;> simp [DatasetError.isReported]
  | ok bytes =>
    have hcontent : (∃ e, Dataset.registry room bytes = .error e ∧
        (⟨path.toString, .content e⟩ : DatasetError).isReported = false) ↔
          Dataset.Unexpected room bytes :=
      Dataset.registry_fails_unreported_iff path.toString
    cases hregistry : Dataset.registry room bytes with
    | error e =>
      rw [hregistry] at hcontent
      simpa [hregistry] using hcontent
    | ok r =>
      rw [hregistry] at hcontent
      simpa [hregistry] using hcontent

end Files

/-! ## Workspaces -/

namespace Workspace

/-- A dataset that is asked for is not expected. There is no path for it: the home directory that its name asks for is
not known, or there is a null character in the name or in what it stands for. Or it has not been read before, and the
path from the working directory on has a null character, or the content of the file is not expected. -/
inductive Unexpected (ws : Workspace) : Option String → Prop where
  | home {name user : String} {rest : List String} (hname : name ≠ "")
      (hpath : Path.ofString name = ⟨"", ("~" ++ user) :: rest⟩)
      (h : (ws.homes.of? ws.environment user).bind homePath? = none) : Unexpected ws (some name)
  | name {name : String} (hname : name ≠ "") (h : (Path.ofString name).hasNull = true) :
      Unexpected ws (some name)
  | path {name : String} {p : Path} (hname : name ≠ "")
      (hpath : Path.StandsFor ws.homes ws.environment (Path.ofString name) p) (h : p.hasNull = true) :
      Unexpected ws (some name)
  | directory {name : String} {p : Path} (hname : name ≠ "")
      (hpath : Path.StandsFor ws.homes ws.environment (Path.ofString name) p)
      (hfresh : ws.loaded? (p.resolved ws.files.directory) = none)
      (h : (p.resolved ws.files.directory).hasNull = true) : Unexpected ws (some name)
  | content {name : String} {p : Path} (hname : name ≠ "")
      (hpath : Path.StandsFor ws.homes ws.environment (Path.ofString name) p)
      (hfresh : ws.loaded? (p.resolved ws.files.directory) = none) {bytes : List UInt8}
      (hread : ws.files.read (p.resolved ws.files.directory) = .ok bytes)
      (h : Dataset.Unexpected ws.room bytes) : Unexpected ws (some name)

/-- A dataset whose name cannot be resolved fails with the cause of this, told under the name as it was given. -/
theorem registry_of_resolve_error {ws : Workspace} {name : String} {cause : DatasetCause}
    (hname : name ≠ "") (h : ws.resolve name = .error cause) :
    (ws.registry (some name)).1 = .error ⟨name, cause⟩ := by
  unfold registry
  dsimp only
  rw [if_neg (by simpa using hname), h]

/-- A dataset whose name is resolved is the registry of the path it is resolved to. -/
theorem registry_of_resolve {ws : Workspace} {name : String} {path : Path} (hname : name ≠ "")
    (h : ws.resolve name = .ok path) : ws.registry (some name) = ws.registryAt path := by
  unfold registry
  dsimp only
  rw [if_neg (by simpa using hname), h]

/-- A dataset that has been read is given again, so no request for it fails. -/
theorem registryAt_of_loaded {ws : Workspace} {path : Path} {r : Registry} (h : ws.loaded? path = some r) :
    ws.registryAt path = (.ok r, ws) := by
  rw [registryAt, h]

/-- A dataset that has not been read is that of its file. -/
theorem registryAt_fst_of_fresh {ws : Workspace} {path : Path} (h : ws.loaded? path = none) :
    (ws.registryAt path).1 = ws.files.registry ws.room path := by
  rw [registryAt, h]
  cases ws.files.registry ws.room path <;> rfl

/-- The dataset of a name without a path is refused, and this is not reported. -/
theorem fails_unreported_of_resolve_error {ws : Workspace} {name : String} (hname : name ≠ "")
    (h : ∃ cause, ws.resolve name = .error cause) :
    ∃ e, (ws.registry (some name)).1 = .error e ∧ e.isReported = false := by
  obtain ⟨cause, hcause⟩ := h
  exact ⟨⟨name, cause⟩, registry_of_resolve_error hname hcause, isReported_of_resolve hcause⟩

/-- If the dataset of a name is not kept, a failure to read its file is a failure to load it. -/
theorem fails_unreported_of_fresh {ws : Workspace} {name : String} {p : Path} (hname : name ≠ "")
    (hpath : Path.StandsFor ws.homes ws.environment (Path.ofString name) p)
    (hfresh : ws.loaded? (p.resolved ws.files.directory) = none)
    (h : ∃ e, ws.files.registry ws.room (p.resolved ws.files.directory) = .error e ∧ e.isReported = false) :
    ∃ e, (ws.registry (some name)).1 = .error e ∧ e.isReported = false := by
  cases hnull : p.hasNull with
  | true =>
    exact fails_unreported_of_resolve_error hname (resolve_eq_error_iff.2 (.inr (.inr ⟨p, hpath, hnull⟩)))
  | false =>
    rw [registry_of_resolve hname (resolve_eq_ok_iff.2 ⟨p, hpath, hnull, rfl⟩),
      registryAt_fst_of_fresh hfresh]
    exact h

/-- A dataset is refused without being reported exactly if it is not expected. -/
theorem registry_fails_unreported_iff {ws : Workspace} {dataset : Option String} :
    (∃ e, (ws.registry dataset).1 = .error e ∧ e.isReported = false) ↔ ws.Unexpected dataset := by
  constructor
  · rintro ⟨e, hfails, hsilent⟩
    cases dataset with
    | none => exact absurd hfails (by simp [registry])
    | some name =>
      by_cases hname : name = ""
      · exact absurd hfails (by simp [registry, hname])
      cases hresolve : ws.resolve name with
      | error cause =>
        rcases resolve_eq_error_iff.1 ⟨cause, hresolve⟩ with ⟨user, rest, hpath, hhome⟩ | hnull | ⟨p, hp, hnull⟩
        · exact .home hname hpath hhome
        · exact .name hname hnull
        · exact .path hname hp hnull
      | ok path =>
        obtain ⟨p, hp, hnull, rfl⟩ := resolve_eq_ok_iff.1 hresolve
        rw [registry_of_resolve hname hresolve] at hfails
        cases hloaded : ws.loaded? (p.resolved ws.files.directory) with
        | some r =>
          rw [registryAt_of_loaded hloaded] at hfails
          exact absurd hfails (by simp)
        | none =>
          rw [registryAt_fst_of_fresh hloaded] at hfails
          rcases Files.registry_fails_unreported_iff.1 ⟨e, hfails, hsilent⟩ with
            hpath | ⟨bytes, hread, hcontent⟩
          · exact .directory hname hp hloaded hpath
          · exact .content hname hp hloaded hread hcontent
  · intro h
    cases h with
    | home hname hpath hhome =>
      exact fails_unreported_of_resolve_error hname (resolve_eq_error_iff.2 (.inl ⟨_, _, hpath, hhome⟩))
    | name hname hnull =>
      exact fails_unreported_of_resolve_error hname (resolve_eq_error_iff.2 (.inr (.inl hnull)))
    | path hname hp hnull =>
      exact fails_unreported_of_resolve_error hname (resolve_eq_error_iff.2 (.inr (.inr ⟨_, hp, hnull⟩)))
    | directory hname hp hfresh hpath =>
      exact fails_unreported_of_fresh hname hp hfresh (Files.registry_fails_unreported_iff.2 (.inl hpath))
    | content hname hp hfresh hread hcontent =>
      exact fails_unreported_of_fresh hname hp hfresh
        (Files.registry_fails_unreported_iff.2 (.inr ⟨_, hread, hcontent⟩))

end Workspace

/-- **A dataset is loaded, or the failure is told to the user, unless it is not expected**: unless its name asks for
a home directory that is not known, its path has a null character, its bytes write no text, its text is beyond the
limits of the reader, or its first defect is a support that is no object. -/
theorem load_is_reported_iff (ws : Workspace) (dataset : Option String) :
    ((∃ r, (ws.registry dataset).1 = .ok r) ∨
        ∃ e, (ws.registry dataset).1 = .error e ∧ e.isReported = true) ↔
      ¬ ws.Unexpected dataset := by
  rw [← Workspace.registry_fails_unreported_iff]
  cases (ws.registry dataset).1 with
  | error e => simp
  | ok r => simp

/-- A workspace with one dataset. -/
def datasetWorkspace (content : List UInt8) : Workspace :=
  { files := ⟨[(["d.json"], .file content)], []⟩, environment := [], homes := {}, room := .usual, loaded := [] }

/-- A failure that is not reported is there if the test for it says so, which is how the fixed inputs below are
decided. -/
theorem exists_unreported {x : Except DatasetError Registry}
    (h : (match x with | .error e => e.isReported | .ok _ => true) = false) :
    ∃ e, x = .error e ∧ e.isReported = false := by
  cases x with
  | error e => exact ⟨e, rfl, h⟩
  | ok r => exact absurd h (by simp)

/-- A byte that starts no character and a support that is a list are failures that are not reported. -/
theorem unreported_failures :
    (∃ e, ((datasetWorkspace [0xFF]).registry (some "d.json")).1 = .error e ∧
        e.isReported = false) ∧
      ∃ e, ((datasetWorkspace
            (encode "\x7b\"a\": \x7b\"status\": \x7b\"support\": [1]\x7d\x7d\x7d")).registry
          (some "d.json")).1 = .error e ∧ e.isReported = false := by
  constructor
  · exact exists_unreported (by decide +kernel)
  · exact exists_unreported (by decide +kernel)

end FeatureAudit
