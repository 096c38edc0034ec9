import FeatureAudit.Proofs.Dataset.Failures
import FeatureAudit.Proofs.FirstWins
import Mathlib.Data.List.Forall2

/-!
# What a dataset is converted to

A dataset is a mapping of identifiers to entries, perhaps inside a field `features`. It is converted if nothing is wrong
with any of its entries and one at least has a status; then each entry with a status gives one feature, in the order of
the mapping, and the others give none. What the feature has of its entry is said here without the functions that convert
it: a field counts if it holds something, and a value that is null, false, zero or empty is as good as missing.

* **`Holds`**, **`IsVacant`** — fields that count, and fields that do not.
* **`mapping`**, **`IsConvertible`** — the mapping of a dataset, and when it can be converted.
* **`IsFeatureOf`** — the feature of an entry with a status.
* **`exists_featuresOfEntries_iff`**, **`forall₂_of_featuresOfEntries`** — the conversion of entries: when it succeeds,
  and what it gives.
* **`conversion_is_exact`** — the conversion of a dataset.
-/
namespace FeatureAudit.Dataset

open FeatureAudit.Json FeatureAudit.Text

/-! ## Fields -/

/-- The field is there, and its value is something other than null, false, zero or empty. -/
def Holds (v : Value) (name : String) (x : Value) : Prop := v.field? name = some x ∧ x.isPresent = true

/-- The field is missing, or its value is null, false, zero or empty. -/
def IsVacant (v : Value) (name : String) : Prop := ∀ x, v.field? name = some x → x.isPresent = false

variable {v x : Value} {name : String}

/-- A field counts with a value exactly if it holds the value: it is there, and the value is not one of those that
count as nothing. -/
theorem presentField?_eq_some_iff : presentField? v name = some x ↔ Holds v name x := by
  unfold presentField? Holds
  cases v.field? name with
  | none => simp
  | some y =>
    by_cases hy : y.isPresent = true
    · simp only [hy, if_true, Option.some.injEq]
      exact ⟨fun h => ⟨h, h ▸ hy⟩, fun h => h.1⟩
    · simp only [hy, if_false, Bool.false_eq_true, Option.some.injEq, reduceCtorEq, false_iff]
      rintro ⟨rfl, hx⟩
      exact hy hx

/-- A field does not count exactly if it is vacant: missing, or with a value that counts as nothing. -/
theorem presentField?_eq_none_iff : presentField? v name = none ↔ IsVacant v name := by
  rw [Option.eq_none_iff_forall_ne_some]
  simp only [ne_eq, presentField?_eq_some_iff, Holds, IsVacant, not_and, Bool.not_eq_true]

theorem Holds.unique {y : Value} (hx : Holds v name x) (hy : Holds v name y) : x = y :=
  Option.some.inj (hx.1.symm.trans hy.1)

theorem Holds.not_isVacant (h : Holds v name x) : ¬ IsVacant v name := by
  intro hvacant
  exact absurd h.2 (by simp [hvacant x h.1])

/-! ## Entries -/

/-- The entry is an object with an object for its status. -/
def hasStatus (entry : Value) : Bool :=
  match entry.field? "status" with
  | some (.obj _) => true
  | _ => false

variable {id : String} {entry status : Value} {f : Feature}

/-- An entry has a status exactly if there is an object in its field of this name. Anything else there is passed over.
-/
theorem hasStatus_iff : hasStatus entry = true ↔ ∃ fields, entry.field? "status" = some (.obj fields) := by
  unfold hasStatus
  split
  · rename_i fields h
    exact ⟨fun _ => ⟨fields, h⟩, fun _ => rfl⟩
  · rename_i h
    exact ⟨fun hfalse => absurd hfalse (by simp), fun ⟨fields, hfields⟩ => absurd hfields (h fields)⟩

/-- What the feature of an entry with a status is: its name is that of the entry, or else the identifier; its tier is
what the status says; it has the versions of those known browsers for which the status gives one, in the order of the
browsers; and it has the compatibility keys of the entry and the other names of the identifier. -/
structure IsFeatureOf (id : String) (entry status : Value) (f : Feature) : Prop where
  id_eq : f.id = id
  name_of_holds : ∀ x, Holds entry "name" x → f.name = x.display
  name_of_isVacant : IsVacant entry "name" → f.name = id
  widelyAvailable_iff : f.tier = .widelyAvailable ↔ status.field? "baseline" = some (.str "high")
  newlyAvailable_iff : f.tier = .newlyAvailable ↔ status.field? "baseline" = some (.str "low")
  browsers_sublist : (f.browsers.map Prod.fst).Sublist browserNames
  mem_browsers_iff : ∀ b version, (b, version) ∈ f.browsers ↔
    b ∈ browserNames ∧ ∃ support x, Holds status "support" support ∧ Holds support b x ∧ version = x.display
  compatKeys_of_holds : ∀ items, Holds entry "compat_features" (.arr items) → f.compatKeys = items.map Value.display
  compatKeys_of_isVacant : IsVacant entry "compat_features" → f.compatKeys = []
  mem_aliases_iff : ∀ a, a ∈ f.aliases ↔ ∃ names, (id, names) ∈ wellKnownAliases ∧ a ∈ names

/-- To keep some names with what is found for them leaves names in their order. The induction is on the names. -/
theorem map_fst_filterMap_sublist {α β γ : Type} (found? : α → Option β) (g : β → γ) (names : List α) :
    ((names.filterMap fun a => (found? a).map fun b => (a, g b)).map Prod.fst).Sublist names := by
  induction names with
  | nil => exact List.Sublist.refl _
  | cons a rest ih =>
    cases hfound : found? a with
    | none => simpa [List.filterMap_cons, hfound] using ih.cons a
    | some b => simpa [List.filterMap_cons, hfound] using ih

variable {browsers : List (String × String)}

/-- The browsers of a feature are some of the known ones in their order, so none is named twice. -/
theorem browsersOf_sublist (h : browsersOf id status = .ok browsers) :
    (browsers.map Prod.fst).Sublist browserNames := by
  unfold browsersOf at h
  split at h
  · obtain rfl := Except.ok.inj h
    exact List.nil_sublist _
  · split at h
    · obtain rfl := Except.ok.inj h
      exact map_fst_filterMap_sublist _ _ _
    · exact absurd h (by simp)

/-- A browser is listed with a version exactly if it is a known one and the support of the status holds a value for
it, which is then displayed as the version. -/
theorem mem_browsersOf_iff (h : browsersOf id status = .ok browsers) (b version : String) :
    (b, version) ∈ browsers ↔
      b ∈ browserNames ∧ ∃ support x, Holds status "support" support ∧ Holds support b x ∧ version = x.display := by
  unfold browsersOf at h
  split at h
  · rename_i hnone
    obtain rfl := Except.ok.inj h
    have hvacant := presentField?_eq_none_iff.1 hnone
    refine ⟨fun hmem => absurd hmem (by simp), ?_⟩
    -- without a support that counts no browser has a version
    rintro ⟨-, support, x, hsupport, -⟩
    exact absurd hvacant hsupport.not_isVacant
  · rename_i support hsome
    have hsupport := presentField?_eq_some_iff.1 hsome
    split at h
    · obtain rfl := Except.ok.inj h
      simp only [List.mem_filterMap, Option.map_eq_some_iff, presentField?_eq_some_iff, Prod.mk.injEq]
      constructor
      · rintro ⟨b, hb, x, hx, rfl, rfl⟩
        exact ⟨hb, _, x, hsupport, hx, rfl⟩
      · rintro ⟨hb, support', x, hsupport', hx, rfl⟩
        obtain rfl := hsupport.unique hsupport'
        exact ⟨b, hb, x, hx, rfl, rfl⟩
    · exact absurd h (by simp)

/-- A feature is widely available exactly if its status says so by its one word for it. -/
theorem tierOfStatus_eq_widelyAvailable_iff :
    tierOfStatus status = .widelyAvailable ↔ status.field? "baseline" = some (.str "high") := by
  unfold tierOfStatus
  split
  · rename_i h
    simp [h]
  · rename_i h
    simp [h]
  · rename_i hhigh _
    exact ⟨fun h => absurd h (by simp), fun h => absurd h hhigh⟩

/-- A feature is newly available exactly if its status says so by its one word for it; all else is limited. -/
theorem tierOfStatus_eq_newlyAvailable_iff :
    tierOfStatus status = .newlyAvailable ↔ status.field? "baseline" = some (.str "low") := by
  unfold tierOfStatus
  split
  · rename_i h
    simp [h]
  · rename_i h
    simp [h]
  · rename_i _ hlow
    exact ⟨fun h => absurd h (by simp), fun h => absurd h hlow⟩

/-- The other names of an identifier are in the one row of the table that is about it. -/
theorem mem_aliasesOf_iff {a : String} :
    a ∈ aliasesOf id ↔ ∃ names, (id, names) ∈ wellKnownAliases ∧ a ∈ names := by
  have hids : (wellKnownAliases.map Prod.fst).Nodup := by decide +kernel
  have hrow (names : List String) : (wellKnownAliases.find? fun e => e.1 == id) = some (id, names) ↔
      (id, names) ∈ wellKnownAliases := by
    rw [find?_key_eq_some_iff hids, and_iff_left rfl]
  simp only [← hrow, aliasesOf]
  cases hfound : wellKnownAliases.find? (fun e => e.1 == id) with
  | none => simp
  | some e =>
    -- the row that is found is that of the identifier
    obtain ⟨-, hid⟩ := (find?_key_eq_some_iff hids).1 hfound
    obtain ⟨key, names⟩ := e
    obtain rfl : key = id := hid
    simp

/-- A feature that comes of an entry is the one that the entry describes, field by field: its name, its tier, its
browsers, its keys and its aliases. -/
theorem isFeatureOf_of_featureOf (h : featureOf id entry status = .ok f) : IsFeatureOf id entry status f := by
  unfold featureOf at h
  split at h
  · exact absurd h (by simp)
  · -- the support of the entry is read
    rename_i browsers hbrowsers
    split at h
    · exact absurd h (by simp)
    · -- and so are its keys, so nothing is left that could fail
      rename_i compatKeys hkeys
      obtain rfl := Except.ok.inj h
      unfold compatKeysOf at hkeys
      refine
        { id_eq := rfl
          name_of_holds := fun x hx => by simp [presentField?_eq_some_iff.2 hx]
          name_of_isVacant := fun hvacant => by simp [presentField?_eq_none_iff.2 hvacant]
          widelyAvailable_iff := tierOfStatus_eq_widelyAvailable_iff
          newlyAvailable_iff := tierOfStatus_eq_newlyAvailable_iff
          browsers_sublist := browsersOf_sublist hbrowsers
          mem_browsers_iff := mem_browsersOf_iff hbrowsers
          compatKeys_of_holds := fun items hitems => ?_
          compatKeys_of_isVacant := fun hvacant => ?_
          mem_aliases_iff := fun a => mem_aliasesOf_iff }
      · rw [presentField?_eq_some_iff.2 hitems] at hkeys
        exact (Except.ok.inj hkeys).symm
      · rw [presentField?_eq_none_iff.2 hvacant] at hkeys
        exact (Except.ok.inj hkeys).symm

/-! ## The conversion of entries -/

/-- Nothing is wrong with an entry if it is an object and, provided that it has a status, the support in the status is
vacant or an object, and its compatibility keys are vacant or a list. -/
theorem isSound_iff : IsSound (id, entry) ↔
    (∃ fields, entry = .obj fields) ∧ ∀ status, entry.field? "status" = some (.obj status) →
      (∀ support, Holds (.obj status) "support" support → ∃ versions, support = .obj versions) ∧
        ∀ keys, Holds entry "compat_features" keys → ∃ items, keys = .arr items := by
  constructor
  · intro h
    have hobj : ∃ fields, entry = .obj fields := by
      by_contra hno
      exact h _ (.entry fun fields heq => hno ⟨fields, heq⟩)
    obtain ⟨fields, rfl⟩ := hobj
    refine ⟨⟨fields, rfl⟩, fun status hstatus => ?_⟩
    have hsupport : ∀ support, presentField? (.obj status) "support" = some support →
        ∃ versions, support = .obj versions := by
      intro support hsome
      by_contra hno
      exact h _ (.support hstatus hsome fun versions heq => hno ⟨versions, heq⟩)
    refine ⟨fun support hholds => hsupport support (presentField?_eq_some_iff.2 hholds), fun keys hkeys => ?_⟩
    by_contra hno
    exact h _ (.compatKeys hstatus hsupport (presentField?_eq_some_iff.2 hkeys) fun items heq => hno ⟨items, heq⟩)
  · -- each defect is at odds with what a sound entry is
    rintro ⟨⟨fields, rfl⟩, h⟩ d hdefective
    cases hdefective with
    | entry hno => exact hno fields rfl
    | support hstatus hsupport hno =>
      obtain ⟨versions, rfl⟩ := (h _ hstatus).1 _ (presentField?_eq_some_iff.1 hsupport)
      exact hno versions rfl
    | compatKeys hstatus _ hkeys hno =>
      obtain ⟨items, rfl⟩ := (h _ hstatus).2 _ (presentField?_eq_some_iff.1 hkeys)
      exact hno items rfl

variable {entries : List (String × Value)} {all : List Feature}

/-- Entries are converted exactly if each of them is sound. One that is not stops the conversion, even if all others
are. -/
theorem exists_featuresOfEntries_iff :
    (∃ all, featuresOfEntries entries = .ok all) ↔ ∀ e ∈ entries, IsSound e := by
  have herror : (∃ all, featuresOfEntries entries = .ok all) ↔ ∀ d, featuresOfEntries entries ≠ .error d := by
    cases featuresOfEntries entries <;> simp
  rw [herror]
  clear herror
  -- the induction is on the entries: what is wrong with the first is told before the others are read
  induction entries with
  | nil => simp [featuresOfEntries]
  | cons e rest ih =>
    rw [List.forall_mem_cons]
    constructor
    · intro h
      have hsound : IsSound e := fun d hd => h d (featuresOfEntries_cons_eq_error_iff.2 (.inl hd))
      exact ⟨hsound, ih.1 fun d hd => h d (featuresOfEntries_cons_eq_error_iff.2 (.inr ⟨hsound, hd⟩))⟩
    · rintro ⟨hsound, hrest⟩ d hd
      rcases featuresOfEntries_cons_eq_error_iff.1 hd with hdefective | ⟨-, herror⟩
      · exact hsound d hdefective
      · exact ih.2 hrest d herror

/-- The feature is made of the entry, which has a status. -/
def IsMadeOf (e : String × Value) (f : Feature) : Prop :=
  ∃ status, e.2.field? "status" = some (.obj status) ∧ featureOf e.1 e.2 (.obj status) = .ok f

/-- Of the entries that are converted, those with a status give one feature each, in their order. The induction is on
the entries: each gives a feature, is passed over, or is refused with all others. -/
theorem forall₂_of_featuresOfEntries (h : featuresOfEntries entries = .ok all) :
    List.Forall₂ IsMadeOf (entries.filter fun e => hasStatus e.2) all := by
  induction entries generalizing all with
  | nil =>
    obtain rfl := Except.ok.inj h
    exact List.Forall₂.nil
  | cons e rest ih =>
    obtain ⟨id, entry⟩ := e
    by_cases hobj : ∃ fields, entry = .obj fields
    · obtain ⟨fields, rfl⟩ := hobj
      by_cases hstatus : hasStatus (.obj fields) = true
      · obtain ⟨status, hfield⟩ := hasStatus_iff.1 hstatus
        rw [featuresOfEntries_cons_of_status hfield] at h
        rw [List.filter_cons, if_pos hstatus]
        -- the feature of this entry comes before those of the others, if there are any
        split at h
        · exact absurd h (by simp)
        · rename_i f hf
          cases hothers : featuresOfEntries rest with
          | error d =>
            rw [hothers] at h
            exact absurd h (by simp [Except.map])
          | ok others =>
            rw [hothers] at h
            obtain rfl := Except.ok.inj h
            exact List.Forall₂.cons ⟨status, hfield, hf⟩ (ih hothers)
      · rw [featuresOfEntries_cons_of_no_status fun status hfield => hstatus (hasStatus_iff.2 ⟨status, hfield⟩)] at h
        rw [List.filter_cons, if_neg hstatus]
        exact ih h
    · rw [featuresOfEntries_cons_of_no_object fun fields heq => hobj ⟨fields, heq⟩] at h
      exact absurd h (by simp)

/-! ## The conversion of a dataset -/

/-- The mapping of a dataset: the object in its field `features`, or else the dataset itself. -/
def mapping (data : Value) : Value :=
  match data.field? "features" with
  | some (.obj fields) => .obj fields
  | _ => data

/-- A mapping that can be converted: all of its entries are objects, one at least has a status, and in those with a
status the support is vacant or an object and the compatibility keys are vacant or a list. -/
structure IsConvertible (entries : List (String × Value)) : Prop where
  objects : ∀ e ∈ entries, ∃ fields, e.2 = .obj fields
  status : ∃ e ∈ entries, hasStatus e.2 = true
  support : ∀ e ∈ entries, ∀ status, e.2.field? "status" = some (.obj status) →
    ∀ support, Holds (.obj status) "support" support → ∃ versions, support = .obj versions
  compatKeys : ∀ e ∈ entries, hasStatus e.2 = true →
    ∀ keys, Holds e.2 "compat_features" keys → ∃ items, keys = .arr items

variable {data : Value}

theorem entries_eq (data : Value) : Dataset.entries data =
    match mapping data with
    | .obj entries => .ok entries
    | _ => .error .notAnObject := by
  unfold Dataset.entries mapping
  generalize data.field? "features" = inner
  cases inner with
  | none => rfl
  | some x => cases x <;> rfl

/-- The entries of a dataset are the fields of its mapping, which must be an object. -/
theorem entries_eq_ok_iff : Dataset.entries data = .ok entries ↔ mapping data = .obj entries := by
  rw [entries_eq]
  split
  · rename_i fields hfields
    rw [hfields, Except.ok.injEq, Value.obj.injEq]
  · rename_i hno
    exact ⟨fun h => absurd h (by simp), fun h => absurd h (hno entries)⟩

/-- A dataset has features exactly if its mapping is an object of which all entries are converted, and at least one of
them describes a feature. -/
theorem features_eq_ok_iff :
    features data = .ok all ↔
      ∃ entries, mapping data = .obj entries ∧ featuresOfEntries entries = .ok all ∧ all ≠ [] := by
  simp only [← entries_eq_ok_iff]
  unfold features
  cases Dataset.entries data with
  | error d => simp
  | ok entries =>
    cases hall : featuresOfEntries entries with
    | error d => simp [hall]
    | ok fs =>
      -- a dataset without any feature is turned down
      cases fs with
      | nil => simp [hall]
      | cons f fs =>
        simp only [Except.ok.injEq, exists_eq_left', hall]
        exact ⟨fun h => ⟨h, h ▸ List.cons_ne_nil f fs⟩, fun h => h.1⟩

/-- A mapping can be converted exactly if nothing is wrong with its entries and one has a status. -/
theorem isConvertible_iff :
    IsConvertible entries ↔ (∀ e ∈ entries, IsSound e) ∧ ∃ e ∈ entries, hasStatus e.2 = true := by
  constructor
  · intro h
    refine ⟨fun e he => isSound_iff.2 ⟨h.objects e he, fun status hstatus => ?_⟩, h.status⟩
    exact ⟨h.support e he status hstatus, h.compatKeys e he (hasStatus_iff.2 ⟨status, hstatus⟩)⟩
  · rintro ⟨hsound, hstatus⟩
    refine ⟨fun e he => (isSound_iff.1 (hsound e he)).1, hstatus, fun e he status hstatus => ?_, fun e he hstatus => ?_⟩
    · exact ((isSound_iff.1 (hsound e he)).2 status hstatus).1
    · obtain ⟨status, hfield⟩ := hasStatus_iff.1 hstatus
      exact ((isSound_iff.1 (hsound e he)).2 status hfield).2

/-- Entries have features exactly if some entry has a status, because each entry with one gives a feature. -/
theorem ne_nil_iff_of_featuresOfEntries (h : featuresOfEntries entries = .ok all) :
    all ≠ [] ↔ ∃ e ∈ entries, hasStatus e.2 = true := by
  have hlength := (forall₂_of_featuresOfEntries h).length_eq
  rw [← List.length_pos_iff, ← hlength, List.length_pos_iff, Ne, List.filter_eq_nil_iff]
  simp

/-- A mapping is converted exactly if it can be: no entry is wrong, and not all are passed over. -/
theorem exists_features_iff :
    (∃ all, features data = .ok all) ↔ ∃ entries, mapping data = .obj entries ∧ IsConvertible entries := by
  simp only [features_eq_ok_iff, isConvertible_iff, ← exists_featuresOfEntries_iff]
  constructor
  · rintro ⟨all, entries, hmapping, hall, hne⟩
    exact ⟨entries, hmapping, ⟨all, hall⟩, (ne_nil_iff_of_featuresOfEntries hall).1 hne⟩
  · rintro ⟨entries, hmapping, ⟨all, hall⟩, hstatus⟩
    exact ⟨all, entries, hmapping, hall, (ne_nil_iff_of_featuresOfEntries hall).2 hstatus⟩

/-- A dataset is converted by its mapping, so data with the same mapping have the same features. -/
theorem features_congr {data' : Value} (h : mapping data = mapping data') : features data = features data' := by
  unfold features
  rw [entries_eq, entries_eq, h]

/-- Inside a field `features` a mapping is what it is by itself, unless it has such a mapping inside in turn. -/
theorem mapping_wrapped {fields : List (String × Value)} (hdata : data = .obj fields)
    (h : ∀ inner, data.field? "features" ≠ some (.obj inner)) :
    mapping (.obj [("features", data)]) = mapping data := by
  -- what has no mapping under `features` is the mapping itself, and put under `features` once it is found there
  have hself : mapping data = data := by
    unfold mapping
    split
    · rename_i inner hinner
      exact absurd hinner (h inner)
    · rfl
  rw [hself, hdata]
  rfl

/-- **The conversion of a dataset is exact.** It succeeds exactly if the dataset has a mapping that can be converted. It
gives one feature for each entry of the mapping that has a status, in the order of the mapping, and each is the feature
of its entry. And a mapping that has no mapping inside is converted inside a field `features` as it is by itself,
whether or not it can be. -/
theorem conversion_is_exact (data : Value) :
    ((∃ all, features data = .ok all) ↔ ∃ entries, mapping data = .obj entries ∧ IsConvertible entries) ∧
      (∀ entries all, mapping data = .obj entries → features data = .ok all →
        List.Forall₂
          (fun e f => ∃ status, e.2.field? "status" = some (.obj status) ∧ IsFeatureOf e.1 e.2 (.obj status) f)
          (entries.filter fun e => hasStatus e.2) all) ∧
      ∀ fields, data = .obj fields → (∀ inner, data.field? "features" ≠ some (.obj inner)) →
        features (.obj [("features", data)]) = features data := by
  refine ⟨exists_features_iff, fun entries all hmapping hall => ?_, fun fields hdata h => ?_⟩
  · obtain ⟨entries', hmapping', hall, -⟩ := features_eq_ok_iff.1 hall
    obtain rfl := Value.obj.inj (hmapping.symm.trans hmapping')
    refine (forall₂_of_featuresOfEntries hall).imp fun e f => ?_
    rintro ⟨status, hstatus, hf⟩
    exact ⟨status, hstatus, isFeatureOf_of_featureOf hf⟩
  · exact features_congr (mapping_wrapped hdata h)

/-- An entry that moved, and one with a status that gives no version for one of two browsers. -/
def movedAndKept : Value :=
  .obj [("old-layout", .obj [("kind", .str "moved")]),
    ("layout", .obj [("name", .str ""),
      ("status", .obj [("baseline", .str "low"), ("support", .obj [("safari", .str "17"), ("edge", .null)])])])]

theorem conversion_is_exact_of_moved_and_kept :
    (∀ inner, movedAndKept.field? "features" ≠ some (.obj inner)) ∧
      features (.obj [("features", movedAndKept)]) = .ok [
        { id := "layout", name := "layout", tier := .newlyAvailable, browsers := [("safari", "17")],
          compatKeys := [], aliases := [] }] := by
  have hnone : movedAndKept.field? "features" = none := by rfl
  have hinner : ∀ inner, movedAndKept.field? "features" ≠ some (.obj inner) := by simp [hnone]
  exact ⟨hinner, ((conversion_is_exact movedAndKept).2.2 _ rfl hinner).trans rfl⟩

end FeatureAudit.Dataset
