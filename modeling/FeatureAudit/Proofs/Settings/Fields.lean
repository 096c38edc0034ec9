import Mathlib.Data.List.Induction
import Mathlib.Data.List.Nodup
import FeatureAudit.Settings.Sources

/-!
# Fields over fields

Fields are looked up by their names. Setting a field and laying fields over others change what is found
under the names that are set, and nothing else.

* **`lookup?_setField`** — what is found after a field was set.
* **`lookup?_overlay_of_not_mem`** — fields of other names change nothing.
* **`DifferAt`** — two lists of fields have the same values but for one name; setting fields and laying
  fields over both keep it so.
* **`lookup?_overlay`**, **`lookup?_underFirstNames`** — what is found after fields are laid over others,
  and after they are put under their first names: of several values the last.
* **`lastValue?_filter_of_nodup`** — where names are not shared, fields can be left out by their values.
-/
namespace FeatureAudit

open FeatureAudit.Json

/-! ## One field -/

/-- A name is looked up in the first field and then, if that has another name, in the others. -/
theorem lookup?_cons (f : String × Value) (fields : List (String × Value)) (name : String) :
    Value.lookup? (f :: fields) name =
      if f.1 = name then some f.2 else Value.lookup? fields name := by
  by_cases h : f.1 = name <;> simp [Value.lookup?, h]

/-- A field that is set is found under its name, and all other names lead to what they led to before. Whether the name
was there already makes no difference to this. -/
theorem lookup?_setField (fields : List (String × Value)) (name : String) (v : Value)
    (other : String) :
    Value.lookup? (setField fields name v) other =
      if name = other then some v else Value.lookup? fields other := by
  induction fields with
  | nil => exact lookup?_cons (name, v) [] other
  | cons f rest ih =>
    rw [setField]
    by_cases hf : f.1 = name
    · rw [if_pos (by simpa using hf), lookup?_cons, lookup?_cons, hf]
      split <;> rfl
    · rw [if_neg (by simpa using hf), lookup?_cons, lookup?_cons, ih]
      by_cases hother : f.1 = other
      · rw [if_pos hother, if_pos hother, if_neg fun heq => hf (hother.trans heq.symm)]
      · rw [if_neg hother, if_neg hother]

/-! ## Several fields -/

variable {name : String} {fields fields' : List (String × Value)}

/-- Fields that are laid over others leave alone what stands under names that they do not have. -/
theorem lookup?_overlay_of_not_mem {above : List (String × Value)} (h : ∀ f ∈ above, f.1 ≠ name) :
    Value.lookup? (overlay fields above) name = Value.lookup? fields name := by
  unfold overlay
  induction above generalizing fields with
  | nil => rfl
  | cons f rest ih =>
    rw [List.foldl_cons, ih fun f hf => h f (List.mem_cons_of_mem _ hf), lookup?_setField,
      if_neg (h f List.mem_cons_self)]

/-- The two lists of fields have the same values, but perhaps for one name. -/
def DifferAt (name : String) (fields fields' : List (String × Value)) : Prop :=
  ∀ other, name ≠ other → Value.lookup? fields' other = Value.lookup? fields other

/-- To set one field to two values makes fields that differ at its name only. -/
theorem differAt_setField (v v' : Value) :
    DifferAt name (setField fields name v) (setField fields name v') := by
  intro other hother
  rw [lookup?_setField, lookup?_setField, if_neg hother, if_neg hother]

/-- Fields that differ at one name only still do once the same field is set in both. -/
theorem DifferAt.setField (h : DifferAt name fields fields') (field : String) (v : Value) :
    DifferAt name (setField fields field v) (setField fields' field v) := by
  intro other hother
  rw [lookup?_setField, lookup?_setField, h other hother]

/-- Fields that differ at one name only still do once the same fields are laid over both, one after the other. -/
theorem DifferAt.overlay (h : DifferAt name fields fields') (above : List (String × Value)) :
    DifferAt name (overlay fields above) (overlay fields' above) := by
  unfold FeatureAudit.overlay
  induction above generalizing fields fields' with
  | nil => exact h
  | cons f rest ih => exact ih (h.setField f.1 f.2)

/-! ## The last of several values -/

/-- The value of the last field whose name is admitted. -/
def lastValue? (admits : String → Bool) (fields : List (String × Value)) : Option Value :=
  (fields.reverse.find? fun f => admits f.1).map Prod.snd

variable {admits : String → Bool} {below above : List (String × Value)}

/-- The last field counts if its key is admitted, and else the last one before it. -/
theorem lastValue?_concat (f : String × Value) :
    lastValue? admits (fields ++ [f]) = if admits f.1 then some f.2 else lastValue? admits fields := by
  rw [lastValue?, List.reverse_append, List.reverse_singleton, List.singleton_append, List.find?_cons]
  cases admits f.1 <;> rfl

/-- In two lists of fields the last value is that of the second list if there is one, and else that of the first. -/
theorem lastValue?_append (xs ys : List (String × Value)) :
    lastValue? admits (xs ++ ys) = (lastValue? admits ys).or (lastValue? admits xs) := by
  rw [lastValue?, List.reverse_append, List.find?_append, Option.map_or]
  rfl

/-- To rename keys before the last value is taken is to admit keys by their new names. -/
theorem lastValue?_map_fst (rename : String → String) :
    lastValue? admits (fields.map fun f => (rename f.1, f.2)) =
      lastValue? (fun key => admits (rename key)) fields := by
  rw [lastValue?, lastValue?, ← List.map_reverse, List.find?_map, Option.map_map]
  rfl

/-- Fields laid over others: of the upper fields with a name the last counts. -/
theorem lookup?_overlay :
    Value.lookup? (overlay below above) name =
      (lastValue? (fun key => key == name) above).or (Value.lookup? below name) := by
  unfold overlay
  -- from the end of the list on, where the last value is set
  induction above using List.reverseRecOn with
  | nil => rfl
  | append_singleton rest f ih =>
    rw [List.foldl_append, List.foldl_cons, List.foldl_nil, lookup?_setField, ih, lastValue?_concat]
    by_cases h : f.1 = name <;> simp [h]

/-- Fields under their first names are all fields, renamed and laid over each other in their order. -/
theorem underFirstNames_eq_overlay (fields : List (String × Value)) :
    Settings.underFirstNames fields =
      overlay [] (fields.map fun f => (Settings.firstName f.1, f.2)) := by
  rw [Settings.underFirstNames, overlay, List.foldl_map]

/-- Under the first name of a setting stands the last value that is given for it, under whichever of its names that
was. -/
theorem lookup?_underFirstNames :
    Value.lookup? (Settings.underFirstNames fields) name =
      lastValue? (fun key => Settings.firstName key == name) fields := by
  rw [underFirstNames_eq_overlay, lookup?_overlay, lastValue?_map_fst]
  exact Option.or_none

/-! ## Fields under different names -/

/-- The names of fields, once one is set, are the name that was set and those that were there. -/
theorem mem_map_fst_setField {v : Value} {other : String} :
    other ∈ (setField fields name v).map Prod.fst ↔
      other = name ∨ other ∈ fields.map Prod.fst := by
  induction fields with
  | nil => simp [setField]
  | cons f rest ih =>
    rw [setField]
    by_cases hf : f.1 = name
    · rw [if_pos (beq_iff_eq.2 hf), List.map_cons, List.map_cons, List.mem_cons, List.mem_cons, hf]
      tauto
    · rw [if_neg (by simpa using hf), List.map_cons, List.map_cons, List.mem_cons, List.mem_cons, ih]
      tauto

/-- No name occurs twice after a field is set, if none did before: a field whose name is there is replaced and not
added. -/
theorem nodup_map_fst_setField (h : (fields.map Prod.fst).Nodup) (name : String) (v : Value) :
    ((setField fields name v).map Prod.fst).Nodup := by
  induction fields with
  | nil => simp [setField]
  | cons f rest ih =>
    obtain ⟨hfresh, hrest⟩ := List.nodup_cons.1 h
    rw [setField]
    by_cases hf : f.1 = name
    · rw [if_pos (beq_iff_eq.2 hf)]
      exact List.nodup_cons.2 ⟨hf ▸ hfresh, hrest⟩
    · rw [if_neg (by simpa using hf)]
      refine List.nodup_cons.2 ⟨fun hmem => ?_, ih hrest⟩
      rcases mem_map_fst_setField.1 hmem with heq | hmem
      · exact hf heq
      · exact hfresh hmem

/-- No name occurs twice after fields are laid over others, if none did before, however often it occurs in those that
are laid over. -/
theorem nodup_map_fst_overlay (h : (below.map Prod.fst).Nodup) :
    ((overlay below above).map Prod.fst).Nodup := by
  unfold overlay
  induction above generalizing below with
  | nil => exact h
  | cons f rest ih => exact ih (nodup_map_fst_setField h f.1 f.2)

/-- No name occurs twice among first names, even if a setting is given under both of its names. -/
theorem nodup_map_fst_underFirstNames (fields : List (String × Value)) :
    ((Settings.underFirstNames fields).map Prod.fst).Nodup := by
  rw [underFirstNames_eq_overlay]
  exact nodup_map_fst_overlay List.nodup_nil

/-- Where names are not shared, a value is found exactly if it is there. -/
theorem lookup?_eq_some_iff_of_nodup (h : (fields.map Prod.fst).Nodup) {v : Value} :
    Value.lookup? fields name = some v ↔ (name, v) ∈ fields := by
  induction fields with
  | nil => simp [Value.lookup?]
  | cons f rest ih =>
    obtain ⟨hfresh, hrest⟩ := List.nodup_cons.1 h
    rw [lookup?_cons, List.mem_cons]
    by_cases hf : f.1 = name
    · -- the name is that of the head, so nothing behind it can have it
      have hothers : (name, v) ∉ rest := fun hmem => hfresh (List.mem_map.2 ⟨_, hmem, hf.symm⟩)
      rw [if_pos hf]
      constructor
      · intro hv
        exact Or.inl (Prod.ext hf.symm (Option.some.inj hv).symm)
      · rintro (rfl | hmem)
        · rfl
        · exact absurd hmem hothers
    · have hhead : (name, v) ≠ f := fun heq => hf (congrArg Prod.fst heq).symm
      rw [if_neg hf, ih hrest]
      exact ⟨Or.inr, fun hmem => hmem.resolve_left hhead⟩

/-- Where names are not shared, the last field of a name is its only one, and it stays or goes by its own
value. -/
theorem lastValue?_filter_of_nodup (h : (fields.map Prod.fst).Nodup) (keep : Value → Bool) :
    lastValue? (fun key => key == name) (fields.filter fun f => keep f.2) =
      (Value.lookup? fields name).filter keep := by
  have hkept : (((fields.filter fun f => keep f.2).reverse).map Prod.fst).Nodup := by
    rw [List.map_reverse, List.nodup_reverse]
    exact h.sublist (List.filter_sublist.map _)
  show Value.lookup? (fields.filter fun f => keep f.2).reverse name = _
  refine Option.ext fun v => ?_
  rw [lookup?_eq_some_iff_of_nodup hkept, List.mem_reverse, List.mem_filter,
    Option.filter_eq_some_iff, lookup?_eq_some_iff_of_nodup h]

end FeatureAudit
