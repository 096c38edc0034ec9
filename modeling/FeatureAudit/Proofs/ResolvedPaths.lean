import FeatureAudit.Proofs.Files

/-!
# Paths made absolute by their text

On the way along a path two dots lead up from a directory. Where a path is made absolute by its text, they take away the
name before them instead. In a tree without links both come to the same place: an absolute path that leads somewhere
leads there still when it is settled, and nothing that is wrong with a path by itself comes in.

* **`Files.place_of_follow`** — names lead to where their settled names say.
* **`Files.follow_of_isReached`** — the settled names lead there too.
* **`Files.find_resolved`** — an absolute path that leads somewhere leads there when it is settled.
-/
namespace FeatureAudit

/-! ## Settled names -/

/-- Names after those that are kept already; two dots take away the last of them. -/
def settleFrom (kept parts : List String) : List String :=
  parts.foldl (fun kept part => if part == ".." then kept.dropLast else kept ++ [part]) kept

/-- Parts are settled from nothing: no names are kept to begin with. -/
theorem settle_eq (parts : List String) : settle parts = settleFrom [] parts := rfl

/-- One name is settled at a time. Two dots drop the name that was kept last, and any other name is kept behind the
others. -/
theorem settleFrom_cons (kept rest : List String) (name : String) :
    settleFrom kept (name :: rest) = settleFrom (if name == ".." then kept.dropLast else kept ++ [name]) rest := rfl

/-- What is kept of some names are some of these names in their order. So a settled path is never longer than the path
it comes from, and has no name that was not there. -/
theorem settleFrom_sublist (kept parts : List String) : (settleFrom kept parts).Sublist (kept ++ parts) := by
  induction parts generalizing kept with
  | nil => rw [List.append_nil]; exact List.Sublist.refl kept
  | cons name rest ih =>
    rw [settleFrom_cons]
    refine (ih _).trans ?_
    split
    · exact (List.dropLast_sublist kept).append (List.sublist_cons_self name rest)
    · rw [List.append_assoc]
      exact List.Sublist.refl _

/-- Names without two dots among them are all kept, since nothing drops any of them. -/
theorem settleFrom_of_not_mem {kept parts : List String} (h : ".." ∉ parts) : settleFrom kept parts = kept ++ parts := by
  induction parts generalizing kept with
  | nil => exact (List.append_nil kept).symm
  | cons name rest ih =>
    obtain ⟨hname, hrest⟩ := not_or.1 fun hor => h (List.mem_cons.2 hor)
    rw [settleFrom_cons, if_neg (by simpa using Ne.symm hname), ih hrest, List.append_assoc]
    rfl

/-! ## What is wrong with a path by itself -/

namespace Path

variable {p : Path}

/-- The bytes of names with slashes between them: those of the first name, and with a slash those of the others if
there are any. -/
theorem utf8ByteSize_intercalate_cons (name : String) (rest : List String) :
    ("/".intercalate (name :: rest)).utf8ByteSize =
      name.utf8ByteSize + if rest = [] then 0 else 1 + ("/".intercalate rest).utf8ByteSize := by
  by_cases hrest : rest = []
  · rw [hrest, String.intercalate_singleton, if_pos rfl]
    rfl
  · have hslash : "/".utf8ByteSize = 1 := rfl
    rw [String.intercalate_cons_of_ne_nil hrest, String.utf8ByteSize_append, String.utf8ByteSize_append, hslash,
      if_neg hrest, Nat.add_assoc]

/-- Names that are left out take their slashes with them. -/
theorem utf8ByteSize_intercalate_le {names names' : List String} (h : names.Sublist names') :
    ("/".intercalate names).utf8ByteSize ≤ ("/".intercalate names').utf8ByteSize := by
  induction h with
  | slnil => exact Nat.le_refl _
  | @cons names names' name h ih =>
    -- the name is left out, and with it the slash behind it
    rw [utf8ByteSize_intercalate_cons]
    split
    · rename_i hnone
      rw [hnone, List.sublist_nil] at h
      rw [h, String.intercalate_nil]
      exact Nat.zero_le _
    · omega
  | @cons_cons names names' name h ih =>
    rw [utf8ByteSize_intercalate_cons, utf8ByteSize_intercalate_cons]
    refine Nat.add_le_add_left ?_ _
    by_cases hnone : names' = []
    · rw [hnone, List.sublist_nil] at h
      rw [if_pos h]
      exact Nat.zero_le _
    · rw [if_neg hnone]
      split <;> omega

/-- An absolute path is written as its root with the names behind it, without the dot that stands for an empty
relative path. -/
theorem toString_of_isAbsolute (h : p.isAbsolute = true) : p.toString = p.root ++ "/".intercalate p.parts := by
  have hroot : p.root ≠ "" := by simpa [isAbsolute] using h
  rw [toString, if_neg (by simp [hroot])]

theorem isAbsolute_resolved (directory : List String) (p : Path) : (p.resolved directory).isAbsolute = true := rfl

/-- An absolute path is resolved by settling its own parts; the working directory has no say in it. -/
theorem parts_resolved (directory : List String) (h : p.isAbsolute = true) :
    (p.resolved directory).parts = settleFrom [] p.parts := by
  rw [resolved, if_pos h, settle_eq]

/-- The parts of a resolved path are some of the parts it had, in the same order. -/
theorem parts_resolved_sublist (directory : List String) (h : p.isAbsolute = true) :
    (p.resolved directory).parts.Sublist p.parts := by
  rw [parts_resolved directory h]
  exact settleFrom_sublist [] p.parts

/-- No null character comes into a path by resolving it, since all its parts were there before. -/
theorem hasNull_resolved (directory : List String) (habsolute : p.isAbsolute = true) (h : ¬ p.hasNull = true) :
    ¬ (p.resolved directory).hasNull = true := by
  rw [hasNull, List.any_eq_true] at h ⊢
  rintro ⟨name, hname, hnull⟩
  exact h ⟨name, (parts_resolved_sublist directory habsolute).subset hname, hnull⟩

/-- A path has no fault of its own exactly if it has no null character and is not too long in bytes. These are the two
things that are looked at before any name is followed. -/
theorem fault?_eq_none_iff : p.fault? = none ↔ ¬ p.hasNull = true ∧ p.toString.utf8ByteSize ≤ pathLimit := by
  rw [fault?]
  split
  · simp_all
  · split
    · simp; omega
    · simp_all

/-- The text of a path does not get longer as it is settled. -/
theorem fault?_resolved (directory : List String) (habsolute : p.isAbsolute = true) (h : p.fault? = none) :
    (p.resolved directory).fault? = none := by
  obtain ⟨hnull, hsize⟩ := fault?_eq_none_iff.1 h
  refine fault?_eq_none_iff.2 ⟨hasNull_resolved directory habsolute hnull, Nat.le_trans ?_ hsize⟩
  have hroot : 1 ≤ p.root.utf8ByteSize := by
    have hne : p.root ≠ "" := by simpa [isAbsolute] using habsolute
    exact Nat.one_le_iff_ne_zero.2 fun hzero => hne (String.utf8ByteSize_eq_zero_iff.1 hzero)
  rw [toString_of_isAbsolute habsolute, toString_of_isAbsolute (isAbsolute_resolved directory p),
    String.utf8ByteSize_append, String.utf8ByteSize_append]
  exact Nat.add_le_add hroot (utf8ByteSize_intercalate_le (parts_resolved_sublist directory habsolute))

/-- A path without a fault of its own is always resolved. -/
theorem resolve_of_fault? (directory : List String) (h : p.fault? = none) :
    p.resolve directory = .ok (p.resolved directory) := by
  rw [resolve, if_neg (fault?_eq_none_iff.1 h).1]

end Path

namespace Files

variable {fs : Files} {here place names : List String} {name : String} {e : Entry} {p : Path}

/-! ## Where names lead -/

/-- Names lead to where their settled names say. -/
theorem place_of_follow (h : fs.follow here names = .ok (place, e)) : place = settleFrom here names := by
  induction names generalizing here with
  | nil =>
    rw [follow] at h
    split at h
    · exact (Prod.mk.inj (Except.ok.inj h)).1.symm
    · exact absurd h (by simp)
  | cons name rest ih =>
    -- the place from which the rest is followed is the one that settling keeps
    rw [follow] at h
    split at h
    · split at h
      · exact absurd h (by simp)
      · exact ih h
    · exact absurd h (by simp)
    · exact absurd h (by simp)

/-- What is there on the way to a place is reached by its names from the root on. -/
def IsReached (fs : Files) (place : List String) : Prop :=
  ∀ on, on <+: place → ∀ e, fs.entryAt? on = some e → fs.follow [] on = .ok (on, e)

theorem isReached_nil (fs : Files) : fs.IsReached [] := by
  intro on hon e he
  obtain rfl := List.prefix_nil.1 hon
  rw [follow, he]

/-- A place from which one goes up is reached if the one below it is: all places on the way to it were reached
already. -/
theorem IsReached.dropLast (h : fs.IsReached place) : fs.IsReached place.dropLast :=
  fun on hon => h on (hon.trans (List.dropLast_prefix place))

/-- The place below a directory that is reached is reached too, if the name is one that can be followed and does not
lead up. -/
theorem IsReached.concat (h : fs.IsReached place) (hplace : fs.entryAt? place = some .directory) (hname : name ≠ "..")
    (hshort : ¬ name.utf8ByteSize > nameLimit) : fs.IsReached (place ++ [name]) := by
  intro on hon e he
  rcases List.prefix_concat_iff.1 hon with rfl | hon
  · rw [follow_append _ _ (h place (List.prefix_refl place) _ hplace), follow_singleton hplace hname, if_neg hshort, he]
  · exact h on hon e he

/-- Where names lead from a place that is reached, the names of that place lead from the root on. -/
theorem follow_of_isReached (hhere : fs.IsReached here) (h : fs.follow here names = .ok (place, e)) :
    fs.follow [] place = .ok (place, e) := by
  induction names generalizing here with
  | nil =>
    rw [follow] at h
    split at h
    · rename_i found hfound
      obtain ⟨rfl, rfl⟩ := Prod.mk.inj (Except.ok.inj h)
      exact hhere here (List.prefix_refl here) _ hfound
    · exact absurd h (by simp)
  | cons name rest ih =>
    rw [follow] at h
    split at h
    · rename_i hdirectory
      split at h
      · exact absurd h (by simp)
      · rename_i hshort
        refine ih ?_ h
        split
        · -- two dots: back to a place that was reached on the way
          exact hhere.dropLast
        · rename_i hname
          exact hhere.concat hdirectory (by simpa using hname) hshort
    · exact absurd h (by simp)
    · exact absurd h (by simp)

theorem start_of_isAbsolute (h : p.isAbsolute = true) : fs.start p = [] := by rw [start, if_pos h]

/-- An absolute path that leads somewhere leads there when it is settled. -/
theorem find_resolved (habsolute : p.isAbsolute = true) (h : fs.find p = .ok (place, e)) :
    fs.find (p.resolved fs.directory) = .ok (place, e) := by
  obtain ⟨hfault, hfollow⟩ := follow_of_find h
  rw [start_of_isAbsolute habsolute] at hfollow
  have hplace : (p.resolved fs.directory).parts = place := by
    rw [Path.parts_resolved _ habsolute, place_of_follow hfollow]
  rw [find, Path.fault?_resolved _ habsolute hfault]
  dsimp only
  rw [start_of_isAbsolute (Path.isAbsolute_resolved fs.directory p), hplace]
  exact follow_of_isReached (isReached_nil fs) hfollow

end Files

end FeatureAudit
