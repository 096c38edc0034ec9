import FeatureAudit.History

/-!
# Reading what was written

A path is followed name by name, and every name on the way must be a directory. A file that is written or
deleted takes no directory away, so the same path still leads to the same place; what stands there is new.

* **`Files.follow_of_keeps`** — names lead to the same place where no directory is lost.
* **`Files.read_of_write`** — what is written at a path is read there.
* **`Files.read_of_delete`** — a file that is deleted is not found.
-/
namespace FeatureAudit.Files

variable {fs fs' : Files} {here place names : List String} {e e' : Entry}

/-- Whoever follows names to their end is told what there is at the place where they end. The induction is on the
names that are still to be followed. -/
theorem entryAt?_of_follow (h : fs.follow here names = .ok (place, e)) :
    fs.entryAt? place = some e := by
  induction names generalizing here with
  | nil =>
    -- nothing is left to follow, so the entry is the one at this place
    rw [follow] at h
    split at h
    · rename_i found hfound
      obtain ⟨rfl, rfl⟩ := Prod.mk.inj (Except.ok.inj h)
      exact hfound
    · exact absurd h (by simp)
  | cons name rest ih =>
    rw [follow] at h
    split at h
    · split at h
      · exact absurd h (by simp)
      · exact ih h
    · exact absurd h (by simp)
    · exact absurd h (by simp)

/-- To follow some names and then others is to follow all of them. -/
theorem follow_append (names more : List String) (h : fs.follow here names = .ok (place, e)) :
    fs.follow here (names ++ more) = fs.follow place more := by
  induction names generalizing here with
  | nil =>
    rw [follow] at h
    split at h
    · obtain ⟨rfl, -⟩ := Prod.mk.inj (Except.ok.inj h)
      rfl
    · exact absurd h (by simp)
  | cons name rest ih =>
    rw [List.cons_append, follow]
    rw [follow] at h
    split at h
    · split at h
      · exact absurd h (by simp)
      · -- a name that can be followed now can be followed with more names behind it
        rename_i hshort
        rw [if_neg hshort]
        exact ih h
    · exact absurd h (by simp)
    · exact absurd h (by simp)

/-- Names lead to the same place where no directory is lost. -/
theorem follow_of_keeps (hkeep : ∀ q, fs.entryAt? q = some .directory → fs'.entryAt? q = some .directory)
    (hplace : fs'.entryAt? place = some e') (h : fs.follow here names = .ok (place, e)) :
    fs'.follow here names = .ok (place, e') := by
  induction names generalizing here with
  | nil =>
    rw [follow] at h
    split at h
    · obtain ⟨rfl, -⟩ := Prod.mk.inj (Except.ok.inj h)
      rw [follow, hplace]
    · exact absurd h (by simp)
  | cons name rest ih =>
    rw [follow] at h ⊢
    split at h
    · -- the directory on the way is still one in the other file system
      rename_i hhere
      rw [hkeep here hhere]
      dsimp only
      split at h
      · exact absurd h (by simp)
      · rename_i hshort
        rw [if_neg hshort]
        exact ih h
    · exact absurd h (by simp)
    · exact absurd h (by simp)

/-- To put a file where there was no directory leaves all directories as they are, which is what the ways to other
files go through. -/
theorem directory_set_of_ne (hne : place ≠ []) (hold : fs.entryAt? place ≠ some .directory)
    (content : List UInt8) :
    ∀ q, fs.entryAt? q = some .directory →
      (fs.set place (.file content)).entryAt? q = some .directory := by
  intro q hq
  have hother : q ≠ place := by
    rintro rfl
    exact hold hq
  rw [entryAt?_set fs _ q hne, if_neg hother, hq]

/-- The root is always a directory, so a place that holds none lies somewhere below the root. -/
theorem ne_nil_of_entryAt? (h : fs.entryAt? place ≠ some .directory) : place ≠ [] := by
  rintro rfl
  exact h rfl

variable {p : Path} {content : List UInt8}

/-- The bytes of a file are read once its path is in order and the names lead to it. -/
theorem read_of_follow (hfault : p.fault? = none)
    (h : fs.follow (fs.start p) p.parts = .ok (place, .file content)) :
    fs.read p = .ok content := by
  rw [read, find, hfault]
  dsimp only
  rw [h]

/-- A path that leads somewhere has no fault of its own, and the names in it were followed from the place where it
starts. -/
theorem follow_of_find (h : fs.find p = .ok (place, e)) :
    p.fault? = none ∧ fs.follow (fs.start p) p.parts = .ok (place, e) := by
  unfold find at h
  split at h
  · exact absurd h (by simp)
  · rename_i hfault
    exact ⟨hfault, h⟩

/-- If nothing is found at a path, then this was noticed on the way and not by a look at the path: a null character or
too many bytes would have been reported as such. -/
theorem follow_of_find_notFound (h : fs.find p = .error .notFound) :
    p.fault? = none ∧ fs.follow (fs.start p) p.parts = .error .notFound := by
  unfold find at h
  split at h
  · rename_i fault hfault
    -- what is wrong with a path by itself is something else
    unfold Path.fault? at hfault
    split at hfault
    · simp_all
    · split at hfault <;> simp_all
  · rename_i hfault
    exact ⟨hfault, h⟩

/-- To follow a single name from a directory is to look below it, unless the name is too long. Two dots are left out,
since they lead up. -/
theorem follow_singleton {name : String} (hhere : fs.entryAt? here = some .directory)
    (hname : name ≠ "..") :
    fs.follow here [name] =
      if name.utf8ByteSize > nameLimit then .error .nameTooLong
      else
        match fs.entryAt? (here ++ [name]) with
        | some e => .ok (here ++ [name], e)
        | none => .error .notFound := by
  have hstep : (if (name == "..") = true then here.dropLast else here ++ [name]) = here ++ [name] :=
    if_neg (by simpa using hname)
  have hlast : fs.follow (here ++ [name]) [] =
      match fs.entryAt? (here ++ [name]) with
      | some e => .ok (here ++ [name], e)
      | none => .error .notFound := rfl
  rw [follow, hhere]
  dsimp only
  rw [hstep, hlast]

/-- A file that was there is read with its new content. -/
theorem read_set_of_find {old : List UInt8} (h : fs.find p = .ok (place, .file old)) :
    (fs.set place (.file content)).read p = .ok content := by
  obtain ⟨hfault, hfollow⟩ := follow_of_find h
  have hold : fs.entryAt? place ≠ some .directory := by
    rw [entryAt?_of_follow hfollow]
    simp
  have hne : place ≠ [] := ne_nil_of_entryAt? hold
  have hplace : (fs.set place (.file content)).entryAt? place = some (.file content) := by
    rw [entryAt?_set fs _ place hne, if_pos rfl]
  exact read_of_follow hfault (follow_of_keeps (directory_set_of_ne hne hold content) hplace hfollow)

/-- A file that was made in a directory is read. -/
theorem read_set_of_parent {parent : List String} (hname : p.name ≠ "..")
    (h : fs.find p = .error .notFound)
    (hparent : fs.follow (fs.start p) p.parts.dropLast = .ok (parent, .directory)) :
    (fs.set (parent ++ [p.name]) (.file content)).read p = .ok content := by
  obtain ⟨hfault, hnone⟩ := follow_of_find_notFound h
  have hdirectory : fs.entryAt? parent = some .directory := entryAt?_of_follow hparent
  have hparts : p.parts = p.parts.dropLast ++ [p.name] := by
    have hne : p.parts ≠ [] := by
      intro hnil
      rw [hnil] at hparent hnone
      exact absurd (hparent.symm.trans hnone) (by simp)
    rw [Path.name, List.getLast?_eq_some_getLast hne]
    exact (List.dropLast_concat_getLast hne).symm
  -- the name is not too long, and stands for nothing yet
  rw [hparts, follow_append _ _ hparent, follow_singleton hdirectory hname] at hnone
  have hshort : ¬ p.name.utf8ByteSize > nameLimit := by
    intro hlong
    rw [if_pos hlong] at hnone
    exact absurd hnone (by simp)
  have hfree : fs.entryAt? (parent ++ [p.name]) = none := by
    rw [if_neg hshort] at hnone
    split at hnone
    · exact absurd hnone (by simp)
    · assumption
  have hne : parent ++ [p.name] ≠ [] := by simp
  have hkeep := directory_set_of_ne hne (by rw [hfree]; simp) content
  have hplace : (fs.set (parent ++ [p.name]) (.file content)).entryAt? (parent ++ [p.name]) =
      some (.file content) := by
    rw [entryAt?_set fs _ _ hne, if_pos rfl]
  have hparent' : (fs.set (parent ++ [p.name]) (.file content)).follow (fs.start p)
      p.parts.dropLast = .ok (parent, .directory) :=
    follow_of_keeps hkeep (hkeep parent hdirectory) hparent
  have hfollow : (fs.set (parent ++ [p.name]) (.file content)).follow (fs.start p) p.parts =
      .ok (parent ++ [p.name], .file content) := by
    rw [hparts, follow_append _ _ hparent', follow_singleton (hkeep parent hdirectory) hname,
      if_neg hshort, hplace]
  exact read_of_follow hfault hfollow

theorem read_of_write (hname : p.name ≠ "..") (h : fs.write p content = .ok fs') :
    fs'.read p = .ok content := by
  unfold write at h
  split at h
  · -- the file was there
    rename_i place old hfind
    obtain rfl := Except.ok.inj h
    exact read_set_of_find hfind
  · -- a directory stands there, which is not written over
    exact absurd h (by simp)
  · rename_i hfind
    split at h
    · -- the file was made in its directory
      rename_i parent hparent
      obtain rfl := Except.ok.inj h
      exact read_set_of_parent hname hfind hparent
    · exact absurd h (by simp)
    · exact absurd h (by simp)
  · exact absurd h (by simp)

/-! ## What a path leads to -/

/-- A path leads to an entry of some kind exactly if it is found and its entry is of that kind. Files and directories
are two cases of this. -/
theorem leadsTo_eq_ok_true_iff {kind : Entry → Bool} :
    fs.leadsTo kind p = .ok true ↔ ∃ place e, fs.find p = .ok (place, e) ∧ kind e = true := by
  rw [leadsTo]
  constructor
  · intro h
    split at h
    · rename_i place e hfind
      exact ⟨place, e, hfind, Except.ok.inj h⟩
    · exact absurd h (by simp)
    · exact absurd h (by simp)
  · rintro ⟨place, e, hfind, hkind⟩
    rw [hfind]
    exact congrArg Except.ok hkind

/-- There is something at a path exactly if it can be found, whatever it is. -/
theorem has_eq_ok_true_iff : fs.has p = .ok true ↔ ∃ found, fs.find p = .ok found := by
  rw [has, leadsTo_eq_ok_true_iff]
  simp

/-- There is a directory at a path exactly if it is found there; a file of that name is not enough. -/
theorem hasDirectory_eq_ok_true_iff : fs.hasDirectory p = .ok true ↔ ∃ place, fs.find p = .ok (place, .directory) := by
  rw [hasDirectory, leadsTo_eq_ok_true_iff]
  constructor
  · rintro ⟨place, e, hfind, hkind⟩
    cases e with
    | directory => exact ⟨place, hfind⟩
    | file content => exact absurd hkind (by simp [Entry.isFile])
  · rintro ⟨place, hfind⟩
    exact ⟨place, .directory, hfind, rfl⟩

/-! ## Files that are taken away -/

/-- An entry is looked up after others were removed: those at and below the removed place are gone, and all others are
found as before. The induction is on the list of entries. -/
theorem find?_remove (names other : List String) (entries : List (List String × Entry)) :
    ((entries.filter fun e => !names.isPrefixOf e.1).find? fun e => e.1 == other) =
      if names.isPrefixOf other then none else entries.find? fun e => e.1 == other := by
  induction entries with
  | nil => simp
  | cons e rest ih =>
    rw [List.filter_cons, List.find?_cons]
    by_cases hother : e.1 = other
    · -- the entry that is looked for: it is kept if it is not below what is removed
      have hhere : (e.1 == other) = true := beq_iff_eq.2 hother
      rw [hhere, hother]
      cases hinside : names.isPrefixOf other with
      | true => simpa [hinside] using ih
      | false => simp [hother]
    · have hskip : (e.1 == other) = false := beq_eq_false_iff_ne.2 hother
      rw [hskip, ← ih]
      split
      · rw [List.find?_cons, hskip]
      · rfl

/-- What is at a place other than the root, once an entry was removed with all that is below it. The root is left out
because it is there without being listed. -/
theorem entryAt?_remove (names : List String) {other : List String} (hother : other ≠ []) :
    (fs.remove names).entryAt? other =
      if names.isPrefixOf other then none else fs.entryAt? other := by
  have hlisted : ¬ other.isEmpty = true := fun h => hother (List.isEmpty_iff.1 h)
  rw [entryAt?, if_neg hlisted, entryAt?, if_neg hlisted, remove, find?_remove]
  split <;> rfl

/-- Whatever place is asked for, to remove entries either takes its entry away or leaves it as it was. No entry takes
the place of another. -/
theorem entryAt?_remove_eq (names other : List String) :
    (fs.remove names).entryAt? other = none ∨
      (fs.remove names).entryAt? other = fs.entryAt? other := by
  cases other with
  | nil => exact Or.inr rfl
  | cons name rest =>
    rw [entryAt?_remove names (by simp)]
    split
    · exact Or.inl rfl
    · exact Or.inr rfl

/-- Names lead nowhere once the entry that they led to is gone. -/
theorem follow_of_gone (hkeep : ∀ q, fs'.entryAt? q = none ∨ fs'.entryAt? q = fs.entryAt? q)
    (hplace : fs'.entryAt? place = none) (h : fs.follow here names = .ok (place, e)) :
    fs'.follow here names = .error .notFound := by
  induction names generalizing here with
  | nil =>
    rw [follow] at h
    split at h
    · obtain ⟨rfl, -⟩ := Prod.mk.inj (Except.ok.inj h)
      rw [follow, hplace]
    · exact absurd h (by simp)
  | cons name rest ih =>
    rw [follow] at h ⊢
    split at h
    · rename_i hhere
      -- a directory on the way may be gone too
      rcases hkeep here with hgone | hkept
      · rw [hgone]
      · rw [hkept, hhere]
        dsimp only
        split at h
        · exact absurd h (by simp)
        · rename_i hshort
          rw [if_neg hshort]
          exact ih h
    · exact absurd h (by simp)
    · exact absurd h (by simp)

theorem read_of_delete (h : fs.delete p = .ok fs') : fs'.read p = .error .notFound := by
  unfold delete at h
  split at h
  · rename_i place old hfind
    obtain rfl := Except.ok.inj h
    obtain ⟨hfault, hfollow⟩ := follow_of_find hfind
    -- a file was found, so this is not the root
    have hne : place ≠ [] := by
      rintro rfl
      exact absurd (entryAt?_of_follow hfollow) (by simp [entryAt?])
    have hgone : (fs.remove place).entryAt? place = none := by
      rw [entryAt?_remove place hne, if_pos (by simp)]
    have hnowhere : (fs.remove place).follow (fs.start p) p.parts = .error .notFound :=
      follow_of_gone (entryAt?_remove_eq place) hgone hfollow
    have hstart : (fs.remove place).start p = fs.start p := rfl
    rw [read, find, hfault]
    dsimp only
    rw [hstart, hnowhere]
  · exact absurd h (by simp)
  · exact absurd h (by simp)

/-! ## The working directory -/

/-- To write a file does not change the working directory, so relative paths lead from the same place afterwards. -/
theorem directory_of_write (h : fs.write p content = .ok fs') : fs'.directory = fs.directory := by
  unfold write at h
  split at h
  · obtain rfl := Except.ok.inj h
    rfl
  · exact absurd h (by simp)
  · split at h
    · obtain rfl := Except.ok.inj h
      rfl
    · exact absurd h (by simp)
    · exact absurd h (by simp)
  · exact absurd h (by simp)

theorem directory_of_delete (h : fs.delete p = .ok fs') : fs'.directory = fs.directory := by
  unfold delete at h
  split at h
  · obtain rfl := Except.ok.inj h
    rfl
  · exact absurd h (by simp)
  · exact absurd h (by simp)

end FeatureAudit.Files
