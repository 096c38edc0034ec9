import Mathlib.Data.List.Nodup
import Mathlib.Logic.ExistsUnique
import FeatureAudit.Findings

/-!
# Findings share out the uses

The uses of all files end up in four lists. Which list a use belongs in is decided by how bad it is
and by the exceptions, so each use is in exactly one list, and each list keeps the order of the files.

* **`Usage.IsExcepted`** — the token or the feature of a use is excepted.
* **`category_eq`** — which uses belong in which list.
* **`filter_file_of_mem`** — of the uses of all files, those that name a file are those of the file.
* **`inList_ofFiles`** — a list of findings holds the uses that belong in it.
* **`allUsages_perm`** — the four lists together are the uses of the files.
* **`SharesOut`** — what it is to share out uses.
* **`uses_are_shared_out`** — findings share out the uses of the files, and their totals count them.
-/
namespace FeatureAudit

/-! ## Where a use belongs -/

/-- The token of the use or its feature is excepted. -/
def Usage.IsExcepted (exceptions : List String) (u : Usage) : Prop :=
  u.token ∈ exceptions ∨ u.featureId ∈ exceptions

instance (exceptions : List String) (u : Usage) : Decidable (u.IsExcepted exceptions) :=
  inferInstanceAs (Decidable (_ ∨ _))

variable {exceptions : List String} {u : Usage}

/-- The test for exceptions finds a usage exempt exactly if its token or its feature is excepted. -/
theorem isExempt_iff : u.isExempt exceptions = true ↔ u.IsExcepted exceptions := by
  rw [Usage.isExempt, Usage.IsExcepted, Bool.or_eq_true, List.contains_iff_mem,
    List.contains_iff_mem]

/-- How bad a use is comes first, then the exceptions. -/
theorem category_eq (exceptions : List String) (u : Usage) :
    u.category exceptions =
      if u.severity = .info then .suggestion
      else if u.IsExcepted exceptions then .exempted
      else if u.severity = .error then .violation
      else .warning := by
  unfold Usage.category
  cases u.severity <;> simp [isExempt_iff]

theorem category_eq_suggestion_iff :
    u.category exceptions = .suggestion ↔ u.severity = .info := by
  rw [category_eq]
  grind

/-- The exempted usages are those that are excepted and not just for information. -/
theorem category_eq_exempted_iff :
    u.category exceptions = .exempted ↔ u.severity ≠ .info ∧ u.IsExcepted exceptions := by
  rw [category_eq]
  grind

theorem category_eq_violation_iff :
    u.category exceptions = .violation ↔ u.severity = .error ∧ ¬ u.IsExcepted exceptions := by
  rw [category_eq]
  grind

/-- The warnings are what is neither for information nor an error, and not excepted. -/
theorem category_eq_warning_iff :
    u.category exceptions = .warning ↔
      u.severity ≠ .info ∧ u.severity ≠ .error ∧ ¬ u.IsExcepted exceptions := by
  rw [category_eq]
  grind

/-! ## The uses of one list -/

/-- A usage is picked for a category if it is one of the usages and belongs there. -/
theorem mem_inCategory_iff {category : Category} {usages : List Usage} :
    u ∈ inCategory exceptions category usages ↔
      u ∈ usages ∧ u.category exceptions = category := by
  rw [inCategory, List.mem_filter, decide_eq_true_eq]

/-- A use stands in its own list as often as it is given, and in no other. -/
theorem count_inCategory (exceptions : List String) (category : Category) (usages : List Usage)
    (u : Usage) :
    (inCategory exceptions category usages).count u =
      if u.category exceptions = category then usages.count u else 0 := by
  split
  · rename_i h
    exact List.count_filter (decide_eq_true h)
  · rename_i h
    refine List.count_eq_zero_of_not_mem fun hmem => ?_
    exact h (mem_inCategory_iff.1 hmem).2

/-! ## The uses of one file -/

section Files

variable {files : List (String × List Usage)}

/-- Where names are not shared, a name tells one file. -/
theorem filter_name_eq (hnames : (files.map Prod.fst).Nodup) {f : String × List Usage}
    (hf : f ∈ files) : (files.filter fun g => g.1 = f.1) = [f] := by
  induction files with
  | nil => exact absurd hf List.not_mem_nil
  | cons g rest ih =>
    obtain ⟨hfresh, hrest⟩ := List.nodup_cons.1 hnames
    rw [List.filter_cons]
    rcases List.mem_cons.1 hf with rfl | hmem
    · -- no other file has the name of the first
      have hothers : (rest.filter fun g => g.1 = f.1) = [] := by
        refine List.filter_eq_nil_iff.2 fun g hg hname => hfresh ?_
        exact List.mem_map.2 ⟨g, hg, by simpa using hname⟩
      rw [if_pos (by simp), hothers]
    · have hother : g.1 ≠ f.1 := by
        intro hname
        exact hfresh (hname ▸ List.mem_map_of_mem hmem)
      rw [if_neg (by simpa using hother), ih hrest hmem]

/-- What is found in some of the files is what is found in all of them and located in those: a use is kept or left out
with the file that it is found in. -/
theorem filter_flatMap_of_located {α : Type} {keep : α → Bool} {located : Usage → Bool} {uses : α → List Usage}
    {sources : List α} (h : ∀ p ∈ sources, ∀ u ∈ uses p, located u = keep p) :
    (sources.flatMap uses).filter located = (sources.filter keep).flatMap uses := by
  induction sources with
  | nil => rfl
  | cons p rest ih =>
    obtain ⟨hp, hrest⟩ := List.forall_mem_cons.1 h
    rw [List.flatMap_cons, List.filter_append, ih hrest, List.filter_cons]
    cases hkeep : keep p with
    | true =>
      have hall : (uses p).filter located = uses p := List.filter_eq_self.2 fun u hu => by rw [hp u hu, hkeep]
      rw [hall, if_pos rfl, List.flatMap_cons]
    | false =>
      have hnone : (uses p).filter located = [] :=
        List.filter_eq_nil_iff.2 fun u hu => by rw [hp u hu, hkeep]; simp
      rw [hnone, if_neg (by simp), List.nil_append]

/-- Where the uses of a file name it, the uses that name a file are those of the files of that name. -/
theorem filter_file_flatMap (hown : ∀ f ∈ files, ∀ u ∈ f.2, u.file = f.1) (name : String) :
    ((files.flatMap Prod.snd).filter fun u => u.file = name) =
      (files.filter fun f => f.1 = name).flatMap Prod.snd :=
  filter_flatMap_of_located fun f hf u hu => by rw [hown f hf u hu]

/-- Of the uses of all files, those that name a file are those of the file. -/
theorem filter_file_of_mem (hnames : (files.map Prod.fst).Nodup)
    (hown : ∀ f ∈ files, ∀ u ∈ f.2, u.file = f.1) {name : String} {usages : List Usage}
    (hf : (name, usages) ∈ files) :
    ((files.flatMap Prod.snd).filter fun u => u.file = name) = usages := by
  have hone : (files.filter fun f => f.1 = name) = [(name, usages)] := filter_name_eq hnames hf
  rw [filter_file_flatMap hown, hone, List.flatMap_singleton]

end Files

namespace Findings

/-- The uses of one of the four lists. -/
def inList (f : Findings) : Category → List Usage
  | .violation => f.violations
  | .warning => f.warnings
  | .suggestion => f.suggestions
  | .exempted => f.exempted

variable {files : List (String × List Usage)} {options : FindingsOptions}

/-- Each list of findings is the usages of its category in all files, one file after the other. -/
theorem inList_ofFiles (category : Category) :
    (ofFiles files options).inList category =
      inCategory options.exceptions category (files.flatMap Prod.snd) := by
  cases category <;> rfl

/-- A usage is counted in the findings as often as in the four lists together. -/
theorem count_allUsages (f : Findings) (u : Usage) :
    f.allUsages.count u =
      (f.inList .violation).count u + (f.inList .warning).count u +
        (f.inList .suggestion).count u + (f.inList .exempted).count u := by
  simp only [allUsages, inList, List.count_append]

/-- The four lists together are the uses of the files: none is lost and none is doubled. -/
theorem allUsages_perm (files : List (String × List Usage)) (options : FindingsOptions) :
    (ofFiles files options).allUsages.Perm (files.flatMap Prod.snd) := by
  rw [List.perm_iff_count]
  intro u
  simp only [count_allUsages, inList_ofFiles, count_inCategory]
  -- exactly one of the four conditions holds
  cases u.category options.exceptions <;> simp

/-- There are as many usages in the findings as in the four lists together. -/
theorem length_allUsages (f : Findings) :
    f.allUsages.length =
      f.violations.length + f.warnings.length + f.suggestions.length + f.exempted.length := by
  simp only [allUsages, List.length_append]

/-! ## Sharing out -/

/-- The four lists share out the uses: each holds, in order, those that belong in it, and each use is
in exactly one of them. -/
structure SharesOut (f : Findings) (exceptions : List String) (usages : List Usage) : Prop where
  suggestions : f.suggestions = usages.filter fun u => u.severity = .info
  exempted : f.exempted = usages.filter fun u => u.severity ≠ .info ∧ u.IsExcepted exceptions
  violations : f.violations =
    usages.filter fun u => u.severity = .error ∧ ¬ u.IsExcepted exceptions
  warnings : f.warnings =
    usages.filter fun u => u.severity ≠ .info ∧ u.severity ≠ .error ∧ ¬ u.IsExcepted exceptions
  one_list : ∀ u ∈ usages, ∃! category, u ∈ f.inList category
  all : f.allUsages.Perm usages

/-- The usages of files are shared out among the four lists: each goes to the list of its category and to no other, in
the order in which they were found. -/
theorem sharesOut_ofFiles (files : List (String × List Usage)) (options : FindingsOptions) :
    (ofFiles files options).SharesOut options.exceptions (files.flatMap Prod.snd) where
  suggestions := List.filter_congr fun _ _ => decide_eq_decide.2 category_eq_suggestion_iff
  exempted := List.filter_congr fun _ _ => decide_eq_decide.2 category_eq_exempted_iff
  violations := List.filter_congr fun _ _ => decide_eq_decide.2 category_eq_violation_iff
  warnings := List.filter_congr fun _ _ => decide_eq_decide.2 category_eq_warning_iff
  one_list := by
    intro u hu
    -- the one list is that of the use's category
    refine ⟨u.category options.exceptions, ?_, fun category hcategory => ?_⟩
    · show u ∈ (ofFiles files options).inList (u.category options.exceptions)
      rw [inList_ofFiles]
      exact mem_inCategory_iff.2 ⟨hu, rfl⟩
    · simp only [inList_ofFiles] at hcategory
      exact (mem_inCategory_iff.1 hcategory).2.symm
  all := allUsages_perm files options

/-- A use that falls short of the target without an exception is not excepted. -/
theorem not_isExcepted_of_mem_failing (hu : u ∈ (ofFiles files options).failing) :
    ¬ u.IsExcepted options.exceptions := by
  rcases List.mem_append.1 hu with hviolation | hwarning
  · have hcategory : u.category options.exceptions = .violation :=
      (mem_inCategory_iff.1 hviolation).2
    exact (category_eq_violation_iff.1 hcategory).2
  · have hcategory : u.category options.exceptions = .warning := (mem_inCategory_iff.1 hwarning).2
    exact (category_eq_warning_iff.1 hcategory).2.2

/-- **Findings share out the uses of the files.** The totals count all of them and the files that have
any, and nothing that is excepted stands among what fails. -/
theorem uses_are_shared_out (files : List (String × List Usage)) (options : FindingsOptions) :
    (ofFiles files options).SharesOut options.exceptions (files.flatMap Prod.snd) ∧
      (ofFiles files options).totalFeatures = (files.flatMap Prod.snd).length ∧
      (ofFiles files options).totalFeatures =
        (ofFiles files options).violations.length + (ofFiles files options).warnings.length +
          (ofFiles files options).suggestions.length + (ofFiles files options).exempted.length ∧
      (ofFiles files options).totalFiles = files.countP (fun f => f.2 ≠ []) ∧
      ∀ u ∈ (ofFiles files options).violations ++ (ofFiles files options).warnings,
        u.token ∉ options.exceptions ∧ u.featureId ∉ options.exceptions := by
  refine ⟨sharesOut_ofFiles files options, rfl, ?_, ?_, fun u hu => ?_⟩
  · calc (ofFiles files options).totalFeatures = (files.flatMap Prod.snd).length := rfl
      _ = (ofFiles files options).allUsages.length := (allUsages_perm files options).length_eq.symm
      _ = _ := length_allUsages _
  · -- files are counted by the uses in them
    rw [List.countP_eq_length_filter]
    refine congrArg List.length (List.filter_congr fun f _ => ?_)
    cases f.2 <;> rfl
  · exact not_or.1 (not_isExcepted_of_mem_failing hu)

/-- A use of a feature of limited support. -/
def limitedUse (token : String) : Usage :=
  { token, featureId := token, file := "a.js", line := 1, column := 0, context := token
    tier := some .limited, browsers := [], severity := .error, suggestion := none
    polyfill := none, alternative := none }

/-- Of two uses that fall short one is excepted by its token, and the other fails; the file without uses counts for
nothing. -/
theorem uses_are_shared_out_of_two :
    limitedUse "share" ∈
        (ofFiles [("a.js", [limitedUse "share", limitedUse "fetch"]), ("b.js", [])]
            { exceptions := ["fetch"] }).violations ++
          (ofFiles [("a.js", [limitedUse "share", limitedUse "fetch"]), ("b.js", [])]
            { exceptions := ["fetch"] }).warnings ∧
      (limitedUse "share").token ∉ ["fetch"] ∧ (limitedUse "share").featureId ∉ ["fetch"] := by
  have hfails : limitedUse "share" ∈
      (ofFiles [("a.js", [limitedUse "share", limitedUse "fetch"]), ("b.js", [])]
          { exceptions := ["fetch"] }).violations ++
        (ofFiles [("a.js", [limitedUse "share", limitedUse "fetch"]), ("b.js", [])]
          { exceptions := ["fetch"] }).warnings := by
    decide
  obtain ⟨-, -, -, -, hexcepted⟩ := uses_are_shared_out
    [("a.js", [limitedUse "share", limitedUse "fetch"]), ("b.js", [])] { exceptions := ["fetch"] }
  exact ⟨hfails, hexcepted _ hfails⟩

end Findings

end FeatureAudit
