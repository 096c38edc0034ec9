import FeatureAudit.Proofs.Findings.Partition
import FeatureAudit.Proofs.Score.Compatibility
import FeatureAudit.Proofs.StableSort
import FeatureAudit.Report.Console

/-!
# The report for people and the order of files

Each section of the report puts the uses of its list in the order of their places, and leaves those of one
place as they were found. Uses of one place are in one file, so their order is that within the file. Whatever
else the report states is a count or a rule over all uses. So the order of the files makes no difference.

* **`PlaceLe`** — the order of places, and its laws.
* **`IsReportOrder`**, **`isReportOrder_inReportOrder`** — uses in the order of a report; sorting gives it.
* **`eq_of_sorted_of_filter`** — there is one such order.
* **`filter_place_of_perm`** — the uses of one place do not depend on the order of the files.
* **`consoleText_of_perm`** — so neither does the report.
* **`IsSection`**, **`IsReport`** — what a section and the report consist of.
* **`console_report_ignores_file_order`** — the report on files in any order.
-/
namespace FeatureAudit

open Report

/-! ## Places -/

/-- Where a use is: its file, line and column. -/
def Usage.place (u : Usage) : String × Int × Int := (u.file, u.line, u.column)

/-- The order of places: by file in code-point order, then by line, then by column. -/
def PlaceLe (p q : String × Int × Int) : Prop :=
  p.1 < q.1 ∨ p.1 = q.1 ∧ (p.2.1 < q.2.1 ∨ p.2.1 = q.2.1 ∧ p.2.2 ≤ q.2.2)

theorem placeLe_refl (p : String × Int × Int) : PlaceLe p p :=
  Or.inr ⟨rfl, Or.inr ⟨rfl, Int.le_refl _⟩⟩

/-- The order of places is transitive: by files, then by lines, then by columns. The cases are whether the files
decide. -/
theorem PlaceLe.trans {p q r : String × Int × Int} (hpq : PlaceLe p q) (hqr : PlaceLe q r) :
    PlaceLe p r := by
  rcases hpq with hpq | ⟨hfile, hpq⟩
  · rcases hqr with hqr | ⟨hfile, -⟩
    · exact Or.inl (String.lt_trans hpq hqr)
    · exact Or.inl (hfile ▸ hpq)
  · rcases hqr with hqr | ⟨hfile', hqr⟩
    · exact Or.inl (hfile ▸ hqr)
    · exact Or.inr ⟨hfile.trans hfile', by omega⟩

/-- Places that are each not after the other are equal, down to the column. -/
theorem PlaceLe.antisymm {p q : String × Int × Int} (hpq : PlaceLe p q) (hqp : PlaceLe q p) : p = q := by
  have hfile : p.1 = q.1 := by
    rcases hpq with hpq | ⟨hfile, -⟩
    · rcases hqp with hqp | ⟨hfile, -⟩
      · exact absurd hqp (String.lt_asymm hpq)
      · exact hfile.symm
    · exact hfile
  -- in one file it is the lines and columns that are compared
  have hbelow (p q : String × Int × Int) (hfile : p.1 = q.1) (h : PlaceLe p q) :
      p.2.1 < q.2.1 ∨ p.2.1 = q.2.1 ∧ p.2.2 ≤ q.2.2 :=
    h.elim (fun hlt => absurd (hfile ▸ hlt) (String.lt_irrefl _)) And.right
  have hpq' := hbelow p q hfile hpq
  have hqp' := hbelow q p hfile.symm hqp
  exact Prod.ext hfile (Prod.ext (by omega) (by omega))

theorem placeLe_total (p q : String × Int × Int) : PlaceLe p q ∨ PlaceLe q p := by
  by_cases hfile : p.1 = q.1
  · by_cases hline : p.2.1 < q.2.1 ∨ p.2.1 = q.2.1 ∧ p.2.2 ≤ q.2.2
    · exact Or.inl (Or.inr ⟨hfile, hline⟩)
    · exact Or.inr (Or.inr ⟨hfile.symm, by omega⟩)
  · by_cases hle : p.1 ≤ q.1
    · exact Or.inl (Or.inl (String.not_le.1 fun h => hfile (String.le_antisymm hle h)))
    · exact Or.inr (Or.inl (String.not_le.1 hle))

/-- The order of uses in a report is that of their places. -/
theorem usageLe_iff {a b : Usage} : usageLe a b = true ↔ PlaceLe a.place b.place := by
  have hle : a.file ≤ b.file ↔ a.file < b.file ∨ a.file = b.file := by
    constructor
    · intro h
      by_cases heq : a.file = b.file
      · exact Or.inr heq
      · exact Or.inl (String.not_le.1 fun h' => heq (String.le_antisymm h h'))
    · rintro (h | h)
      · exact String.not_lt.1 fun h' => String.lt_asymm h h'
      · exact h ▸ String.le_refl _
  unfold usageLe PlaceLe Usage.place
  -- files first, then lines, then columns: each is looked at only where the ones before it are equal
  by_cases hfile : a.file = b.file
  · have hirrefl : ¬ b.file < b.file := String.lt_irrefl _
    by_cases hline : a.line = b.line
    · simp only [hfile, hline, beq_self_eq_true, if_true, decide_eq_true_eq, hirrefl, Int.lt_irrefl,
        false_or, true_and]
    · simp only [hfile, beq_self_eq_true, if_true, beq_iff_eq, hline, if_false, decide_eq_true_eq, hirrefl,
        false_or, true_and, false_and, or_false]
      omega
  · simp [hfile, textLe, hle]

/-- The order by which usages are sorted is transitive, because that of their places is. -/
theorem usageLe_trans (a b c : Usage) (hab : usageLe a b = true) (hbc : usageLe b c = true) :
    usageLe a c = true :=
  usageLe_iff.2 ((usageLe_iff.1 hab).trans (usageLe_iff.1 hbc))

/-- Of two usages one is never after the other; those of one place are not after each other both ways. -/
theorem usageLe_total (a b : Usage) : (usageLe a b || usageLe b a) = true := by
  rw [Bool.or_eq_true, usageLe_iff, usageLe_iff]
  exact placeLe_total _ _

/-! ## The order of a report -/

/-- Uses in the order of a report: each of them once, ordered by their places, and those of one place as they
were. -/
structure IsReportOrder (usages ordered : List Usage) : Prop where
  perm : ordered.Perm usages
  sorted : ordered.Pairwise fun a b => PlaceLe a.place b.place
  stable : ∀ place, (ordered.filter fun u => u.place = place) = usages.filter fun u => u.place = place

/-- Sorting keeps uses as they are where they are in order among themselves. -/
theorem filter_inReportOrder {usages : List Usage} {p : Usage → Bool}
    (h : (usages.filter p).Pairwise fun a b => PlaceLe a.place b.place) :
    (inReportOrder usages).filter p = usages.filter p :=
  filter_mergeSort usageLe_trans usageLe_total (h.imp usageLe_iff.2)

/-- Sorting puts uses in the order of a report. -/
theorem isReportOrder_inReportOrder (usages : List Usage) : IsReportOrder usages (inReportOrder usages) where
  perm := List.mergeSort_perm usages usageLe
  sorted := (List.pairwise_mergeSort usageLe_trans usageLe_total usages).imp usageLe_iff.1
  stable place := by
    -- uses of one place are in order as they are
    refine filter_inReportOrder (List.pairwise_of_forall_mem_list fun a ha b hb => ?_)
    have hplace : a.place = b.place :=
      (of_decide_eq_true (List.mem_filter.1 ha).2).trans (of_decide_eq_true (List.mem_filter.1 hb).2).symm
    rw [hplace]
    exact placeLe_refl _

/-- There is one order of a report: uses that are ordered by their places, where those of each place are the
same, are the same. The induction is on the uses that are left. -/
theorem eq_of_sorted_of_filter {xs ys : List Usage} (hxs : xs.Pairwise fun a b => PlaceLe a.place b.place)
    (hys : ys.Pairwise fun a b => PlaceLe a.place b.place)
    (h : ∀ place, (xs.filter fun u => u.place = place) = ys.filter fun u => u.place = place) : xs = ys := by
  induction xs generalizing ys with
  | nil =>
    cases ys with
    | nil => rfl
    | cons y ys => exact absurd (h y.place) (by simp)
  | cons x xs ih =>
    cases ys with
    | nil => exact absurd (h x.place) (by simp)
    | cons y ys =>
      have hmem (u : Usage) : u ∈ x :: xs ↔ u ∈ y :: ys := by
        have hu : u ∈ ((x :: xs).filter fun v => v.place = u.place) ↔
            u ∈ (y :: ys).filter fun v => v.place = u.place := by rw [h]
        simpa using hu
      have hxy : PlaceLe x.place y.place := by
        rcases List.mem_cons.1 ((hmem y).2 List.mem_cons_self) with rfl | hy
        · exact placeLe_refl _
        · exact List.rel_of_pairwise_cons hxs hy
      have hyx : PlaceLe y.place x.place := by
        rcases List.mem_cons.1 ((hmem x).1 List.mem_cons_self) with rfl | hx
        · exact placeLe_refl _
        · exact List.rel_of_pairwise_cons hys hx
      -- the first uses are of one place, and so the first of that place
      have hplace : y.place = x.place := hyx.antisymm hxy
      have hfirst := h x.place
      rw [List.filter_cons_of_pos (by simp), List.filter_cons_of_pos (by simpa using hplace)] at hfirst
      obtain rfl := (List.cons.inj hfirst).1
      have hrest := ih hxs.of_cons hys.of_cons fun place => ?_
      · rw [hrest]
      · have htail := h place
        by_cases hx : x.place = place
        · rw [List.filter_cons_of_pos (by simpa using hx), List.filter_cons_of_pos (by simpa using hx)] at htail
          exact (List.cons.inj htail).2
        · rwa [List.filter_cons_of_neg (by simpa using hx), List.filter_cons_of_neg (by simpa using hx)] at htail

/-- Where the uses of each place are the same, sorting leaves no difference. -/
theorem inReportOrder_eq {usages usages' : List Usage}
    (h : ∀ place, (usages'.filter fun u => u.place = place) = usages.filter fun u => u.place = place) :
    inReportOrder usages' = inReportOrder usages := by
  have horder := isReportOrder_inReportOrder usages
  have horder' := isReportOrder_inReportOrder usages'
  refine eq_of_sorted_of_filter horder'.sorted horder.sorted fun place => ?_
  rw [horder'.stable, horder.stable, h]

/-! ## Files in another order -/

section Files

variable {files files' : List (String × List Usage)} {options : FindingsOptions} {name : String}

/-- A list with one element at most cannot be put into another order. -/
theorem eq_of_perm_of_length_le_one {α : Type} :
    ∀ {xs ys : List α}, xs.Perm ys → ys.length ≤ 1 → xs = ys
  | _, [], h, _ => List.perm_nil.1 h
  | _, [_], h, _ => List.perm_singleton.1 h

/-- Where names are not shared, at most one file has a name. -/
theorem length_filter_name_le (hnames : (files.map Prod.fst).Nodup) (name : String) :
    (files.filter fun f => f.1 = name).length ≤ 1 := by
  have hcount : (files.map Prod.fst).count name ≤ 1 := List.nodup_iff_count_le_one.1 hnames name
  rwa [List.count, List.countP_map, List.countP_eq_length_filter] at hcount

/-- Where names are all different, a file has its one entry in every order of the files. -/
theorem filter_name_of_perm (hperm : files'.Perm files) (hnames : (files.map Prod.fst).Nodup) :
    (files'.filter fun f => f.1 = name) = files.filter fun f => f.1 = name :=
  eq_of_perm_of_length_le_one (hperm.filter _) (length_filter_name_le hnames name)

/-- The uses of one place are in the file of that name. -/
theorem filter_place_flatMap (hown : ∀ f ∈ files, ∀ u ∈ f.2, u.file = f.1) (place : String × Int × Int) :
    ((files.flatMap Prod.snd).filter fun u => u.place = place) =
      ((files.filter fun f => f.1 = place.1).flatMap Prod.snd).filter fun u => u.place = place := by
  rw [← filter_file_flatMap hown, List.filter_filter]
  refine List.filter_congr fun u _ => ?_
  by_cases hplace : u.place = place
  · have hfile : u.file = place.1 := by rw [← hplace, Usage.place]
    simp [hplace, hfile]
  · simp [hplace]

/-- The uses of one place do not depend on the order of the files. -/
theorem filter_place_of_perm (hperm : files'.Perm files) (hnames : (files.map Prod.fst).Nodup)
    (hown : ∀ f ∈ files, ∀ u ∈ f.2, u.file = f.1) (place : String × Int × Int) :
    ((files'.flatMap Prod.snd).filter fun u => u.place = place) =
      (files.flatMap Prod.snd).filter fun u => u.place = place := by
  have hown' : ∀ f ∈ files', ∀ u ∈ f.2, u.file = f.1 := fun f hf => hown f (hperm.mem_iff.1 hf)
  rw [filter_place_flatMap hown, filter_place_flatMap hown', filter_name_of_perm hperm hnames]

/-- Nor do those of one place in one list. -/
theorem filter_place_inCategory (hperm : files'.Perm files) (hnames : (files.map Prod.fst).Nodup)
    (hown : ∀ f ∈ files, ∀ u ∈ f.2, u.file = f.1) (exceptions : List String) (category : Category)
    (place : String × Int × Int) :
    ((inCategory exceptions category (files'.flatMap Prod.snd)).filter fun u => u.place = place) =
      (inCategory exceptions category (files.flatMap Prod.snd)).filter fun u => u.place = place := by
  unfold inCategory
  rw [List.filter_comm, filter_place_of_perm hperm hnames hown, List.filter_comm]

/-! ### Counts and rules -/

/-- Opportunities do not depend on the order of usages, since a rule fires if some usage fulfils it. -/
theorem opportunities_perm {usages usages' : List Usage} (h : usages'.Perm usages) :
    opportunities usages' = opportunities usages := by
  have hany (holds : Usage → Bool) : usages'.any holds = usages.any holds := h.any_eq
  unfold opportunities
  simp only [hany]

/-! ### The report -/

namespace Findings

/-- Each list is the same in the order of a report. -/
theorem inReportOrder_inList_of_perm (hperm : files'.Perm files) (hnames : (files.map Prod.fst).Nodup)
    (hown : ∀ f ∈ files, ∀ u ∈ f.2, u.file = f.1) (category : Category) :
    inReportOrder ((ofFiles files' options).inList category) =
      inReportOrder ((ofFiles files options).inList category) := by
  rw [inList_ofFiles, inList_ofFiles]
  exact inReportOrder_eq (filter_place_inCategory hperm hnames hown options.exceptions category)

/-- The lines around the sections state counts and the score. -/
theorem headLines_congr {f f' : Findings} (hscanned : f'.filesScanned = f.filesScanned)
    (hfiles : f'.totalFiles = f.totalFiles) (hfeatures : f'.totalFeatures = f.totalFeatures)
    (hscore : f'.score = f.score) : headLines f' = headLines f := by
  unfold headLines
  rw [hscanned, hfiles, hfeatures, hscore]

/-- The last lines of a report go by how many usages there are in each list. -/
theorem tailLines_congr {f f' : Findings} (h : ∀ category, (f'.inList category).length =
    (f.inList category).length) : tailLines f' = tailLines f := by
  have herrors : f'.violations.length = f.violations.length := h .violation
  have hwarnings : f'.warnings.length = f.warnings.length := h .warning
  have hhints : f'.suggestions.length = f.suggestions.length := h .suggestion
  unfold tailLines
  rw [herrors, hwarnings, hhints]

/-- The first lines of a report do not depend on the order of files: they tell of numbers and of the score. -/
theorem headLines_of_perm (hperm : files'.Perm files) :
    headLines (ofFiles files' options) = headLines (ofFiles files options) := by
  have husages : (files'.flatMap Prod.snd).Perm (files.flatMap Prod.snd) := hperm.flatMap_right _
  apply headLines_congr
  · show options.filesScanned?.getD files'.length = options.filesScanned?.getD files.length
    rw [hperm.length_eq]
  · exact (hperm.filter _).length_eq
  · exact husages.length_eq
  · rw [score_ofFiles, score_ofFiles, compatibility_perm husages]

/-- The last lines of a report do not depend on the order of files either. -/
theorem tailLines_of_perm (hperm : files'.Perm files) :
    tailLines (ofFiles files' options) = tailLines (ofFiles files options) := by
  have husages : (files'.flatMap Prod.snd).Perm (files.flatMap Prod.snd) := hperm.flatMap_right _
  refine tailLines_congr fun category => ?_
  rw [inList_ofFiles, inList_ofFiles]
  exact (husages.filter _).length_eq

/-- The opportunities in findings do not depend on the order of files. -/
theorem opportunities_of_perm (hperm : files'.Perm files) :
    (ofFiles files' options).opportunities = (ofFiles files options).opportunities :=
  opportunities_perm (hperm.flatMap_right _)

theorem enhancements_of_not_wanted (h : options.wantsEnhancements = false) :
    (ofFiles files options).enhancements = [] := by
  rw [ofFiles, h]
  rfl

end Findings

/-- The report is the same for the files in another order. -/
theorem consoleText_of_perm (hperm : files'.Perm files) (hnames : (files.map Prod.fst).Nodup)
    (hown : ∀ f ∈ files, ∀ u ∈ f.2, u.file = f.1) (hfixes : options.wantsEnhancements = false)
    (browsers : List String) :
    consoleText browsers (.ofFiles files' options) = consoleText browsers (.ofFiles files options) := by
  have hlist := @Findings.inReportOrder_inList_of_perm files files' options hperm hnames hown
  have herrors : inReportOrder (Findings.ofFiles files' options).violations =
      inReportOrder (Findings.ofFiles files options).violations := hlist .violation
  have hwarnings : inReportOrder (Findings.ofFiles files' options).warnings =
      inReportOrder (Findings.ofFiles files options).warnings := hlist .warning
  have hhints : inReportOrder (Findings.ofFiles files' options).suggestions =
      inReportOrder (Findings.ofFiles files options).suggestions := hlist .suggestion
  have hexempted : inReportOrder (Findings.ofFiles files' options).exempted =
      inReportOrder (Findings.ofFiles files options).exempted := hlist .exempted
  -- the text is made of these sections and of numbers, and nothing else in it depends on the order
  unfold consoleText usageSection
  rw [Findings.headLines_of_perm hperm, herrors, hwarnings, hhints, hexempted,
    Findings.opportunities_of_perm hperm, Findings.tailLines_of_perm hperm,
    Findings.enhancements_of_not_wanted hfixes, Findings.enhancements_of_not_wanted hfixes]

end Files

/-! ## Sections -/

/-- The lines of a section: none without uses, else its title with their number, a rule, and the entries of
the uses in the order of a report. -/
inductive IsSection (title : String) (browsers : List String) (usages : List Usage) : List String → Prop where
  | nothing (h : usages = []) : IsSection title browsers usages []
  | entries {ordered : List Usage} (hne : usages ≠ []) (h : IsReportOrder usages ordered) :
      IsSection title browsers usages
        (s!"{title} ({usages.length}):" :: rule '-' :: ordered.flatMap (usageLines browsers))

/-- A section is written as it should be: its title with the number of entries, and the entries in the order of a
report, or nothing at all if there are none. -/
theorem isSection_usageSection (title : String) (browsers : List String) (usages : List Usage) :
    IsSection title browsers usages (usageSection title browsers usages) := by
  have horder := isReportOrder_inReportOrder usages
  have hlength : (inReportOrder usages).length = usages.length := horder.perm.length_eq
  unfold usageSection sectionLines
  -- a section is there for usages only, and sorting them leaves none out
  by_cases hnone : usages = []
  · rw [if_pos (by rw [horder.perm.isEmpty_eq, hnone]; rfl)]
    exact .nothing hnone
  · have hsome : ¬ (inReportOrder usages).isEmpty = true := by
      rw [horder.perm.isEmpty_eq]
      simpa using hnone
    rw [if_neg hsome, hlength]
    exact .entries hnone horder

/-- The report for people on findings without enhancements: its head, four sections of uses, the opportunities
and its tail. -/
inductive IsReport (browsers : List String) (f : Findings) : String → Prop where
  | sections {errors warnings hints exempted : List String}
      (herrors : IsSection "ERRORS" browsers f.violations errors)
      (hwarnings : IsSection "WARNINGS" browsers f.warnings warnings)
      (hhints : IsSection "INFO" browsers f.suggestions hints)
      (hexempted : IsSection "EXEMPTED" browsers f.exempted exempted) :
      IsReport browsers f ("\n".intercalate
        (headLines f ++ errors ++ warnings ++ hints ++ exempted ++
          sectionLines "MODERNIZATION OPPORTUNITIES" f.opportunities opportunityLines ++ tailLines f))

/-- Without enhancements a report is its four sections of usages with what comes before and after them. -/
theorem isReport_consoleText (browsers : List String) {f : Findings} (h : f.enhancements = []) :
    IsReport browsers f (consoleText browsers f) := by
  have hnone : sectionLines "PROGRESSIVE ENHANCEMENTS" f.enhancements enhancementLines = [] := by
    rw [h]
    rfl
  rw [consoleText, hnone, List.append_nil]
  exact .sections (isSection_usageSection _ _ _) (isSection_usageSection _ _ _)
    (isSection_usageSection _ _ _) (isSection_usageSection _ _ _)

/-- **The report for people does not depend on the order of the files.** Where each file is given once and the
uses of a file name it, the report on files is the same in every order of theirs. Each of its four sections
has the entries of the uses of its list, each once, in the order of their places, and those of one place as
they were found. -/
theorem console_report_ignores_file_order (browsers : List String) {options : FindingsOptions}
    {files files' : List (String × List Usage)} (hperm : files'.Perm files)
    (hnames : (files.map Prod.fst).Nodup) (hown : ∀ f ∈ files, ∀ u ∈ f.2, u.file = f.1)
    (hfixes : options.wantsEnhancements = false) :
    consoleText browsers (.ofFiles files' options) = consoleText browsers (.ofFiles files options) ∧
      IsReport browsers (.ofFiles files options) (consoleText browsers (.ofFiles files options)) :=
  ⟨consoleText_of_perm hperm hnames hown hfixes browsers,
    isReport_consoleText browsers (Findings.enhancements_of_not_wanted hfixes)⟩

/-- A use of some feature at a place. -/
def useAt (token file : String) (line : Int) : Usage :=
  { token, featureId := token, file, line, column := 0, context := token
    tier := some .limited, browsers := [], severity := .error, suggestion := none
    polyfill := none, alternative := none }

/-- Two files, of which the first has two uses in one place and one above them. -/
def tiedFiles : List (String × List Usage) :=
  [("b.css", [useAt "grid" "b.css" 2, useAt "flexbox" "b.css" 2, useAt "has" "b.css" 1]),
   ("a.css", [useAt "grid" "a.css" 3])]

/-- Both orders of `tiedFiles` give one report, although the lists of violations differ: two uses at one place keep the
order in which the run found them, so only the place of the files in the list is made up for. -/
theorem console_report_ignores_file_order_tied :
    tiedFiles.reverse.Perm tiedFiles ∧ (tiedFiles.map Prod.fst).Nodup ∧
      consoleText ["chrome"] (.ofFiles tiedFiles.reverse {}) =
        consoleText ["chrome"] (.ofFiles tiedFiles {}) ∧
      (Findings.ofFiles tiedFiles.reverse {}).violations ≠
        (Findings.ofFiles tiedFiles {}).violations := by
  have hperm : tiedFiles.reverse.Perm tiedFiles := List.reverse_perm tiedFiles
  have hnames : (tiedFiles.map Prod.fst).Nodup := by decide
  have hown : ∀ f ∈ tiedFiles, ∀ u ∈ f.2, u.file = f.1 := by decide
  exact ⟨hperm, hnames,
    (console_report_ignores_file_order ["chrome"] hperm hnames hown rfl).1, by decide⟩

end FeatureAudit
