import Mathlib.Algebra.BigOperators.Group.Finset.Basic
import Mathlib.Algebra.GroupWithZero.Nat
import FeatureAudit.Proofs.FirstWins
import FeatureAudit.Proofs.Independence
import FeatureAudit.Proofs.Report.FileTypes
import FeatureAudit.Proofs.StableSort

/-!
# Statistics account for every use

The statistics count the uses of findings by the type of their file, by tier and by token. A count of some labels holds
each of them once, with its number, and so the numbers add up to all uses. The tokens are listed by their numbers, those
of one number in the order in which they are met, and the first ten of them are shown.

* **`mem_tally_iff`**, **`sum_tally`** — what is counted, and that nothing is left out.
* **`ranked_pairwise`** — the order of what is counted.
* **`ListsMostFrequent`**, **`listsMostFrequent_mostFrequent`** — a list of the most frequent values.
* **`CountsUses`**, **`AccountsFor`** — a count of uses, and statistics that account for uses.
* **`statistics_account_for_uses`** — the statistics of findings, and of an audit of texts.
-/
namespace FeatureAudit.Report

/-! ## Counting -/

section Counting

variable {α : Type} [DecidableEq α] {xs : List α} {e : α × Nat}

/-- A tally has one row for each thing that it counts, in the order in which they first occur. -/
theorem map_fst_tally (xs : List α) : (tally xs).map Prod.fst = distinct xs := by
  rw [tally, List.map_map]
  exact List.map_id _

/-- A row of a tally says how often something occurs that does occur. -/
theorem mem_tally_iff : e ∈ tally xs ↔ e.1 ∈ xs ∧ e.2 = xs.count e.1 := by
  rw [tally, List.mem_map]
  constructor
  · rintro ⟨x, hx, rfl⟩
    exact ⟨mem_distinct_iff.1 hx, rfl⟩
  · rintro ⟨hx, hcount⟩
    exact ⟨e.1, mem_distinct_iff.2 hx, Prod.ext rfl hcount.symm⟩

/-- To keep what comes first is to drop repetitions, up to the order of what is kept. -/
theorem distinct_perm_dedup (xs : List α) : (distinct xs).Perm xs.dedup := by
  apply (List.perm_ext_iff_of_nodup (nodup_distinct xs) xs.nodup_dedup).2
  intro a
  rw [mem_distinct_iff, List.mem_dedup]

/-- The numbers of all values add up to the number of all elements. -/
theorem sum_tally (xs : List α) : ((tally xs).map Prod.snd).sum = xs.length := by
  calc ((tally xs).map Prod.snd).sum = ((distinct xs).map fun x => xs.count x).sum := by
        rw [tally, List.map_map]
        rfl
    _ = (xs.dedup.map fun x => xs.count x).sum := ((distinct_perm_dedup xs).map _).sum_eq
    _ = xs.length := List.sum_map_count_dedup_eq_length xs

/-- The distinct values come in the order in which they are first met. -/
theorem distinct_pairwise_idxOf (xs : List α) :
    (distinct xs).Pairwise fun a b => xs.idxOf a < xs.idxOf b := by
  induction xs with
  | nil => exact List.Pairwise.nil
  | cons x rest ih =>
    -- what is kept of the rest is not `x`, so it stands one place further on
    have hlater {a : α} (h : a ∈ (distinct rest).filter fun b => !(b == x)) :
        (x :: rest).idxOf a = rest.idxOf a + 1 := by
      have hne : a ≠ x := by simpa using (List.mem_filter.1 h).2
      exact List.idxOf_cons_ne rest hne.symm
    rw [distinct_cons]
    apply List.Pairwise.cons
    · intro a ha
      rw [List.idxOf_cons_self, hlater ha]
      omega
    · apply (ih.filter _).imp_of_mem
      intro a b ha hb hlt
      rw [hlater ha, hlater hb]
      omega

/-- The rows of a tally are in the order in which the things in them first occur. -/
theorem tally_pairwise_idxOf (xs : List α) :
    (tally xs).Pairwise fun a b => xs.idxOf a.1 < xs.idxOf b.1 :=
  List.pairwise_map.2 (distinct_pairwise_idxOf xs)

/-! ## The most frequent values -/

/-- The order by numbers, the greatest first; where numbers are equal, what was met first comes first, since the sort
is stable. -/
theorem ranked_pairwise (xs : List α) :
    ((tally xs).mergeSort fun a b => decide (b.2 ≤ a.2)).Pairwise fun a b =>
      b.2 ≤ a.2 ∧ (a.2 = b.2 → xs.idxOf a.1 < xs.idxOf b.1) := by
  have htrans : ∀ a b c : α × Nat, decide (b.2 ≤ a.2) = true → decide (c.2 ≤ b.2) = true →
      decide (c.2 ≤ a.2) = true := by
    simp only [decide_eq_true_eq]
    omega
  have htotal : ∀ a b : α × Nat, (decide (b.2 ≤ a.2) || decide (a.2 ≤ b.2)) = true := by
    simp only [Bool.or_eq_true, decide_eq_true_eq]
    omega
  -- the sort is stable, so entries of one number stay in the order in which they were first met
  apply (pairwise_mergeSort_ties htrans htotal (tally_pairwise_idxOf xs)).imp
  rintro a b ⟨hle, hties⟩
  exact ⟨of_decide_eq_true hle, fun heq => hties (decide_eq_true (Nat.le_of_eq heq))⟩

/-- A list of the ten most frequent values, or of all where there are fewer: the greatest numbers come first, and of
values that are as frequent the one that is met first. -/
structure ListsMostFrequent (xs : List α) (listed : List (α × Nat)) : Prop where
  length : listed.length = min 10 xs.toFinset.card
  nodup : (listed.map Prod.fst).Nodup
  counts : ∀ e ∈ listed, e.1 ∈ xs ∧ e.2 = xs.count e.1
  descending : listed.Pairwise fun a b => b.2 ≤ a.2
  ties : listed.Pairwise fun a b => a.2 = b.2 → xs.idxOf a.1 < xs.idxOf b.1
  rest : ∀ x, x ∉ listed.map Prod.fst → ∀ e ∈ listed,
    xs.count x ≤ e.2 ∧ (x ∈ xs → xs.count x = e.2 → xs.idxOf e.1 < xs.idxOf x)

/-- What is left out ranks below all that is listed. -/
theorem rest_of_not_mem_mostFrequent {x : α} (hout : x ∉ (mostFrequent xs).map Prod.fst)
    (he : e ∈ mostFrequent xs) :
    xs.count x ≤ e.2 ∧ (x ∈ xs → xs.count x = e.2 → xs.idxOf e.1 < xs.idxOf x) := by
  by_cases hx : x ∈ xs
  · -- the ranking is the list and then what is left out of it, and what ranks is in one of the two
    have hranked := ranked_pairwise xs
    rw [← List.take_append_drop topLimit ((tally xs).mergeSort _), List.pairwise_append] at hranked
    have hmem : (x, xs.count x) ∈ (tally xs).mergeSort fun a b => decide (b.2 ≤ a.2) :=
      List.mem_mergeSort.2 (mem_tally_iff.2 ⟨hx, rfl⟩)
    rw [← List.take_append_drop topLimit ((tally xs).mergeSort _), List.mem_append] at hmem
    rcases hmem with hlisted | hdropped
    · exact absurd (List.mem_map.2 ⟨_, hlisted, rfl⟩) hout
    · obtain ⟨hle, htie⟩ := hranked.2.2 e he _ hdropped
      exact ⟨hle, fun _ heq => htie heq.symm⟩
  · rw [List.count_eq_zero_of_not_mem hx]
    exact ⟨Nat.zero_le _, fun h => absurd h hx⟩

/-- The most frequent things are listed as they should be: as many as there is place for, each once and with its
count, by count and then by first occurrence, and none left out that occurs more often. -/
theorem listsMostFrequent_mostFrequent (xs : List α) : ListsMostFrequent xs (mostFrequent xs) where
  length := by
    rw [mostFrequent, List.length_take, List.length_mergeSort, List.card_toFinset,
      ← (distinct_perm_dedup xs).length_eq, ← map_fst_tally, List.length_map]
    rfl
  nodup := by
    have hsorted : (((tally xs).mergeSort fun a b => decide (b.2 ≤ a.2)).map Prod.fst).Nodup := by
      rw [((List.mergeSort_perm _ _).map Prod.fst).nodup_iff, map_fst_tally]
      exact nodup_distinct xs
    exact hsorted.sublist ((List.take_sublist _ _).map Prod.fst)
  counts e he := mem_tally_iff.1 (List.mem_mergeSort.1 (List.mem_of_mem_take he))
  descending := (ranked_pairwise xs).take.imp And.left
  ties := (ranked_pairwise xs).take.imp And.right
  rest _ hout _ he := rest_of_not_mem_mostFrequent hout he

end Counting

/-! ## Counts of uses -/

/-- Labels with numbers: each label that some use bears stands once, with the number of the uses that bear it, and the
numbers add up to all uses. -/
structure CountsUses (usages : List Usage) (bears : Usage → String → Prop)
    [∀ u label, Decidable (bears u label)] (counted : List (String × Nat)) : Prop where
  nodup : (counted.map Prod.fst).Nodup
  mem_iff : ∀ label n, (label, n) ∈ counted ↔ 0 < n ∧ n = usages.countP fun u => bears u label
  total : (counted.map Prod.snd).sum = usages.length

/-- A tally counts the uses by a label that each of them bears, in whatever order they are taken. -/
theorem countsUses_tally {us usages : List Usage} {bears : Usage → String → Prop}
    [∀ u label, Decidable (bears u label)] {label : Usage → String} (hperm : us.Perm usages)
    (hbears : ∀ u l, label u = l ↔ bears u l) : CountsUses usages bears (tally (us.map label)) where
  nodup := by
    rw [map_fst_tally]
    exact nodup_distinct _
  mem_iff l n := by
    have hcount : (us.map label).count l = usages.countP fun u => bears u l := by
      rw [List.count, List.countP_map, hperm.countP_eq]
      refine List.countP_congr fun u _ => ?_
      simpa using hbears u l
    rw [mem_tally_iff, ← List.count_pos_iff, hcount]
    constructor
    · rintro ⟨hpos, rfl⟩
      exact ⟨hpos, rfl⟩
    · rintro ⟨hpos, rfl⟩
      exact ⟨hpos, rfl⟩
  total := by rw [sum_tally, List.length_map, hperm.length_eq]

/-- Tiers go by names of their own, and so do uses of unknown tier. -/
theorem nameOrUnknown_eq_iff {tier tier' : Option Tier} :
    Tier.nameOrUnknown tier = Tier.nameOrUnknown tier' ↔ tier = tier' := by
  constructor
  · intro h
    revert h
    cases tier with
    | none =>
      cases tier' with
      | none => decide
      | some t' => cases t' <;> decide
    | some t =>
      cases tier' with
      | none => cases t <;> decide
      | some t' => cases t <;> cases t' <;> decide
  · exact congrArg Tier.nameOrUnknown

/-- The statistics account for the uses that findings are made of. -/
structure AccountsFor (s : Statistics) (f : Findings) (usages : List Usage) : Prop where
  fileTypes : CountsUses usages (fun u type => IsFileType u.file type) s.fileTypes
  fileTypes_total : (s.fileTypes.map Prod.snd).sum = f.totalFeatures
  tiers : CountsUses usages (fun u name => Tier.nameOrUnknown u.tier = name) s.tiers
  tiers_mem_iff : ∀ tier n, (Tier.nameOrUnknown tier, n) ∈ s.tiers ↔
    0 < n ∧ n = usages.countP fun u => u.tier = tier
  tiers_total : (s.tiers.map Prod.snd).sum = f.totalFeatures
  topFeatures : ListsMostFrequent
    ((f.violations ++ f.warnings ++ f.suggestions ++ f.exempted).map Usage.token) s.topFeatures
  topFeatures_counts : ∀ e ∈ s.topFeatures, e.2 = usages.countP fun u => u.token = e.1

/-- The statistics of findings account for the uses in the files. What is counted are the uses in the four lists,
which are those in the files up to their order. -/
theorem accountsFor_statistics (files : List (String × List Usage)) (options : FindingsOptions) :
    AccountsFor (statistics (Findings.ofFiles files options)) (Findings.ofFiles files options)
      (files.flatMap Prod.snd) := by
  have hperm := Findings.allUsages_perm files options
  have htotal : (files.flatMap Prod.snd).length = (Findings.ofFiles files options).totalFeatures := rfl
  have htypes : CountsUses (files.flatMap Prod.snd) (fun u type => IsFileType u.file type)
      (statistics (Findings.ofFiles files options)).fileTypes :=
    countsUses_tally hperm fun _ _ => fileType_eq_iff
  have htiers : CountsUses (files.flatMap Prod.snd) (fun u name => Tier.nameOrUnknown u.tier = name)
      (statistics (Findings.ofFiles files options)).tiers :=
    countsUses_tally hperm fun _ _ => Iff.rfl
  have htop : ListsMostFrequent ((Findings.ofFiles files options).allUsages.map Usage.token)
      (statistics (Findings.ofFiles files options)).topFeatures :=
    listsMostFrequent_mostFrequent _
  constructor
  · exact htypes
  · exact htypes.total.trans htotal
  · exact htiers
  · intro tier n
    simp only [htiers.mem_iff, nameOrUnknown_eq_iff]
  · exact htiers.total.trans htotal
  · exact htop
  · intro e he
    rw [(htop.counts e he).2, List.count, List.countP_map, hperm.countP_eq]
    exact List.countP_congr fun u _ => by simp

/-! ## Audits of texts -/

/-- The files that are found to use something are sources, so their types are those of sources. -/
theorem fileTypes_ofSources {a : Audit} {sources : List (String × String)} {e : String × Nat}
    (he : e ∈ (statistics (a.ofSources sources).1).fileTypes) : e.1 ∈ sourceTypes := by
  have htally : e ∈ tally ((a.ofSources sources).1.allUsages.map fun u => fileType u.file) := he
  obtain ⟨u, hu, htype⟩ := List.mem_map.1 (mem_tally_iff.1 htally).1
  obtain ⟨s, -, hfound⟩ := Audit.mem_ofSources_iff.1 hu
  rw [← htype, Audit.file_of_mem_extraction hfound, ← isSome_fileKind?_iff]
  cases hkind : fileKind? s.1 with
  | some kind => rfl
  | none =>
    -- in a source of unknown kind nothing is found
    rw [Audit.usages_of_fails (.unsupported hkind)] at hfound
    exact absurd hfound List.not_mem_nil

/-- **Statistics account for every use.** The numbers by type of file and by tier add up to all uses, and each is the
true number of the uses of that type or tier. The tokens that are listed are the ten most frequent ones, or all where
there are fewer, with their true numbers, the greatest first and ties in the order in which the four lists of the
findings meet them. The types of the files of an audit of texts are those of sources. -/
theorem statistics_account_for_uses :
    (∀ (files : List (String × List Usage)) (options : FindingsOptions),
      AccountsFor (statistics (Findings.ofFiles files options)) (Findings.ofFiles files options)
        (files.flatMap Prod.snd)) ∧
      ∀ (a : Audit) (sources : List (String × String)),
        ∀ e ∈ (statistics (a.ofSources sources).1).fileTypes,
          e.1 ∈ ["css", "scss", "sass", "less", "js", "jsx", "ts", "tsx"] := by
  refine ⟨accountsFor_statistics, ?_⟩
  intro a sources e he
  exact fileTypes_ofSources he

/-- Two files of which the second alone has an extension. -/
def typedFiles : List (String × List Usage) :=
  [("run", [{ Findings.limitedUse "share" with file := "run" }]),
   ("lib.min.JS", [{ Findings.limitedUse "fetch" with file := "lib.min.JS" },
      { Findings.limitedUse "fetch" with file := "lib.min.JS", tier := none }])]

/-- The extension is what follows the last dot, in lowercase, and a use of unknown tier is counted as such. The script
of an audit is counted as one. -/
theorem statistics_account_for_uses_of_script :
    (IsFileType "lib.min.JS" "js" ∧ IsFileType "run" "unknown") ∧
      (AccountsFor (statistics (Findings.ofFiles typedFiles {})) (Findings.ofFiles typedFiles {})
          (typedFiles.flatMap Prod.snd) ∧
        (statistics (Findings.ofFiles typedFiles {})).fileTypes = [("unknown", 1), ("js", 2)] ∧
        (statistics (Findings.ofFiles typedFiles {})).tiers = [("limited", 2), ("unknown", 1)] ∧
        (statistics (Findings.ofFiles typedFiles {})).topFeatures = [("fetch", 2), ("share", 1)]) ∧
      ("js", 1) ∈ (statistics (fetchAudit.ofSources [("a.js", "fetch(x)")]).1).fileTypes ∧
      "js" ∈ ["css", "scss", "sass", "less", "js", "jsx", "ts", "tsx"] := by
  obtain ⟨hfiles, hsources⟩ := statistics_account_for_uses
  have hscript : ("js", 1) ∈ (statistics (fetchAudit.ofSources [("a.js", "fetch(x)")]).1).fileTypes := by
    decide +kernel
  have htop : (statistics (Findings.ofFiles typedFiles {})).topFeatures = [("fetch", 2), ("share", 1)] := by
    have htally : tally ((Findings.ofFiles typedFiles {}).allUsages.map Usage.token) =
        [("share", 1), ("fetch", 2)] := by
      decide +kernel
    -- the sort is not run by the kernel, so the two counts are sorted by rewriting
    show mostFrequent ((Findings.ofFiles typedFiles {}).allUsages.map Usage.token) = _
    rw [mostFrequent, htally]
    simp [List.mergeSort, topLimit]
  refine ⟨⟨by decide +kernel, by decide +kernel⟩, ⟨hfiles typedFiles {}, by decide +kernel, by decide +kernel,
    htop⟩, hscript, hsources fetchAudit _ _ hscript⟩

end FeatureAudit.Report
