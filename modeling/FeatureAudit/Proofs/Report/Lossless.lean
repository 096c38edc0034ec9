import FeatureAudit.Proofs.CommandLine.Verdict
import FeatureAudit.Proofs.Json.Unambiguous
import FeatureAudit.Proofs.Json.Writing

/-!
# The report for machines

Nothing is lost between findings and the report on them that machines read: the text of the report is ASCII, whatever
stands in the findings, and it writes one JSON value, which holds the lists of the findings, their sizes and the
statistics.

* **`Report.isWhole_machineValue`** — there are no numbers in a report but integers.
* **`Report.isPlain_machineValue`** — when the reader reads a report back.
* **`Report.Records`**, **`Report.machineText_is_lossless`** — what a report holds, and that its text holds just that.
-/
namespace FeatureAudit

open FeatureAudit.Json FeatureAudit.Text

/-! ## Whole numbers -/

section Whole

/-- A text that may be missing is whole either way, since nothing in it is a fraction. -/
theorem isWhole_ofText? (text : Option String) : (Value.ofText? text).IsWhole := by
  cases text <;> trivial

theorem isWhole_tierValue (tier : Option Tier) : (tierValue tier).IsWhole := isWhole_ofText? _

theorem isWhole_textFields (fields : List (String × String)) : (textFields fields).IsWhole := by
  simp [textFields, Value.IsWhole]

theorem isWhole_countFields (fields : List (String × Nat)) : (countFields fields).IsWhole := by
  simp [countFields, Value.IsWhole]

/-- The value of a usage is whole: it is made of texts and whole numbers, down to its browsers. -/
theorem Usage.isWhole_toValue (u : Usage) : u.toValue.IsWhole := by
  simp [Usage.toValue, Value.IsWhole, Value.fieldsAreWhole, isWhole_tierValue, isWhole_textFields,
    isWhole_ofText?]

theorem Opportunity.isWhole_toValue (o : Opportunity) : o.toValue.IsWhole := by
  simp [Opportunity.toValue, Value.IsWhole, Value.fieldsAreWhole, isWhole_ofText?]

theorem Enhancement.isWhole_toValue (e : Enhancement) : e.toValue.IsWhole := by
  simp [Enhancement.toValue, Value.IsWhole, Value.fieldsAreWhole]

/-- Statistics are whole: everything in them is counted, and the risk is rounded. -/
theorem Report.Statistics.isWhole_toValue (s : Report.Statistics) : s.toValue.IsWhole := by
  simp [Report.Statistics.toValue, Value.IsWhole, Value.fieldsAreWhole, isWhole_countFields]

/-- A report for machines has no fractions in it, neither in its totals nor in its lists. So it can be written
whatever it says, and is ASCII. -/
theorem Report.isWhole_machineValue (timestamp : String) (f : Findings) :
    (Report.machineValue timestamp f).IsWhole := by
  simp [Report.machineValue, Findings.totalFields, Findings.countsFields, Findings.listFields, Value.IsWhole,
    Value.fieldsAreWhole, Usage.isWhole_toValue, Opportunity.isWhole_toValue, Enhancement.isWhole_toValue,
    Report.Statistics.isWhole_toValue]

end Whole

/-! ## Reports that are read back -/

section Plain

/-- An integer of no more digits than the reader takes. -/
def IsShort (n : Int) : Prop := (Nat.toDigits 10 n.natAbs).length ≤ integerDigitLimit

instance (n : Int) : Decidable (IsShort n) := inferInstanceAs (Decidable (_ ≤ _))

/-- A number that is not above a short one is short itself: the digits of a number grow with it. -/
theorem IsShort.of_le {m n : Nat} (h : IsShort n) (hle : m ≤ n) : IsShort m := by
  have hlimit (k : Nat) : IsShort k ↔ k < 10 ^ integerDigitLimit :=
    Nat.length_toDigits_le_iff (by decide) (by decide)
  exact (hlimit m).2 (Nat.lt_of_le_of_lt hle ((hlimit n).1 h))

theorem isPlain_ofText? (text : Option String) : (Value.ofText? text).IsPlain := by
  cases text <;> trivial

theorem isPlain_tierValue (tier : Option Tier) : (tierValue tier).IsPlain := isPlain_ofText? _

/-- Texts under names are plain if no name occurs twice, which is what a reader would not bring back. -/
theorem isPlain_textFields {fields : List (String × String)} (h : (fields.map Prod.fst).Nodup) :
    (textFields fields).IsPlain := by
  refine ⟨?_, Value.fieldsArePlain_iff.2 (List.forall_mem_map.2 fun _ _ => trivial)⟩
  rw [List.map_map]
  exact h

/-- Counts under names are plain if no name occurs twice and all counts are short enough to be read. -/
theorem isPlain_countFields {fields : List (String × Nat)} (h : (fields.map Prod.fst).Nodup)
    (hcounts : ∀ c ∈ fields, IsShort c.2) : (countFields fields).IsPlain := by
  have hvalues : ∀ c ∈ fields, (Value.int c.2).IsPlain := hcounts
  refine ⟨?_, Value.fieldsArePlain_iff.2 (List.forall_mem_map.2 hvalues)⟩
  rw [List.map_map]
  exact h

/-- The value of a usage is plain if no browser is named twice in it and its place is given by short numbers. -/
theorem Usage.isPlain_toValue {u : Usage} (hbrowsers : (u.browsers.map Prod.fst).Nodup)
    (hline : IsShort u.line) (hcolumn : IsShort u.column) : u.toValue.IsPlain := by
  rw [IsShort] at hline hcolumn
  simp [Usage.toValue, Value.IsPlain, Value.fieldsArePlain, isPlain_tierValue, isPlain_ofText?,
    isPlain_textFields hbrowsers, hline, hcolumn]

theorem Opportunity.isPlain_toValue (o : Opportunity) : o.toValue.IsPlain := by
  simp [Opportunity.toValue, Value.IsPlain, Value.fieldsArePlain, isPlain_ofText?]

theorem Enhancement.isPlain_toValue (e : Enhancement) : e.toValue.IsPlain := by
  simp [Enhancement.toValue, Value.IsPlain, Value.fieldsArePlain]

/-- Counts of values are no larger than their number. -/
theorem Report.le_length_of_mem_tally {xs : List String} {c : String × Nat} (h : c ∈ Report.tally xs) :
    c.2 ≤ xs.length := by
  obtain ⟨x, -, rfl⟩ := List.mem_map.1 h
  exact List.count_le_length

/-- A tally is plain as long as what it counts is not too long: its names are listed once each, and none is counted
more often than there are elements. -/
theorem Report.isPlain_tally {xs : List String} (h : IsShort xs.length) :
    (countFields (Report.tally xs)).IsPlain := by
  have hnames : (Report.tally xs).map Prod.fst = distinct xs := by
    rw [Report.tally, List.map_map]
    exact List.map_id _
  refine isPlain_countFields (hnames ▸ nodup_distinct xs) fun c hc => ?_
  exact h.of_le (Report.le_length_of_mem_tally hc)

/-- What a report states in numbers has no more digits than the reader takes, and the versions of browsers in it are
given once for each browser. -/
structure Findings.IsReadable (f : Findings) : Prop where
  browsers : ∀ u ∈ f.allUsages, (u.browsers.map Prod.fst).Nodup
  line : ∀ u ∈ f.allUsages, IsShort u.line
  column : ∀ u ∈ f.allUsages, IsShort u.column
  filesScanned : IsShort f.filesScanned
  totalFiles : IsShort f.totalFiles
  totalFeatures : IsShort f.totalFeatures
  score : IsShort f.score
  uses : IsShort f.allUsages.length
  risk : IsShort (Report.statistics f).risk

variable {f : Findings}

/-- The statistics of readable findings are plain. Each count in them is bounded by the number of uses, of which a
readable report has not too many. -/
theorem Findings.IsReadable.isPlain_statistics (h : f.IsReadable) :
    (Report.statistics f).toValue.IsPlain := by
  have hcounted (g : Usage → String) : IsShort (f.allUsages.map g).length := by
    rw [List.length_map]
    exact h.uses
  -- no count is greater than the number of uses, which is short enough to be read back
  have htop : ∀ t ∈ (Report.statistics f).topFeatures,
      (Value.obj [("feature", .str t.1), ("count", .int t.2)]).IsPlain := by
    intro t ht
    have htally : t ∈ Report.tally (f.allUsages.map Usage.token) :=
      (List.mergeSort_perm _ _).mem_iff.1 (List.mem_of_mem_take ht)
    have hcount : (Value.int t.2).IsPlain :=
      (hcounted Usage.token).of_le (Report.le_length_of_mem_tally htally)
    exact ⟨by simp, trivial, hcount, trivial⟩
  have hfiles : (countFields (Report.statistics f).fileTypes).IsPlain := Report.isPlain_tally (hcounted _)
  have htiers : (countFields (Report.statistics f).tiers).IsPlain := Report.isPlain_tally (hcounted _)
  have hrisk : (Value.int (Report.statistics f).risk).IsPlain := h.risk
  exact ⟨by simp, hfiles, htiers, Value.arePlain_iff.2 (List.forall_mem_map.2 htop), hrisk, trivial⟩

/-- Usages that belong to readable findings are plain, in whichever of their lists they are. -/
theorem Findings.IsReadable.arePlain_usages (h : f.IsReadable) {usages : List Usage}
    (hsub : usages ⊆ f.allUsages) : Value.arePlain (usages.map Usage.toValue) := by
  refine Value.arePlain_iff.2 (List.forall_mem_map.2 fun u hu => ?_)
  exact Usage.isPlain_toValue (h.browsers u (hsub hu)) (h.line u (hsub hu)) (h.column u (hsub hu))

/-- A report that is readable is plain: it names no browser twice, and no number in it has more digits than a reader
takes. -/
theorem Report.isPlain_machineValue (h : f.IsReadable) (timestamp : String) :
    (Report.machineValue timestamp f).IsPlain := by
  -- the lists are no longer than all of them together
  have hviolations : f.violations ⊆ f.allUsages := fun u hu => by simp [Findings.allUsages, hu]
  have hwarnings : f.warnings ⊆ f.allUsages := fun u hu => by simp [Findings.allUsages, hu]
  have hsuggestions : f.suggestions ⊆ f.allUsages := fun u hu => by simp [Findings.allUsages, hu]
  have hexempted : f.exempted ⊆ f.allUsages := fun u hu => by simp [Findings.allUsages, hu]
  have hlength : f.allUsages.length =
      f.violations.length + f.warnings.length + f.suggestions.length + f.exempted.length := by
    rw [Findings.allUsages, List.length_append, List.length_append, List.length_append]
  have hcounts : (Value.obj f.countsFields).IsPlain := by
    have herrors : (Value.int f.violations.length).IsPlain := h.uses.of_le (by omega)
    have hwarned : (Value.int f.warnings.length).IsPlain := h.uses.of_le (by omega)
    have hsuggested : (Value.int f.suggestions.length).IsPlain := h.uses.of_le (by omega)
    exact ⟨by simp [Findings.countsFields], herrors, hwarned, hsuggested, trivial⟩
  have hsummary : (Value.obj (f.totalFields ++
      [("compatibilityScore", .int f.score), ("counts", .obj f.countsFields)])).IsPlain := by
    have hscanned : (Value.int f.filesScanned).IsPlain := h.filesScanned
    have hfiles : (Value.int f.totalFiles).IsPlain := h.totalFiles
    have hfeatures : (Value.int f.totalFeatures).IsPlain := h.totalFeatures
    have hscore : (Value.int f.score).IsPlain := h.score
    exact ⟨by simp [Findings.totalFields], hfiles, hscanned, hfeatures, hscore, hcounts, trivial⟩
  have hmeta : (Value.obj [("version", .str Report.version), ("timestamp", .str timestamp),
      ("tool", .str Report.toolName)]).IsPlain := ⟨by simp, trivial, trivial, trivial, trivial⟩
  have hopportunities : Value.arePlain (f.opportunities.map Opportunity.toValue) :=
    Value.arePlain_iff.2 (List.forall_mem_map.2 fun o _ => o.isPlain_toValue)
  have henhancements : Value.arePlain (f.enhancements.map Enhancement.toValue) :=
    Value.arePlain_iff.2 (List.forall_mem_map.2 fun e _ => e.isPlain_toValue)
  exact ⟨by simp [Findings.listFields], hmeta, hsummary, h.arePlain_usages hviolations,
    h.arePlain_usages hwarnings, h.arePlain_usages hsuggestions, h.arePlain_usages hexempted, hopportunities,
    henhancements, h.isPlain_statistics, trivial⟩

end Plain

/-! ## Depth -/

section Depth

theorem depth_ofText? (text : Option String) : (Value.ofText? text).depth = 0 := by
  cases text <;> rfl

theorem depth_tierValue (tier : Option Tier) : (tierValue tier).depth = 0 := depth_ofText? _

theorem depth_textFields_le (fields : List (String × String)) : (textFields fields).depth ≤ 1 := by
  refine Nat.succ_le_succ (Value.depthOfFields_le_iff.2 (List.forall_mem_map.2 fun _ _ => ?_))
  exact Nat.le_refl 0

theorem depth_countFields_le (fields : List (String × Nat)) : (countFields fields).depth ≤ 1 := by
  refine Nat.succ_le_succ (Value.depthOfFields_le_iff.2 (List.forall_mem_map.2 fun _ _ => ?_))
  exact Nat.le_refl 0

/-- The value of a usage has two levels at most, those of its place and of its browsers included. -/
theorem Usage.depth_toValue_le (u : Usage) : u.toValue.depth ≤ 2 := by
  have hbrowsers := depth_textFields_le u.browsers
  simp [Usage.toValue, Value.depth, Value.depthOfFields, depth_tierValue, depth_ofText?, hbrowsers]

theorem Opportunity.depth_toValue_le (o : Opportunity) : o.toValue.depth ≤ 2 := by
  simp [Opportunity.toValue, Value.depth, Value.depthOfFields, depth_ofText?]

theorem Enhancement.depth_toValue_le (e : Enhancement) : e.toValue.depth ≤ 2 := by
  simp [Enhancement.toValue, Value.depth, Value.depthOfFields]

/-- Statistics have three levels at most. It is the list of top features that takes the third. -/
theorem Report.Statistics.depth_toValue_le (s : Report.Statistics) : s.toValue.depth ≤ 3 := by
  have hfiles := depth_countFields_le s.fileTypes
  have htiers := depth_countFields_le s.tiers
  have htop : Value.depthOfItems
      (s.topFeatures.map fun t => .obj [("feature", .str t.1), ("count", .int t.2)]) ≤ 1 :=
    Value.depthOfItems_le_iff.2 (List.forall_mem_map.2 fun t _ => Nat.le_refl 1)
  simp only [Report.Statistics.toValue, Value.depth, Value.depthOfFields]
  omega

/-- A report is no deeper than what there is always room to read. -/
theorem Report.depth_machineValue_le (timestamp : String) (f : Findings) :
    (Report.machineValue timestamp f).depth ≤ writtenDepth := by
  have husages (usages : List Usage) : Value.depthOfItems (usages.map Usage.toValue) ≤ 2 :=
    Value.depthOfItems_le_iff.2 (List.forall_mem_map.2 fun u _ => u.depth_toValue_le)
  have hviolations := husages f.violations
  have hwarnings := husages f.warnings
  have hsuggestions := husages f.suggestions
  have hexempted := husages f.exempted
  have hopportunities : Value.depthOfItems (f.opportunities.map Opportunity.toValue) ≤ 2 :=
    Value.depthOfItems_le_iff.2 (List.forall_mem_map.2 fun o _ => o.depth_toValue_le)
  have henhancements : Value.depthOfItems (f.enhancements.map Enhancement.toValue) ≤ 2 :=
    Value.depthOfItems_le_iff.2 (List.forall_mem_map.2 fun e _ => e.depth_toValue_le)
  have hstatistics := (Report.statistics f).depth_toValue_le
  simp only [Report.machineValue, Findings.totalFields, Findings.countsFields, Findings.listFields,
    List.cons_append, List.nil_append, Value.depth, Value.depthOfFields, writtenDepth]
  omega

end Depth

/-! ## What a report holds -/

namespace Report

/-- The names of the lists in a report. -/
def listNames : List String :=
  ["violations", "warnings", "suggestions", "exempted", "modernizationOpportunities",
    "progressiveEnhancements"]

/-- The report holds the lists of the findings as the findings themselves are written, the sizes of the first three,
and the statistics. -/
structure Records (report : Value) (f : Findings) : Prop where
  lists : ∀ name ∈ listNames, ∃ items, f.toValue.field? name = some (.arr items) ∧
    report.field? name = some (.arr items)
  errors : CommandLine.reportCount? report "errors" = some (.int f.violations.length)
  warnings : CommandLine.reportCount? report "warnings" = some (.int f.warnings.length)
  suggestions : CommandLine.reportCount? report "suggestions" = some (.int f.suggestions.length)
  statistics : report.field? "statistics" = some (Report.statistics f).toValue

/-- A report for machines records the findings it is made of: list by list under its name, and the four totals. -/
theorem records_machineValue (timestamp : String) (f : Findings) : Records (machineValue timestamp f) f := by
  refine ⟨?_, rfl, rfl, rfl, rfl⟩
  simp only [listNames, List.forall_mem_cons]
  exact ⟨⟨_, rfl, rfl⟩, ⟨_, rfl, rfl⟩, ⟨_, rfl, rfl⟩, ⟨_, rfl, rfl⟩, ⟨_, rfl, rfl⟩, ⟨_, rfl, rfl⟩,
    fun _ hnone => absurd hnone List.not_mem_nil⟩

/-- **The report for machines is lossless**: its text is ASCII and writes one value, whoever reads it, and that value
holds the lists of the findings, their sizes and the statistics. The reader reads it, whatever room there is, unless a
number in it has too many digits. -/
theorem machineText_is_lossless (timestamp : String) (f : Findings) :
    IsAscii (machineText timestamp f).toList ∧
      ∃ report, IsTextOf report (machineText timestamp f).toList ∧
        (∀ other, IsTextOf other (machineText timestamp f).toList → other = report) ∧
        Records report f ∧
        (f.IsReadable → ∀ room, read room (machineText timestamp f).toList = .ok report) := by
  have hwhole := isWhole_machineValue timestamp f
  have htext := hwhole.isTextOf_indented
  refine ⟨hwhole.isAscii_indented, machineValue timestamp f, htext, ?_, records_machineValue timestamp f, ?_⟩
  · intro other hother
    exact hother.unique htext
  · intro hreadable room
    exact read_indented (isPlain_machineValue hreadable timestamp)
      ((depth_machineValue_le timestamp f).trans room.enough)

/-- A use with texts that need every kind of escape. -/
def oddUsage : Usage :=
  { token := "\"\\/", featureId := "😀", file := "é\x00.css", line := 1, column := -1, context := "\t\r\n\x7f"
    tier := none, browsers := [("chrome", "1"), ("", "\u2028")], severity := .error, suggestion := none
    polyfill := some "", alternative := none }

/-- Findings with an odd use and empty lists. -/
def oddFindings : Findings :=
  { filesScanned := 1, totalFiles := 1, totalFeatures := 1, score := 50, violations := [oddUsage], warnings := []
    suggestions := [], exempted := [], opportunities := [], enhancements := [] }

/-- Findings with quotation marks, control characters and characters of two code units in their texts are read back
from their report as they were. -/
theorem machineText_is_lossless_of_odd_texts :
    oddFindings.IsReadable ∧
      ∃ report, read .usual (machineText "2024-01-01T00:00:00" oddFindings).toList = .ok report ∧
        Records report oddFindings := by
  have hreadable : oddFindings.IsReadable := by
    constructor <;> decide
  obtain ⟨-, report, -, -, hrecords, hread⟩ := machineText_is_lossless "2024-01-01T00:00:00" oddFindings
  exact ⟨hreadable, report, hread hreadable .usual, hrecords⟩

end Report

end FeatureAudit
