import FeatureAudit.Proofs.Detection

/-!
# Sources do not interfere

What is found in a source hangs on its name and its text alone. Other sources, whatever becomes of them,
neither add to it nor take from it, and a source that comes to nothing may as well be empty.

* **`Audit.filter_detected`** — of all that is detected, the uses with the name of a source are those that
  are found in it.
* **`Audit.Fails`** — nothing can be found in a source, because of its name or because of its text.
* **`Audit.ofSources_map_blanked`** — a source without uses can be emptied.
* **`sources_do_not_interfere`** — the findings of many sources and those of one.
-/
namespace FeatureAudit

namespace Audit

variable {a : Audit} {sources : List (String × String)} {name text : String}

/-! ## The uses of one source -/

/-- What is detected in a single source is what is extracted from it. -/
theorem detected_singleton : a.detected [(name, text)] = (a.extraction name text).usages := by
  rw [detected, usesBySource, List.mergeSort_singleton, List.map_singleton, List.flatMap_singleton]

/-- Of all that is detected, the uses with the name of a source are those that are found in it. -/
theorem filter_detected (hnames : (sources.map Prod.fst).Nodup) (hs : (name, text) ∈ sources) :
    (a.detected sources).filter (fun u => u.file = name) = (a.extraction name text).usages := by
  have hsorted : (sources.mergeSort sourceLe).Perm sources := List.mergeSort_perm _ _
  have hdistinct : ((sources.mergeSort sourceLe).map Prod.fst).Nodup :=
    (hsorted.map Prod.fst).nodup_iff.2 hnames
  rw [detected, usesBySource_eq_usesIn]
  exact filter_file_of_mem (nodup_usesIn hdistinct) file_of_mem_usesIn
    (mem_usesIn (hsorted.mem_iff.2 hs))

/-! ## Sources that come to nothing -/

/-- Nothing can be found in a source: it is of no known kind, or it is a stylesheet that cannot be looked
into, or one in which a fault is noticed. -/
inductive Fails (a : Audit) (name text : String) : Prop where
  | unsupported (h : fileKind? name = none)
  | raised (hkind : fileKind? name = some .stylesheet) (excess : Excess)
      (h : Stylesheet.extract a.room.entries a.registry a.settings.target name text = .error excess)
  | faulty (hkind : fileKind? name = some .stylesheet)
      (h : ∃ n ∈ Stylesheet.Node.preorderOf (Stylesheet.sheet (Stylesheet.lexemes text)), n.IsNoticed)

/-- A source that fails contributes no usages, for whichever reason it does. -/
theorem usages_of_fails (h : a.Fails name text) : (a.extraction name text).usages = [] := by
  unfold extraction
  cases h with
  | unsupported hkind => rw [hkind]
  | raised hkind excess hexcess =>
    rw [hkind]
    dsimp only
    rw [hexcess]
  | faulty hkind hnoticed =>
    rw [hkind]
    dsimp only
    split
    · rename_i e he
      -- what is noticed leaves no use
      rw [Stylesheet.eq_extractNodes_of_extract he]
      cases hfaults : Stylesheet.noticedOf (Stylesheet.sheet (Stylesheet.lexemes text)) with
      | nil => exact absurd hfaults (Stylesheet.noticedOf_ne_nil_iff.2 hnoticed)
      | cons first others => rw [Stylesheet.extractNodes_of_noticed hfaults]
    · rfl

/-- Nothing is found in an empty text, whatever its name is. The cases are the kinds of sources. -/
theorem usages_extraction_empty : (a.extraction name "").usages = [] := by
  unfold extraction
  cases fileKind? name with
  | none => rfl
  | some kind =>
    cases kind with
    | stylesheet =>
      dsimp only
      split
      · rename_i e he
        have hsheet : Stylesheet.sheet (Stylesheet.lexemes "") = [] := by
          have hlexemes : Stylesheet.lexemes "" = [] := by decide
          have hnested : Stylesheet.nested [] = [] := by decide
          rw [hlexemes, Stylesheet.sheet, hnested, Stylesheet.nodesOf_eq_map, Stylesheet.items]
          rfl
        rw [Stylesheet.eq_extractNodes_of_extract he, hsheet]
        rfl
      · rfl
    | script =>
      -- the only line is blank, and no code
      dsimp only
      split <;> rfl

/-- The source, with an empty text if it has the name. -/
def blanked (name : String) (s : String × String) : String × String :=
  if s.1 = name then (s.1, "") else s

theorem blanked_fst (s : String × String) : (blanked name s).1 = s.1 := by
  unfold blanked
  split <;> rfl

/-- Which sources are told apart by their names are told apart without their texts. -/
theorem sourceLe_blanked (hnames : (sources.map Prod.fst).Nodup) {s t : String × String}
    (hs : s ∈ sources) (ht : t ∈ sources) :
    sourceLe s t = sourceLe (blanked name s) (blanked name t) := by
  unfold sourceLe
  rw [blanked_fst, blanked_fst]
  by_cases hst : s.1 = t.1
  · -- one name, one source
    obtain rfl : s = t := List.inj_on_of_nodup_map hnames hs ht hst
    simp [textLe]
  · rw [if_neg (by simpa using hst), if_neg (by simpa using hst)]

/-- A source without uses can be emptied, and the findings of all sources stay what they are. -/
theorem ofSources_map_blanked (hnames : (sources.map Prod.fst).Nodup)
    (hs : (name, text) ∈ sources) (hnone : (a.extraction name text).usages = []) :
    (a.ofSources (sources.map (blanked name))).1 = (a.ofSources sources).1 := by
  have hsorted : (sources.map (blanked name)).mergeSort sourceLe =
      (sources.mergeSort sourceLe).map (blanked name) := by
    have hle : ∀ s ∈ sources, ∀ t ∈ sources,
        sourceLe s t = sourceLe (blanked name s) (blanked name t) :=
      fun s hs t ht => sourceLe_blanked hnames hs ht
    exact (List.map_mergeSort hle).symm
  -- an empty source has no uses, and the one that is emptied had none
  have huses : a.usesBySource (sources.map (blanked name)) = a.usesBySource sources := by
    rw [usesBySource, usesBySource, hsorted, List.map_map]
    refine List.map_congr_left fun s hmem => ?_
    show ((blanked name s).1, (a.extraction (blanked name s).1 (blanked name s).2).usages) = _
    unfold blanked
    split
    · rename_i hname
      obtain rfl : s = (name, text) :=
        List.inj_on_of_nodup_map hnames (List.mem_mergeSort.1 hmem) hs hname
      rw [usages_extraction_empty, hnone]
    · rfl
  rw [findings_ofSources, findings_ofSources, huses]

/-- As many files are scanned as there are sources, those that fail and those of one name included. -/
theorem filesScanned_ofSources : (a.ofSources sources).1.filesScanned = sources.length := by
  rw [findings_ofSources, ← length_usesBySource a sources]
  rfl

end Audit

/-- **Sources do not interfere.** In each list of the findings, the uses with the name of a source are
those that the source has on its own, in their order. A source that fails has none; it still counts as
scanned, and the findings are those with its text left empty. -/
theorem sources_do_not_interfere (a : Audit) {sources : List (String × String)}
    {name text : String} (hnames : (sources.map Prod.fst).Nodup)
    (hs : (name, text) ∈ sources) :
    (∀ category, ((a.ofSources sources).1.inList category).filter (fun u => u.file = name) =
        (a.ofSources [(name, text)]).1.inList category) ∧
      (a.ofSources sources).1.filesScanned = sources.length ∧
      (a.Fails name text →
        (∀ u ∈ (a.ofSources sources).1.allUsages, u.file ≠ name) ∧
          (a.ofSources sources).1 = (a.ofSources (sources.map (Audit.blanked name))).1) := by
  refine ⟨fun category => ?_, Audit.filesScanned_ofSources, fun hfails => ⟨fun u hu => ?_, ?_⟩⟩
  · rw [Audit.inList_ofSources, Audit.inList_ofSources, Audit.detected_singleton,
      ← Audit.filter_detected hnames hs, inCategory, inCategory, List.filter_comm]
  · intro hfile
    have hdetected : u ∈ a.detected sources := (Audit.allUsages_ofSources_perm a sources).mem_iff.1 hu
    have hfound : u ∈ (a.detected sources).filter (fun u => u.file = name) :=
      List.mem_filter.2 ⟨hdetected, decide_eq_true hfile⟩
    rw [Audit.filter_detected hnames hs, Audit.usages_of_fails hfails] at hfound
    exact List.not_mem_nil hfound
  · exact (Audit.ofSources_map_blanked hnames hs (Audit.usages_of_fails hfails)).symm

/-- A stylesheet that ends before its first block. -/
theorem Stylesheet.sheet_unfinished : sheet (lexemes "a") = [.error ⟨1, 1⟩ .endBeforeBlock] := by
  have hlexemes : lexemes "a" = [(⟨1, 1⟩, .leaf (.ident "a"))] := by decide +kernel
  rw [hlexemes, sheet, nodesOf_eq_map]
  simp [nested, nestedFrom, closeFrame, items, isFiller, itemFrom, ruleItem, upTo,
    Component.isWhitespace, Component.isLiteral, Component.isCurly, Component.pos, Item.node]

/-- A faulty stylesheet leaves the uses of a script as they are. -/
theorem sources_do_not_interfere_of_unfinished :
    ([("b.css", "a"), ("a.js", "fetch(x)")].map Prod.fst).Nodup ∧
      ("a.js", "fetch(x)") ∈ [("b.css", "a"), ("a.js", "fetch(x)")] ∧
      ("b.css", "a") ∈ [("b.css", "a"), ("a.js", "fetch(x)")] ∧
      fetchAudit.Fails "b.css" "a" ∧
      ((fetchAudit.ofSources [("b.css", "a"), ("a.js", "fetch(x)")]).1.inList .warning).filter
          (fun u => u.file = "a.js") =
        (fetchAudit.ofSources [("a.js", "fetch(x)")]).1.inList .warning ∧
      (fetchAudit.ofSources [("a.js", "fetch(x)")]).1.inList .warning ≠ [] ∧
      (fetchAudit.ofSources [("b.css", "a"), ("a.js", "fetch(x)")]).1 =
        (fetchAudit.ofSources [("b.css", ""), ("a.js", "fetch(x)")]).1 := by
  have hnames : ([("b.css", "a"), ("a.js", "fetch(x)")].map Prod.fst).Nodup := by decide
  have hfails : fetchAudit.Fails "b.css" "a" := by
    refine .faulty (by decide) ?_
    rw [Stylesheet.sheet_unfinished]
    exact ⟨_, List.mem_cons_self, trivial⟩
  have hscript : ("a.js", "fetch(x)") ∈ [("b.css", "a"), ("a.js", "fetch(x)")] := by decide
  have hsheet : ("b.css", "a") ∈ [("b.css", "a"), ("a.js", "fetch(x)")] := by decide
  obtain ⟨halone, -, -⟩ := sources_do_not_interfere fetchAudit hnames hscript
  obtain ⟨-, -, hblank⟩ := sources_do_not_interfere fetchAudit hnames hsheet
  exact ⟨hnames, hscript, hsheet, hfails, halone .warning, by decide +kernel, (hblank hfails).2⟩

end FeatureAudit
