import FeatureAudit.Audit
import FeatureAudit.Proofs.Agreement
import FeatureAudit.Proofs.Findings.Partition

/-!
# What an audit detects

An audit of texts looks into them one by one, in their order, and then draws its findings from the uses
of all of them. What is detected stands between the two: the uses of each source, before they are shared
out.

* **`Audit.usesIn`**, **`Audit.usesBySource`**, **`Audit.detected`** — the uses of each source, and those of all.
* **`Audit.findings_ofSources`**, **`Audit.inList_ofSources`** — the findings are drawn from them.
* **`Audit.mem_ofSources_iff`** — the findings hold what is found in the sources.
* **`Audit.site_of_mem_extraction`** — every use in a source is made by a token at one of its sites.
-/
namespace FeatureAudit

namespace Audit

/-- The uses that are found in each of some sources, as the sources are given. -/
def usesIn (a : Audit) (sources : List (String × String)) : List (String × List Usage) :=
  sources.map fun s => (s.1, (a.extraction s.1 s.2).usages)

/-- The uses that each source has, in the order of the sources. -/
def usesBySource (a : Audit) (sources : List (String × String)) : List (String × List Usage) :=
  (sources.mergeSort sourceLe).map fun s => (s.1, (a.extraction s.1 s.2).usages)

/-- Every use that an audit of texts detects, source by source. -/
def detected (a : Audit) (sources : List (String × String)) : List Usage :=
  (a.usesBySource sources).flatMap Prod.snd

/-- The uses of an audit, source by source, are those in its sources once they are sorted. -/
theorem usesBySource_eq_usesIn (a : Audit) (sources : List (String × String)) :
    a.usesBySource sources = a.usesIn (sources.mergeSort sourceLe) := rfl

/-- The findings of an audit are made of the uses in its sources, one entry for each source in order. -/
theorem findings_ofSources (a : Audit) (sources : List (String × String)) :
    (a.ofSources sources).1 = Findings.ofFiles (a.usesBySource sources) a.options := by
  rw [ofSources, findings, usesBySource, List.map_map]
  rfl

/-- Each list of the findings holds the detected uses that belong in it. -/
theorem inList_ofSources (a : Audit) (sources : List (String × String)) (category : Category) :
    (a.ofSources sources).1.inList category =
      inCategory a.settings.exceptions category (a.detected sources) := by
  rw [findings_ofSources, Findings.inList_ofFiles]
  rfl

/-- The lists of findings hold what was detected in the sources, all of it and nothing else. Only the order may
differ. -/
theorem allUsages_ofSources_perm (a : Audit) (sources : List (String × String)) :
    (a.ofSources sources).1.allUsages.Perm (a.detected sources) := by
  rw [findings_ofSources]
  exact Findings.allUsages_perm _ _

/-- A usage is detected in sources exactly if it is extracted from one of them. -/
theorem mem_detected_iff {a : Audit} {sources : List (String × String)} {u : Usage} :
    u ∈ a.detected sources ↔ ∃ s ∈ sources, u ∈ (a.extraction s.1 s.2).usages := by
  rw [detected, usesBySource, List.flatMap_map, List.mem_flatMap]
  simp only [List.mem_mergeSort]

/-- The findings of an audit hold the uses in its sources, and nothing else. -/
theorem mem_ofSources_iff {a : Audit} {sources : List (String × String)} {u : Usage} :
    u ∈ (a.ofSources sources).1.allUsages ↔ ∃ s ∈ sources, u ∈ (a.extraction s.1 s.2).usages := by
  rw [(allUsages_ofSources_perm a sources).mem_iff, mem_detected_iff]

/-- Each source has its entry, even if nothing was found in it or if another has its name. -/
theorem length_usesBySource (a : Audit) (sources : List (String × String)) :
    (a.usesBySource sources).length = sources.length := by
  rw [usesBySource, List.length_map, List.length_mergeSort]

/-! ## One source -/

variable {a : Audit} {file text : String} {u : Usage}

/-- Every use in a source is made by a token at a site, whatever kind of source it is. -/
theorem site_of_mem_extraction (h : u ∈ (a.extraction file text).usages) :
    ∃ (s : Site) (token : String), s.usage? a.registry a.settings.target file token = some u := by
  unfold extraction at h
  split at h
  · -- a source of unknown kind has no uses
    exact absurd h List.not_mem_nil
  · split at h
    · rename_i e he
      obtain ⟨s, -, token, -, hmade⟩ := Stylesheet.site_of_mem_extract he h
      exact ⟨s, token, hmade⟩
    · -- nor has one that cannot be looked into
      exact absurd h List.not_mem_nil
  · split at h
    · obtain ⟨s, -, token, -, hmade⟩ := Script.site_of_mem_extract h
      exact ⟨s, token, hmade⟩
    · exact absurd h List.not_mem_nil

/-- A use in a source names the source as its file. -/
theorem file_of_mem_extraction (h : u ∈ (a.extraction file text).usages) : u.file = file := by
  obtain ⟨s, token, hmade⟩ := site_of_mem_extraction h
  rw [Site.usage?_eq] at hmade
  obtain ⟨f, -, rfl⟩ := Option.map_eq_some_iff.1 hmade
  rfl

/-- The usages of a source name this source, so usages of several sources can be told apart. -/
theorem file_of_mem_usesIn {sources : List (String × String)} :
    ∀ f ∈ a.usesIn sources, ∀ u ∈ f.2, u.file = f.1 := by
  simp only [usesIn, List.forall_mem_map]
  exact fun s _ u hu => file_of_mem_extraction hu

/-- What is found in sources that do not share names is told apart by their names. -/
theorem nodup_usesIn {sources : List (String × String)} (hnames : (sources.map Prod.fst).Nodup) :
    ((a.usesIn sources).map Prod.fst).Nodup := by
  rwa [usesIn, List.map_map]

/-- Each source has an entry with what is extracted from it. -/
theorem mem_usesIn {sources : List (String × String)} (hs : (file, text) ∈ sources) :
    (file, (a.extraction file text).usages) ∈ a.usesIn sources :=
  List.mem_map_of_mem hs

end Audit

/-- An audit that knows a feature that is newly available. -/
def fetchAudit : Audit := { registry := .ofFeatures [fetchFeature], settings := {}, room := .usual }

end FeatureAudit
