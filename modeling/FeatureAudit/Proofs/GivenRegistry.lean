import FeatureAudit.Proofs.Detection
import FeatureAudit.Session

/-!
# Audits with a registry that is given

An audit goes by the registry that it is given, so whatever it finds is known to that registry. The one
exception is a registry that knows no feature: it is taken for none, and the dataset of the settings is
loaded in its place.

* **`Audit.agrees_of_mem_extraction`** — what is found in one source agrees with the registry.
* **`Workspace.audit_of_ne_nil`**, **`Workspace.audit_of_nil`** — when a given registry is used.
* **`given_registry_is_used`** — what a given registry means for the findings.
* **`empty_registry_is_replaced`** — a run with a registry of no features that finds one.
-/
namespace FeatureAudit

/-! ## One source -/

/-- Every use in a source agrees with the registry of the audit, whatever kind of source it is. -/
theorem Audit.agrees_of_mem_extraction {a : Audit} {all : List Feature} {file text : String}
    {u : Usage} (hregistry : a.registry = .ofFeatures all)
    (hu : u ∈ (a.extraction file text).usages) :
    u.Agrees (.ofFeatures all) a.settings.target file := by
  obtain ⟨s, token, hmade⟩ := Audit.site_of_mem_extraction hu
  rw [hregistry] at hmade
  exact agrees_of_usage? hmade

/-! ## The choice of the registry -/

/-- A registry is empty exactly if it was made of no features: of several under one name the first is kept. -/
theorem Registry.size_ofFeatures_eq_zero_iff {all : List Feature} :
    (Registry.ofFeatures all).size = 0 ↔ all = [] := by
  show (keepFirst Feature.id all).length = 0 ↔ all = []
  cases all with
  | nil => simp [keepFirst]
  | cons f rest => simp [keepFirst]

/-- A registry with features in it is used as it was given, and no dataset is loaded. -/
theorem Workspace.audit_of_ne_nil (ws : Workspace) (settings : Settings) {all : List Feature}
    (h : all ≠ []) :
    ws.audit settings (some (.ofFeatures all)) =
      (.ok { registry := .ofFeatures all, settings, room := ws.room }, ws) := by
  have hsize : ¬ (Registry.ofFeatures all).size = 0 := fun hsize =>
    h (Registry.size_ofFeatures_eq_zero_iff.1 hsize)
  exact if_neg hsize

/-- A registry of no features is as good as none. -/
theorem Workspace.audit_of_nil (ws : Workspace) (settings : Settings) :
    ws.audit settings (some (.ofFeatures [])) = ws.audit settings none := by
  have hsize : (Registry.ofFeatures []).size = 0 := Registry.size_ofFeatures_eq_zero_iff.2 rfl
  rw [Workspace.audit, if_pos hsize]
  rfl

/-- **A given registry is used unless it knows no feature**: then whatever an audit of texts finds is a
feature of that registry, of the tier that its query tells. A registry of no features is passed over,
and the audit is the one without it. -/
theorem given_registry_is_used (ws : Workspace) (settings : Settings) (all : List Feature)
    (sources : List (String × String)) :
    (all ≠ [] →
        ∃ a, ws.audit settings (some (.ofFeatures all)) = (.ok a, ws) ∧
          ∀ u ∈ (a.ofSources sources).1.allUsages,
            (Registry.ofFeatures all).contains u.featureId = true ∧
              ((Registry.ofFeatures all).check u.token settings.target).tier = u.tier) ∧
      ws.audit settings (some (.ofFeatures [])) = ws.audit settings none := by
  refine ⟨fun hall => ?_, ws.audit_of_nil settings⟩
  refine ⟨{ registry := .ofFeatures all, settings, room := ws.room }, ws.audit_of_ne_nil settings hall, ?_⟩
  intro u hu
  -- every use was made by some source, and there it agrees with the registry of the audit
  obtain ⟨s, -, hu⟩ := Audit.mem_ofSources_iff.1 hu
  have hagrees := Audit.agrees_of_mem_extraction rfl hu
  obtain ⟨f, hf, -, -⟩ := hagrees.kept
  refine ⟨?_, hagrees.tier⟩
  rw [Registry.contains, hf]
  rfl

/-- A workspace without files. -/
def bareWorkspace : Workspace :=
  { files := ⟨[], []⟩, environment := [], homes := {}, room := .usual, loaded := [] }

/-- With a registry of one feature its use in a script is found. -/
theorem given_registry_is_used_of_one_feature :
    [fetchFeature] ≠ [] ∧
      ∃ a, bareWorkspace.audit {} (some (.ofFeatures [fetchFeature])) = (.ok a, bareWorkspace) ∧
        ∀ u ∈ (a.ofSources [("a.js", "fetch(x)")]).1.allUsages,
          (Registry.ofFeatures [fetchFeature]).contains u.featureId = true ∧
            ((Registry.ofFeatures [fetchFeature]).check u.token .widelyAvailable).tier = u.tier := by
  have hfeatures : [fetchFeature] ≠ [] := List.cons_ne_nil _ _
  exact ⟨hfeatures,
    (given_registry_is_used bareWorkspace {} [fetchFeature] [("a.js", "fetch(x)")]).1 hfeatures⟩

/-- A registry of no features is given, and yet a feature is found: it is one of the catalogue. -/
theorem empty_registry_is_replaced :
    ∃ a, bareWorkspace.audit {} (some (.ofFeatures [])) = (.ok a, bareWorkspace) ∧
      ∃ u ∈ (a.ofSources [("a.js", "fetch(x)")]).1.allUsages,
        (Registry.ofFeatures []).contains u.featureId = false ∧
          ((Registry.ofFeatures []).check u.token .widelyAvailable).tier ≠ u.tier := by
  refine ⟨{ registry := catalogueRegistry, settings := {}, room := .usual }, ?_, ?_⟩
  · rw [Workspace.audit_of_nil]
    rfl
  · decide +kernel

end FeatureAudit
