import FeatureAudit.Proofs.Agreement
import FeatureAudit.Proofs.Dataset.Conversion
import FeatureAudit.Proofs.Dataset.History

/-!
# Where registries come from

A workspace makes up no registry: each that it gives is that of the catalogue, or was read in the content of a file,
now or before. So what holds of the catalogue and of everything that datasets are read as holds of every answer that
is given in a workspace. One such thing is that the versions of browsers are given once for each browser.

* **`Registry.IsRead`**, **`Workspace.keepsRead_afterAll`** — registries that a workspace keeps were read.
* **`Workspace.eq_or_isRead_of_registry`** — what a workspace gives.
* **`Registry.NamesBrowsersOnce`**, **`Workspace.namesBrowsersOnce_of_registry`** — browsers are named once each.
-/
namespace FeatureAudit

open FeatureAudit.Json FeatureAudit.Text

/-! ## Registries that were read -/

/-- The registry of the dataset in some content. -/
def Registry.IsRead (r : Registry) : Prop := ∃ room content, Dataset.registry room content = .ok r

/-- A registry that is read from a file is one that some bytes are read as: those of the file. -/
theorem Files.isRead_of_registry {fs : Files} {room : Room} {path : Path} {r : Registry}
    (h : fs.registry room path = .ok r) : r.IsRead := by
  unfold Files.registry at h
  split at h
  · exact absurd h (by simp)
  · rename_i bytes _
    split at h
    · exact absurd h (by simp)
    · rename_i read hread
      obtain rfl := Except.ok.inj h
      exact ⟨room, bytes, hread⟩

namespace Workspace

/-- All registries that the workspace keeps were read. -/
def KeepsRead (ws : Workspace) : Prop := ∀ path r, ws.loaded? path = some r → r.IsRead

variable {ws : Workspace} {dataset : Option String} {r : Registry}

/-- A workspace that was just opened keeps no registries at all, and so none that was not read. -/
theorem keepsRead_opened (files : Files) (environment : Environment) (homes : Homes) (room : Room) :
    (opened files environment homes room).KeepsRead := by
  intro path r h
  exact absurd h (by simp [loaded?, opened])

/-- Whatever is given out for a path was read: either just now or when it was kept. -/
theorem KeepsRead.isRead_of_registryAt (hkeeps : ws.KeepsRead) {path : Path}
    (h : (ws.registryAt path).1 = .ok r) : r.IsRead := by
  cases hloaded : ws.loaded? path with
  | some kept =>
    rw [registryAt_of_loaded hloaded] at h
    obtain rfl := Except.ok.inj h
    exact hkeeps path kept hloaded
  | none =>
    rw [registryAt_fst_of_fresh hloaded] at h
    exact Files.isRead_of_registry h

/-- No event makes a workspace keep a registry that was not read. This is the step, and histories follow by induction.
-/
theorem KeepsRead.after (hkeeps : ws.KeepsRead) (e : Event) : (ws.after e).KeepsRead := by
  intro path r h
  rcases loaded?_after_eq_some_iff.1 h with hbefore | ⟨dataset, -, hpath, hgiven⟩
  · exact hkeeps path r hbefore
  · -- the registry has just been given, from the path at which it is now kept
    rw [registry_of_datasetPath? hpath] at hgiven
    exact hkeeps.isRead_of_registryAt hgiven

/-- Whatever happens to a workspace, it keeps only what was read. The induction is on the events, the last one
split off. -/
theorem keepsRead_afterAll (hkeeps : ws.KeepsRead) (events : List Event) : (ws.afterAll events).KeepsRead := by
  induction events using List.reverseRecOn with
  | nil => exact hkeeps
  | append_singleton events e ih =>
    rw [afterAll_concat]
    exact ih.after e

/-- A registry that is given is that of the catalogue, or was read. -/
theorem eq_or_isRead_of_registry (hkeeps : ws.KeepsRead) (h : (ws.registry dataset).1 = .ok r) :
    r = catalogueRegistry ∨ r.IsRead := by
  unfold registry at h
  split at h
  · exact .inl (Except.ok.inj h).symm
  · split at h
    · exact .inl (Except.ok.inj h).symm
    · split at h
      · exact absurd h (by simp)
      · -- the name stands for a path
        exact .inr (hkeeps.isRead_of_registryAt h)

end Workspace

/-! ## Browsers -/

/-- Each browser of the feature is named once. -/
def Feature.NamesBrowsersOnce (f : Feature) : Prop := (f.browsers.map Prod.fst).Nodup

instance (f : Feature) : Decidable f.NamesBrowsersOnce := inferInstanceAs (Decidable (List.Nodup _))

namespace Dataset

variable {id : String} {entry status data : Value}

/-- A feature that comes of an entry names each browser once, since its browsers are some of the known ones. -/
theorem namesBrowsersOnce_featureOf {f : Feature} (h : featureOf id entry status = .ok f) :
    f.NamesBrowsersOnce := by
  unfold featureOf at h
  split at h
  · exact absurd h (by simp)
  · rename_i browsers hbrowsers
    split at h
    · exact absurd h (by simp)
    · obtain rfl := Except.ok.inj h
      exact (browsersOf_sublist hbrowsers).nodup (by decide)

/-- All features of a dataset name each browser once, entry by entry. -/
theorem namesBrowsersOnce_features {all : List Feature} (h : features data = .ok all) :
    ∀ f ∈ all, f.NamesBrowsersOnce := by
  obtain ⟨entries, -, hall, -⟩ := features_eq_ok_iff.1 h
  have hmade : List.Forall₂ (fun f e => f.NamesBrowsersOnce ∧ IsMadeOf e f) all
      (entries.filter fun e => hasStatus e.2) := by
    refine (forall₂_of_featuresOfEntries hall).flip.imp fun f e h => ⟨?_, h⟩
    obtain ⟨status, -, hf⟩ := h
    exact namesBrowsersOnce_featureOf hf
  exact ((List.forall₂_and_left _ _).1 hmade).1

end Dataset

namespace Registry

variable {r : Registry}

/-- The registry of features that name each of their browsers once. -/
def NamesBrowsersOnce (r : Registry) : Prop := ∃ all, r = ofFeatures all ∧ ∀ f ∈ all, f.NamesBrowsersOnce

/-- A registry that was read names each browser once in each of its features. -/
theorem IsRead.namesBrowsersOnce (h : r.IsRead) : r.NamesBrowsersOnce := by
  obtain ⟨room, content, h⟩ := h
  unfold Dataset.registry at h
  split at h
  · exact absurd h (by simp)
  · split at h
    · exact absurd h (by simp)
    · split at h
      · exact absurd h (by simp)
      · rename_i all hfeatures
        obtain rfl := Except.ok.inj h
        exact ⟨all, rfl, Dataset.namesBrowsersOnce_features hfeatures⟩

/-- The features of the catalogue name each browser once, which is checked over the whole of it. -/
theorem namesBrowsersOnce_catalogueRegistry : catalogueRegistry.NamesBrowsersOnce := by
  have hcatalogue : ∀ f ∈ catalogue, f.NamesBrowsersOnce := by decide +kernel
  exact ⟨catalogue, rfl, hcatalogue⟩

/-- An answer names each browser once: it has those of a feature of the registry, or none. -/
theorem NamesBrowsersOnce.nodup_check (h : r.NamesBrowsersOnce) (token : String) (target : Tier) :
    ((r.check token target).browsers.map Prod.fst).Nodup := by
  obtain ⟨all, rfl, hall⟩ := h
  cases hlookup : (ofFeatures all).lookup token with
  | none =>
    rw [check, hlookup]
    exact List.nodup_nil
  | some f =>
    rw [check_of_lookup hlookup]
    have hkept : (ofFeatures all).get? f.id = some f := get?_of_lookup hlookup
    have hmem : f ∈ (ofFeatures all).features := List.mem_of_find?_eq_some hkept
    exact hall f (mem_of_mem_keepFirst hmem)

end Registry

/-- Whatever registry a workspace gives out names each browser once, be it that of the catalogue or one that was read.
-/
theorem Workspace.namesBrowsersOnce_of_registry {ws : Workspace} (hkeeps : ws.KeepsRead)
    {dataset : Option String} {r : Registry} (h : (ws.registry dataset).1 = .ok r) : r.NamesBrowsersOnce := by
  rcases eq_or_isRead_of_registry hkeeps h with rfl | hread
  · exact Registry.namesBrowsersOnce_catalogueRegistry
  · exact hread.namesBrowsersOnce

end FeatureAudit
