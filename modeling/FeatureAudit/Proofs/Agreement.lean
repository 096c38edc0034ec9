import FeatureAudit.Proofs.Registry.LookupOrder
import FeatureAudit.Proofs.Stylesheet.Faults
import FeatureAudit.Proofs.Text.Blank
import FeatureAudit.Script.Lines

/-!
# Uses agree with point queries

A use that is found in a source tells no more and no less of its feature than a query about its token
does. That holds of every use that a token makes at a site, so of everything a tally gathers, and so
of everything that is found in a script or in a stylesheet.

* **`Usage.Agrees`** — what a use has in common with the answer to the query about its token, and with
  the feature that the registry keeps under its identifier.
* **`agrees_of_usage?`** — the use that a token makes at a site agrees.
* **`Script.site_of_mem_extract`**, **`Stylesheet.site_of_mem_extract`** — every use that is found is
  made by a token at a site.
* **`found_uses_agree`** — whatever is found agrees.
-/
namespace FeatureAudit

open FeatureAudit.Text

/-- The use agrees with the answer to the query about its token and with the feature of its
identifier, whose tier alone decides how bad the use is. -/
structure Usage.Agrees (r : Registry) (target : Tier) (file : String) (u : Usage) : Prop where
  found : (r.check u.token target).found = true
  featureId : (r.check u.token target).featureId = some u.featureId
  tier : (r.check u.token target).tier = u.tier
  browsers : (r.check u.token target).browsers = u.browsers
  suggestion : (r.check u.token target).suggestion = u.suggestion
  kept : ∃ f, r.get? u.featureId = some f ∧ u.tier = some f.tier ∧ u.browsers = f.browsers
  info_iff : u.severity = .info ↔ Tier.meets? u.tier target = true
  error_iff : u.severity = .error ↔ u.tier = some .limited ∧ ¬ Tier.meets? u.tier target = true
  warning_iff : u.severity = .warning ↔ u.tier ≠ some .limited ∧ ¬ Tier.meets? u.tier target = true
  polyfill : u.polyfill = polyfillFor u.featureId
  alternative : u.alternative = alternativeFor u.featureId
  file : u.file = file
  context_length : u.context.length ≤ 103
  context_unbroken : ∀ c ∈ u.context.toList, isLineBreak c = false

/-! ## How bad a use is -/

/-- A usage is for information only exactly if its tier is acceptable. -/
theorem Severity.of_eq_info_iff {tier : Option Tier} {acceptable : Bool} :
    Severity.of tier acceptable = .info ↔ acceptable = true := by
  unfold Severity.of
  split
  · rename_i h
    exact ⟨fun _ => h, fun _ => rfl⟩
  · rename_i h
    refine ⟨fun heq => ?_, fun hacceptable => absurd hacceptable h⟩
    split at heq <;> exact absurd heq (by decide)

/-- A usage is an error exactly if its tier is the lowest one and not acceptable. -/
theorem Severity.of_eq_error_iff {tier : Option Tier} {acceptable : Bool} :
    Severity.of tier acceptable = .error ↔ tier = some .limited ∧ ¬ acceptable = true := by
  by_cases h : acceptable = true
  · simp [Severity.of, h]
  · by_cases htier : tier = some .limited <;> simp [Severity.of, h, htier]

/-- A usage is a warning exactly if its tier is not acceptable and not the lowest one. A missing tier is among these.
-/
theorem Severity.of_eq_warning_iff {tier : Option Tier} {acceptable : Bool} :
    Severity.of tier acceptable = .warning ↔ tier ≠ some .limited ∧ ¬ acceptable = true := by
  by_cases h : acceptable = true
  · simp [Severity.of, h]
  · by_cases htier : tier = some .limited <;> simp [Severity.of, h, htier]

/-! ## One use -/

variable {all : List Feature} {target : Tier} {file : String}

/-- What lookup finds is kept under its identifier. -/
theorem Registry.get?_of_lookup {token : String} {f : Feature}
    (h : (Registry.ofFeatures all).lookup token = some f) :
    (Registry.ofFeatures all).get? f.id = some f :=
  get?_of_resolves (resolves_of_lookup h)

/-- A token that is looked up with success is checked as the feature it leads to. -/
theorem Registry.check_of_lookup {r : Registry} {token : String} {f : Feature}
    (h : r.lookup token = some f) : r.check token target = f.check token target := by
  rw [Registry.check, h]

/-- The use of a feature agrees if the token leads to the feature. -/
theorem Site.usageOf_agrees {token : String} {f : Feature} (s : Site)
    (h : (Registry.ofFeatures all).lookup token = some f) :
    (s.usageOf target file token f).Agrees (.ofFeatures all) target file := by
  -- the answer to the query is that for the feature, field by field
  have hcheck : (Registry.ofFeatures all).check (s.usageOf target file token f).token target =
      f.check token target := Registry.check_of_lookup h
  exact
    { found := by rw [hcheck]; rfl
      featureId := by rw [hcheck]; rfl
      tier := by rw [hcheck]; rfl
      browsers := by rw [hcheck]; rfl
      suggestion := by rw [hcheck]; rfl
      kept := ⟨f, Registry.get?_of_lookup h, rfl, rfl⟩
      info_iff := Severity.of_eq_info_iff
      error_iff := Severity.of_eq_error_iff
      warning_iff := Severity.of_eq_warning_iff
      polyfill := rfl
      alternative := rfl
      file := rfl
      context_length := length_abridge_le contextLimit s.context
      context_unbroken := fun c hc => not_isLineBreak_of_mem_abridge hc }

/-- Whatever is made of a token at a site agrees with the registry, since it was made from what the registry says
about the token. -/
theorem agrees_of_usage? {s : Site} {token : String} {u : Usage}
    (h : s.usage? (.ofFeatures all) target file token = some u) :
    u.Agrees (.ofFeatures all) target file := by
  rw [Site.usage?_eq] at h
  obtain ⟨f, hf, rfl⟩ := Option.map_eq_some_iff.1 h
  exact s.usageOf_agrees hf

/-! ## Everything that is found -/

/-- A use in a script is made by a token at one of its lines. -/
theorem Script.site_of_mem_extract {r : Registry} {text : String} {u : Usage}
    (h : u ∈ (Script.extract r target file text).usages) :
    ∃ s ∈ Script.sites text, ∃ token ∈ s.tokens, s.usage? r target file token = some u := by
  rcases Tally.mem_usages_foldl_addAll h with hempty | hmade
  · exact absurd hempty List.not_mem_nil
  · exact hmade

/-- A use in a stylesheet is made by a token at one of its entries. -/
theorem Stylesheet.site_of_mem_extractNodes {r : Registry} {nodes : List Node} {u : Usage}
    (h : u ∈ (extractNodes r target file nodes).usages) :
    ∃ s ∈ sitesOf nodes, ∃ token ∈ s.tokens, s.usage? r target file token = some u := by
  cases hnoticed : noticedOf nodes with
  | cons first others =>
    -- a fault leaves no use
    rw [extractNodes_of_noticed hnoticed] at h
    exact absurd h List.not_mem_nil
  | nil =>
    rw [extractNodes_of_unnoticed hnoticed, walkAll_eq_foldl, tally_foldl_enter] at h
    rcases Tally.mem_usages_foldl_addAll h with hempty | hmade
    · exact absurd hempty List.not_mem_nil
    · exact hmade

/-- A usage that is extracted from a stylesheet was made at a site of one of its entries, from one of the tokens
there. This holds whenever there is room for the stylesheet. -/
theorem Stylesheet.site_of_mem_extract {room : Nat} {r : Registry} {text : String} {e : Extraction} {u : Usage}
    (he : Stylesheet.extract room r target file text = .ok e) (h : u ∈ e.usages) :
    ∃ s ∈ sitesOf (sheet (lexemes text)), ∃ token ∈ s.tokens,
      s.usage? r target file token = some u := by
  rw [eq_extractNodes_of_extract he] at h
  exact site_of_mem_extractNodes h

/-- Whatever is extracted from a script agrees with the registry. -/
theorem Script.agrees_of_mem_extract {text : String} {u : Usage}
    (h : u ∈ (Script.extract (.ofFeatures all) target file text).usages) :
    u.Agrees (.ofFeatures all) target file := by
  obtain ⟨s, -, token, -, hmade⟩ := Script.site_of_mem_extract h
  exact agrees_of_usage? hmade

/-- Whatever is extracted from entries agrees with the registry, however the entries are nested and wherever they come
from. -/
theorem Stylesheet.agrees_of_mem_extractNodes {nodes : List Node} {u : Usage}
    (h : u ∈ (extractNodes (.ofFeatures all) target file nodes).usages) :
    u.Agrees (.ofFeatures all) target file := by
  obtain ⟨s, -, token, -, hmade⟩ := Stylesheet.site_of_mem_extractNodes h
  exact agrees_of_usage? hmade

/-- **Whatever is found agrees with the query about its token**: in scripts, among the entries of any forest, however deep
it is, and so in the stylesheets that there is room to look into. -/
theorem found_uses_agree (all : List Feature) (target : Tier) (file text : String) :
    (∀ u ∈ (Script.extract (.ofFeatures all) target file text).usages,
        u.Agrees (.ofFeatures all) target file) ∧
      (∀ nodes, ∀ u ∈ (Stylesheet.extractNodes (.ofFeatures all) target file nodes).usages,
        u.Agrees (.ofFeatures all) target file) ∧
      ∀ room e, Stylesheet.extract room (.ofFeatures all) target file text = .ok e →
        ∀ u ∈ e.usages, u.Agrees (.ofFeatures all) target file := by
  refine ⟨?_, ?_, ?_⟩
  · intro u hu
    exact Script.agrees_of_mem_extract hu
  · intro nodes u hu
    exact Stylesheet.agrees_of_mem_extractNodes hu
  · intro room e he u hu
    rw [Stylesheet.eq_extractNodes_of_extract he] at hu
    exact Stylesheet.agrees_of_mem_extractNodes hu

/-- A feature of scripts. -/
def fetchFeature : Feature := ⟨"fetch", "Fetch", .newlyAvailable, [("chrome", "42")], [], []⟩

/-- A feature of stylesheets that is known by another name. -/
def layersFeature : Feature :=
  ⟨"cascade-layers", "Cascade layers", .limited, [("chrome", "99")], [], ["@layer"]⟩

/-- A call in a script and a rule in a stylesheet are found, and agree. -/
theorem found_uses_agree_call_and_rule :
    (∃ u ∈ (Script.extract (.ofFeatures [fetchFeature, layersFeature]) .widelyAvailable "a.js"
          "fetch(x)").usages,
        u.Agrees (.ofFeatures [fetchFeature, layersFeature]) .widelyAvailable "a.js") ∧
      ∃ e, Stylesheet.extract 2 (.ofFeatures [fetchFeature, layersFeature]) .widelyAvailable "a.css"
          "@layer;" = .ok e ∧
        ∃ u ∈ e.usages,
          u.Agrees (.ofFeatures [fetchFeature, layersFeature]) .widelyAvailable "a.css" := by
  constructor
  · -- the call makes a use in the script
    have hfound : (Script.extract (.ofFeatures [fetchFeature, layersFeature]) .widelyAvailable
        "a.js" "fetch(x)").usages ≠ [] := by
      decide +kernel
    obtain ⟨u, hu⟩ := List.exists_mem_of_ne_nil _ hfound
    exact ⟨u, hu, (found_uses_agree _ _ _ _).1 u hu⟩
  · -- the stylesheet is shallow enough to be read, and its at-rule makes a use
    have hread : (Stylesheet.extract 2 (.ofFeatures [fetchFeature, layersFeature]) .widelyAvailable
        "a.css" "@layer;").toOption.any (fun e => !e.usages.isEmpty) = true := by
      decide +kernel
    cases he : Stylesheet.extract 2 (.ofFeatures [fetchFeature, layersFeature]) .widelyAvailable
        "a.css" "@layer;" with
    | error excess =>
      rw [he] at hread
      exact absurd hread (by simp [Except.toOption])
    | ok e =>
      rw [he] at hread
      have hfound : e.usages ≠ [] := by simpa [Except.toOption] using hread
      obtain ⟨u, hu⟩ := List.exists_mem_of_ne_nil _ hfound
      exact ⟨e, rfl, u, hu, (found_uses_agree _ _ _ _).2.2 2 e he u hu⟩

end FeatureAudit
