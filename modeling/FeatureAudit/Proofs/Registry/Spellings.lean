import FeatureAudit.Proofs.Agreement
import FeatureAudit.Proofs.Spelling.CamelCase

/-!
# Names with a mark and names in camel case

The first three stages of lookup try one text after the other: the token, the token in lowercase, and its spellings. A
mark before a name is no part of the spellings, so a marked name that is no key itself is looked up by those of the name
alone. A name that is spelled as it stands has met its own text and its lowercase form by then, and these come first
among its spellings too, so both lead to one feature. A name in camel case has its kebab case for a spelling, the first
after the name itself.

* **`lookup_of_findSome?`** — the first three stages as one search.
* **`vendor_mark_is_transparent`** — a mark before a plain name makes no difference to what it stands for.
* **`camel_case_is_kebab_case`** — a name in camel case stands for the feature of its kebab case, with a mark or without.
-/
namespace FeatureAudit

open FeatureAudit.Text

namespace Registry

variable {all : List Feature} {token name : String} {f : Feature}

/-- The first three stages are one search: through the token, the token in lowercase, and the other spellings. -/
theorem lookup_of_findSome? (h : token ≠ "")
    (hfound : (token :: lower token :: variations token).findSome? (find? (ofFeatures all).index) = some f) :
    (ofFeatures all).lookup token = some f := by
  have hempty : token.isEmpty = false := by simpa using h
  rw [List.findSome?_cons, List.findSome?_cons] at hfound
  rw [lookup, hempty]
  -- the first of the three that is found is what each branch of the lookup returns
  cases hexact : find? (ofFeatures all).index token with
  | some g => simpa [hexact] using hfound
  | none =>
    cases hlowered : find? (ofFeatures all).index (lower token) with
    | some g => simpa [hexact, hlowered] using hfound
    | none =>
      have hspelled : (variations token).findSome? (find? (ofFeatures all).index) = some f := by
        simpa [hexact, hlowered] using hfound
      simp [hspelled]

/-- A token that is no key, nor is its lowercase form, stands for the feature of its first spelling that is one. -/
theorem lookup_of_findSome?_variations (h : token ≠ "") (hexact : token ∉ (ofFeatures all).keys)
    (hlowered : lower token ∉ (ofFeatures all).keys)
    (hspelled : (variations token).findSome? (find? (ofFeatures all).index) = some f) :
    (ofFeatures all).lookup token = some f := by
  refine lookup_of_findSome? h ?_
  rw [List.findSome?_cons, not_mem_keys_iff.1 hexact, List.findSome?_cons, not_mem_keys_iff.1 hlowered]
  exact hspelled

/-- A plain name stands for the feature of its first spelling that is a key, whether or not it is a key itself. -/
theorem lookup_of_isPlainName (h : IsPlainName name)
    (hspelled : (variations name).findSome? (find? (ofFeatures all).index) = some f) :
    (ofFeatures all).lookup name = some f := by
  refine lookup_of_findSome? h.ne_empty ?_
  have hsearch := findSome?_variations h (find?_index_empty all)
  rw [hspelled] at hsearch
  rw [List.findSome?_cons, List.findSome?_cons, hspelled]
  -- the name and its lowercase form are looked for a second time, and not found where they were not the first time
  rw [List.findSome?_cons, List.findSome?_cons] at hsearch
  cases hexact : find? (ofFeatures all).index name with
  | some g => simpa [hexact] using hsearch.symm
  | none =>
    cases hlowered : find? (ofFeatures all).index (lower name) with
    | some g => simpa [hexact, hlowered] using hsearch.symm
    | none => rfl

/-- **A vendor's mark is transparent.** Where neither the marked name nor its lowercase form is a key, and some spelling
of the plain name is one, the marked name and the name stand for one feature, so a query about either has the same
answer. -/
theorem vendor_mark_is_transparent (all : List Feature) {mark name : String} (hmark : IsVendorMark mark.toList)
    (hname : IsPlainName name) (hexact : mark ++ name ∉ (ofFeatures all).keys)
    (hlowered : lower (mark ++ name) ∉ (ofFeatures all).keys)
    (hknown : ∃ v ∈ variations name, v ∈ (ofFeatures all).keys) :
    (∃ f, (ofFeatures all).lookup (mark ++ name) = some f ∧ (ofFeatures all).lookup name = some f) ∧
      ∀ target, (ofFeatures all).check (mark ++ name) target =
        { (ofFeatures all).check name target with token := mark ++ name } := by
  obtain ⟨f, hspelled⟩ : ∃ f, (variations name).findSome? (find? (ofFeatures all).index) = some f := by
    obtain ⟨v, hv, hkey⟩ := hknown
    rw [← Option.isSome_iff_exists, List.findSome?_isSome_iff]
    exact ⟨v, hv, mem_keys_iff_isSome.1 hkey⟩
  have hne : mark ++ name ≠ "" := by simp [hname.ne_empty]
  have hmarked : (ofFeatures all).lookup (mark ++ name) = some f :=
    lookup_of_findSome?_variations hne hexact hlowered
      (by rw [variations_append hmark hname.ascii hname.unmarked, hspelled])
  -- the variations are the same with the mark and without; only the steps before them could tell the names apart
  have hplain := lookup_of_isPlainName hname hspelled
  refine ⟨⟨f, hmarked, hplain⟩, fun target => ?_⟩
  rw [check_of_lookup hmarked, check_of_lookup hplain]
  rfl

/-- A feature that is known by the name of its property. -/
def filterFeature : Feature :=
  ⟨"filter-effects", "Filter effects", .widelyAvailable, [("chrome", "53")], ["css.properties.filter"], []⟩

/-- Another feature, known by the same name as a feature of stylesheets. -/
def cssFilterFeature : Feature := ⟨"css-filter", "CSS filters", .limited, [], [], []⟩

/-- Two spellings of one name are keys of different features, and the name is found with a mark as it is without. -/
theorem vendor_mark_is_transparent_of_two_spellings :
    (IsVendorMark "-WebKit-".toList ∧ IsPlainName "Filter" ∧
        "css-filter" ∈ variations "Filter" ∧ "filter" ∈ variations "Filter") ∧
      (∃ f, (ofFeatures [cssFilterFeature, filterFeature]).lookup ("-WebKit-" ++ "Filter") = some f ∧
        (ofFeatures [cssFilterFeature, filterFeature]).lookup "Filter" = some f) ∧
      ∀ target, (ofFeatures [cssFilterFeature, filterFeature]).check ("-WebKit-" ++ "Filter") target =
        { (ofFeatures [cssFilterFeature, filterFeature]).check "Filter" target with
          token := "-WebKit-" ++ "Filter" } := by
  have hmark : IsVendorMark "-WebKit-".toList := by decide
  have hname : IsPlainName "Filter" :=
    { ne_empty := by decide
      ascii := by simp
      unmarked := isUnmarked_of_ne_hyphen (by decide) "ilter".toList
      singleWord := by decide }
  have hvariations : variations "Filter" = ["Filter", "filter", "css-filter", "css.properties.filter"] := by
    decide +kernel
  have hindex : (ofFeatures [cssFilterFeature, filterFeature]).index =
      [("css-filter", cssFilterFeature), ("filter-effects", filterFeature), ("css filters", cssFilterFeature),
        ("filter effects", filterFeature), ("css.properties.filter", filterFeature), ("filter", filterFeature)] := by
    decide +kernel
  have hexact : "-WebKit-" ++ "Filter" ∉ (ofFeatures [cssFilterFeature, filterFeature]).keys := by
    rw [not_mem_keys_iff, hindex]
    decide
  have hlowered : lower ("-WebKit-" ++ "Filter") ∉ (ofFeatures [cssFilterFeature, filterFeature]).keys := by
    rw [not_mem_keys_iff, hindex]
    decide +kernel
  have hkey : "filter" ∈ (ofFeatures [cssFilterFeature, filterFeature]).keys := by
    rw [mem_keys_iff_isSome, hindex]
    decide
  exact ⟨⟨hmark, hname, by simp [hvariations], by simp [hvariations]⟩,
    vendor_mark_is_transparent _ hmark hname hexact hlowered ⟨"filter", by simp [hvariations], hkey⟩⟩

/-- **A name in camel case is known by its kebab case.** That is its second spelling, after a mark too; and where it is
a key, and no text that is tried before it is, the name stands for its feature, with a mark or without. -/
theorem camel_case_is_kebab_case (n : CompoundName) :
    (variations n.camel)[1]? = some n.kebab ∧
      (∀ mark : String, IsVendorMark mark.toList → (variations (mark ++ n.camel))[1]? = some n.kebab) ∧
      ∀ all, n.kebab ∈ (ofFeatures all).keys → n.camel ∉ (ofFeatures all).keys →
        lower n.camel ∉ (ofFeatures all).keys →
        ∃ f, find? (ofFeatures all).index n.kebab = some f ∧ (ofFeatures all).lookup n.camel = some f ∧
          ∀ mark : String, IsVendorMark mark.toList → mark ++ n.camel ∉ (ofFeatures all).keys →
            lower (mark ++ n.camel) ∉ (ofFeatures all).keys → (ofFeatures all).lookup (mark ++ n.camel) = some f := by
  obtain ⟨more, hvariations⟩ := n.variations_camel
  have hmarked : ∀ mark : String, IsVendorMark mark.toList →
      variations (mark ++ n.camel) = n.camel :: n.kebab :: more := fun mark hmark =>
    (variations_append hmark n.ascii_camel n.isUnmarked_camel).trans hvariations
  refine ⟨by rw [hvariations]; rfl, fun mark hmark => by rw [hmarked mark hmark]; rfl, ?_⟩
  intro all hkebab hcamel hlowered
  obtain ⟨f, hf⟩ := Option.isSome_iff_exists.1 (mem_keys_iff_isSome.1 hkebab)
  -- the first spelling is the token itself, which is no key, and the second is the one with hyphens
  have hspelled : (n.camel :: n.kebab :: more).findSome? (find? (ofFeatures all).index) = some f := by
    rw [List.findSome?_cons, not_mem_keys_iff.1 hcamel, List.findSome?_cons, hf]
  refine ⟨f, hf, ?_, fun mark hmark hexact hlower => ?_⟩
  · exact lookup_of_findSome?_variations n.camel_ne_empty hcamel hlowered (hvariations ▸ hspelled)
  · have hne : mark ++ n.camel ≠ "" := by simp [n.camel_ne_empty]
    exact lookup_of_findSome?_variations hne hexact hlower (hmarked mark hmark ▸ hspelled)

/-- A name of three words, one of which ends in a digit and one of which is a single letter. -/
def gridTemplateName : CompoundName where
  first := "grid".toList
  inner := ["template2".toList]
  last := "x".toList
  isWord_first := ⟨'g', "rid".toList, rfl, by decide, by simp [IsSmall]⟩
  isWord_inner := List.forall_mem_singleton.2 ⟨'t', "emplate2".toList, rfl, by decide, by simp [IsSmall]⟩
  isWord_last := ⟨'x', [], rfl, by decide, by simp [IsSmall]⟩
  two_le_length := by decide

/-- A feature that is known by that name in kebab case. -/
def gridTemplateFeature : Feature := ⟨"grid-template2-x", "Grid template", .newlyAvailable, [], [], []⟩

/-- The name is found in camel case, and with a mark before that. -/
theorem camel_case_is_kebab_case_of_three_words :
    (gridTemplateName.camel = "gridTemplate2X" ∧ gridTemplateName.kebab = "grid-template2-x") ∧
      (variations gridTemplateName.camel)[1]? = some gridTemplateName.kebab ∧
      (ofFeatures [gridTemplateFeature]).lookup gridTemplateName.camel = some gridTemplateFeature ∧
      (ofFeatures [gridTemplateFeature]).lookup ("-Moz-" ++ gridTemplateName.camel) = some gridTemplateFeature := by
  have hindex : (ofFeatures [gridTemplateFeature]).index =
      [("grid-template2-x", gridTemplateFeature), ("grid template", gridTemplateFeature)] := by
    decide +kernel
  have hcamel : gridTemplateName.camel = "gridTemplate2X" := by decide +kernel
  have hkebab : gridTemplateName.kebab = "grid-template2-x" := by decide +kernel
  have hno (k : String) (h : find? [("grid-template2-x", gridTemplateFeature), ("grid template", gridTemplateFeature)]
      k = none) : k ∉ (ofFeatures [gridTemplateFeature]).keys := by
    rw [not_mem_keys_iff, hindex, h]
  have hkey : gridTemplateName.kebab ∈ (ofFeatures [gridTemplateFeature]).keys := by
    rw [mem_keys_iff_isSome, hindex, hkebab]
    decide
  obtain ⟨hsecond, -, hlookup⟩ := camel_case_is_kebab_case gridTemplateName
  obtain ⟨f, hf, hplain, hmarked⟩ := hlookup [gridTemplateFeature] hkey (hno _ (by rw [hcamel]; decide))
    (hno _ (by rw [hcamel]; decide +kernel))
  have hmark := hmarked "-Moz-" (by decide) (hno _ (by rw [hcamel]; decide)) (hno _ (by rw [hcamel]; decide +kernel))
  rw [hindex, hkebab] at hf
  obtain rfl : gridTemplateFeature = f := by simpa [find?] using hf
  exact ⟨⟨hcamel, hkebab⟩, hsecond, hplain, hmark⟩

end Registry

end FeatureAudit
