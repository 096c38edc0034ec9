import FeatureAudit.Proofs.Registry.LookupOrder
import Mathlib.Data.List.Sort

/-!
# The order of a dataset and contested keys

A registry is made of a list of features, and the order of the list decides which feature a key belongs to where two of
them claim it. It decides nothing else: the keys are those that some feature claims, in an order of their own, and the
feature of a key that one feature alone claims is that feature. Lookup goes by the index and by the keys in their order,
so it gives the same answer for every token if no key is contested, the search by containment included.

* **`IsContested`** — two features claim a key.
* **`mem_keys_iff_claimed`**, **`keys_of_perm`** — the keys do not depend on the order.
* **`find?_index_eq_some_iff_of_not_isContested`**, **`find?_index_of_perm`** — nor does the feature of a key that is
  not contested.
* **`order_matters_for_contested_keys_only`** — the registries of two orders of one list.
-/
namespace FeatureAudit

open FeatureAudit.Text

/-- Two features of the list claim the string, each in some phase. -/
def IsContested (all : List Feature) (k : String) : Prop :=
  ∃ f ∈ all, ∃ g ∈ all, f ≠ g ∧ (∃ p, f.Claims p k) ∧ ∃ q, g.Claims q k

/-- Whether a key is contested depends on which features there are and not on their order. -/
theorem isContested_of_perm {all all' : List Feature} (h : all.Perm all') {k : String} :
    IsContested all k ↔ IsContested all' k := by
  simp only [IsContested, h.mem_iff]

/-- What is in the order of search is told by its members. -/
theorem eq_of_keyBefore_of_mem_iff {α : Type} (key : α → String) {xs ys : List α}
    (hxs : xs.Pairwise fun a b => KeyBefore (key a) (key b)) (hys : ys.Pairwise fun a b => KeyBefore (key a) (key b))
    (h : ∀ a, a ∈ xs ↔ a ∈ ys) : xs = ys := by
  have hirrefl : Std.Irrefl fun a b : α => KeyBefore (key a) (key b) := ⟨fun _ hself => hself.asymm hself⟩
  have hantisymm : Std.Antisymm fun a b : α => KeyBefore (key a) (key b) :=
    ⟨fun _ _ hab hba => absurd hba hab.asymm⟩
  exact hxs.eq_of_mem_iff hys h

namespace Registry

variable {all all' : List Feature} {k : String} {f : Feature}

/-! ## Keys -/

/-- Where no identifier occurs twice, every feature of the list counts. -/
theorem exists_claimedBy_iff (hids : (all.map Feature.id).Nodup) {p : Phase} :
    (∃ i, ClaimedBy all k p i f) ↔ f ∈ all ∧ f.Claims p k := by
  have hmem : f ∈ all ↔ ∃ i, FirstAt Feature.id all i f := by
    rw [← mem_keepFirst_iff, keepFirst_of_nodup hids]
  rw [hmem]
  constructor
  · rintro ⟨i, hi⟩
    exact ⟨⟨i, hi.counts⟩, hi.claims⟩
  · rintro ⟨⟨i, hi⟩, hclaims⟩
    exact ⟨i, hi, hclaims⟩

/-- The keys are the strings that some feature claims, the empty one excepted. -/
theorem mem_keys_iff_claimed (hids : (all.map Feature.id).Nodup) :
    k ∈ (ofFeatures all).keys ↔ k ≠ "" ∧ ∃ f ∈ all, ∃ p, f.Claims p k := by
  -- a string is no key just if it is empty or no feature that counts claims it
  rw [← not_iff_not, not_mem_keys_iff, find?_index_eq_none_iff, not_and_or, not_not]
  refine or_congr_right ⟨fun h => ?_, fun h p i f hf => ?_⟩
  · rintro ⟨f, hf, p, hclaims⟩
    obtain ⟨i, hi⟩ := (exists_claimedBy_iff hids).2 ⟨hf, hclaims⟩
    exact h p i f hi
  · obtain ⟨hmem, hclaims⟩ := (exists_claimedBy_iff hids).1 ⟨i, hf⟩
    exact h ⟨f, hmem, p, hclaims⟩

/-- Features whose names are all different keep this in another order. -/
theorem nodup_ids_of_perm (hperm : all.Perm all') (hids : (all.map Feature.id).Nodup) :
    (all'.map Feature.id).Nodup :=
  (hperm.map Feature.id).nodup_iff.1 hids

/-- The keys of a registry do not depend on the order of its features: they are sorted, and which ones there are
depends on the claims alone. -/
theorem keys_of_perm (hperm : all.Perm all') (hids : (all.map Feature.id).Nodup) :
    (ofFeatures all).keys = (ofFeatures all').keys := by
  refine eq_of_keyBefore_of_mem_iff id (keys_pairwise all) (keys_pairwise all') fun k => ?_
  rw [mem_keys_iff_claimed hids, mem_keys_iff_claimed (nodup_ids_of_perm hperm hids)]
  simp only [hperm.mem_iff]

/-! ## Features of keys -/

/-- A key that is not contested belongs to the feature that claims it, whatever the phase and the place. -/
theorem find?_index_eq_some_iff_of_not_isContested (hids : (all.map Feature.id).Nodup) (h : ¬ IsContested all k) :
    find? (ofFeatures all).index k = some f ↔ k ≠ "" ∧ f ∈ all ∧ ∃ p, f.Claims p k := by
  have hclaim {g : Feature} (hg : find? (ofFeatures all).index k = some g) : k ≠ "" ∧ g ∈ all ∧ ∃ p, g.Claims p k := by
    obtain ⟨hk, p, i, hwins⟩ := find?_index_eq_some_iff.1 hg
    obtain ⟨hmem, hclaims⟩ := (exists_claimedBy_iff hids).1 ⟨i, hwins.claim⟩
    exact ⟨hk, hmem, p, hclaims⟩
  refine ⟨hclaim, ?_⟩
  rintro ⟨hk, hf, hclaims⟩
  -- the key has a feature, and two features would contest it
  have hkey := (mem_keys_iff_claimed hids).2 ⟨hk, f, hf, hclaims⟩
  obtain ⟨g, hg⟩ := Option.isSome_iff_exists.1 (mem_keys_iff_isSome.1 hkey)
  obtain ⟨-, hmem, hclaims'⟩ := hclaim hg
  by_cases hfg : f = g
  · rw [hg, hfg]
  · exact absurd ⟨f, hf, g, hmem, hfg, hclaims, hclaims'⟩ h

/-- A key that is not contested leads to the same feature in every order, the only one that claims it. -/
theorem find?_index_of_perm (hperm : all.Perm all') (hids : (all.map Feature.id).Nodup) (h : ¬ IsContested all k) :
    find? (ofFeatures all).index k = find? (ofFeatures all').index k := by
  have h' : ¬ IsContested all' k := fun hcontested => h ((isContested_of_perm hperm).2 hcontested)
  ext f
  rw [find?_index_eq_some_iff_of_not_isContested hids h,
    find?_index_eq_some_iff_of_not_isContested (nodup_ids_of_perm hperm hids) h', hperm.mem_iff]

/-- Where names are all different, a name leads to the one feature that has it. -/
theorem get?_eq_some_iff_of_nodup (hids : (all.map Feature.id).Nodup) {id : String} :
    (ofFeatures all).get? id = some f ↔ f ∈ all ∧ f.id = id := by
  have hfeatures : (ofFeatures all).get? id = all.find? fun f => f.id == id := find?_keepFirst Feature.id id all
  rw [hfeatures, find?_key_eq_some_iff hids]

/-- Where names are all different, they lead to the same features in every order. -/
theorem get?_of_perm (hperm : all.Perm all') (hids : (all.map Feature.id).Nodup) (id : String) :
    (ofFeatures all).get? id = (ofFeatures all').get? id := by
  ext f
  rw [get?_eq_some_iff_of_nodup hids, get?_eq_some_iff_of_nodup (nodup_ids_of_perm hperm hids), hperm.mem_iff]

/-! ## Lookup -/

/-- An index in the order of search is told by the features of its keys. -/
theorem ordered_congr (h : find? (ofFeatures all).index = find? (ofFeatures all').index) :
    ordered all = ordered all' := by
  refine eq_of_keyBefore_of_mem_iff Prod.fst (ordered_pairwise all) (ordered_pairwise all') fun e => ?_
  rw [mem_ordered_iff, mem_ordered_iff, h]

/-- Registries whose keys lead to the same features look up every token alike, since each stage of a lookup goes by
the keys. -/
theorem lookup_congr (h : find? (ofFeatures all).index = find? (ofFeatures all').index) (token : String) :
    (ofFeatures all).lookup token = (ofFeatures all').lookup token := by
  have hsearch (text : List Char) : (ofFeatures all).searchFor text = (ofFeatures all').searchFor text := by
    rw [searchFor, searchFor, search_eq, search_eq, ordered_congr h]
  rw [lookup, lookup, h, hsearch]

/-- **The order of a dataset matters for contested keys only.** Two orders of one list of features, in which no
identifier occurs twice, have the same keys in the same order, the same feature under each identifier, and the same
feature for each key that is not contested; and where no key is, every token stands for the same feature. -/
theorem order_matters_for_contested_keys_only {all all' : List Feature} (hperm : all.Perm all')
    (hids : (all.map Feature.id).Nodup) :
    (ofFeatures all).keys = (ofFeatures all').keys ∧
      (∀ id, (ofFeatures all).get? id = (ofFeatures all').get? id) ∧
      (∀ k, ¬ IsContested all k → find? (ofFeatures all).index k = find? (ofFeatures all').index k) ∧
      ((∀ k, k ≠ "" → ¬ IsContested all k) →
        ∀ token, (ofFeatures all).lookup token = (ofFeatures all').lookup token) := by
  refine ⟨keys_of_perm hperm hids, get?_of_perm hperm hids, fun k h => find?_index_of_perm hperm hids h,
    fun h => lookup_congr ?_⟩
  funext k
  by_cases hk : k = ""
  · rw [hk, find?_index_empty, find?_index_empty]
  · exact find?_index_of_perm hperm hids (h k hk)

/-- A feature without compatibility keys and aliases, whose name is its identifier in another case, claims that alone. -/
theorem eq_id_of_claims (hname : lower f.name = f.id) (hkeys : f.compatKeys = []) (haliases : f.aliases = [])
    {p : Phase} (h : f.Claims p k) : k = f.id := by
  cases p with
  | identifier => exact h
  | name => exact Eq.trans h hname
  | compatKey => exact absurd h (by simp [Feature.Claims, hkeys])
  | bareProperty => exact absurd h (by simp [Feature.Claims, hkeys])
  | otherName => exact absurd h (by simp [Feature.Claims, haliases])

/-- Whichever of two features comes first, a token that is no key is found in the same one of two that contain it. -/
theorem order_matters_for_contested_keys_only_of_two :
    ([subgridFeature, gridFeature].Perm [gridFeature, subgridFeature] ∧
        ([subgridFeature, gridFeature].map Feature.id).Nodup ∧
        ∀ k, k ≠ "" → ¬ IsContested [subgridFeature, gridFeature] k) ∧
      (ofFeatures [subgridFeature, gridFeature]).keys = (ofFeatures [gridFeature, subgridFeature]).keys ∧
      (ofFeatures [subgridFeature, gridFeature]).lookup "GRI" =
        (ofFeatures [gridFeature, subgridFeature]).lookup "GRI" := by
  have hperm : [subgridFeature, gridFeature].Perm [gridFeature, subgridFeature] := List.Perm.swap _ _ []
  have hids : ([subgridFeature, gridFeature].map Feature.id).Nodup := by decide
  have hsubgrid {p : Phase} {k : String} (h : subgridFeature.Claims p k) : k = "subgrid" :=
    eq_id_of_claims (by decide +kernel) rfl rfl h
  have hgrid {p : Phase} {k : String} (h : gridFeature.Claims p k) : k = "grid" :=
    eq_id_of_claims (by decide +kernel) rfl rfl h
  have huncontested : ∀ k, k ≠ "" → ¬ IsContested [subgridFeature, gridFeature] k := by
    -- each feature claims its identifier alone, and the two identifiers differ
    rintro k - ⟨f, hf, g, hg, hne, ⟨p, hp⟩, q, hq⟩
    simp only [List.mem_cons, List.not_mem_nil, or_false] at hf hg
    rcases hf with rfl | rfl <;> rcases hg with rfl | rfl
    · exact hne rfl
    · exact absurd ((hsubgrid hp).symm.trans (hgrid hq)) (by decide)
    · exact absurd ((hsubgrid hq).symm.trans (hgrid hp)) (by decide)
    · exact hne rfl
  obtain ⟨hkeys, -, -, hlookup⟩ := order_matters_for_contested_keys_only hperm hids
  exact ⟨⟨hperm, hids, huncontested⟩, hkeys, hlookup huncontested "GRI"⟩

end Registry

end FeatureAudit
