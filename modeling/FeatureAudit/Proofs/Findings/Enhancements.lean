import Mathlib.Data.List.Pairwise
import FeatureAudit.Proofs.Findings.Partition
import FeatureAudit.Proofs.FirstWins

/-!
# What is offered beside a fallback

A use that is not of a widely available feature asks for an enhancement by a key: by its token, or by its feature where
its token is no key. Each key is answered once. Of the keys that the table has two stand for the same offer, since the
grid goes by two names, so the offer of the grid is made twice where both names are asked by, and every other offer is
made once.

* **`Enhancement.offer`**, **`offerOf?`** — what is offered, and for which key.
* **`Usage.AsksBy`** — a use asks for an enhancement by a key.
* **`mem_enhancements_iff`** — what is asked for is answered, and nothing else.
* **`offerOf?_eq_iff`** — which keys stand for one offer.
* **`enhancement_offered_once_iff`** — when no offer is made twice, and which offers are made.
* **`grid_is_offered_twice`** — one feature, asked for by both names of the grid.
-/
namespace FeatureAudit

/-! ## Offers -/

/-- What is offered: a fallback, what enhances it, and an example of both. -/
def Enhancement.offer (e : Enhancement) : String × String × String := (e.fallback, e.enhancement, e.sample)

/-- The keys of the table. -/
def enhancementKeys : List String := enhancementTable.map Prod.fst

/-- The offer for a key. -/
def offerOf? (key : String) : Option (String × String × String) :=
  (enhancementFor? key).map Enhancement.offer

variable {key key' : String} {e e' : Enhancement}

/-- The enhancement that is found under a key is for the feature of that name. -/
theorem feature_of_enhancementFor? (h : enhancementFor? key = some e) : e.feature = key := by
  obtain ⟨row, -, rfl⟩ := Option.map_eq_some_iff.1 h
  rfl

/-- No enhancement is found under a name exactly if the name is none of the keys. -/
theorem enhancementFor?_eq_none_iff : enhancementFor? key = none ↔ key ∉ enhancementKeys := by
  rw [enhancementFor?, Option.map_eq_none_iff, List.find?_eq_none]
  constructor
  · intro h hkey
    obtain ⟨row, hrow, hname⟩ := List.mem_map.1 hkey
    exact h row hrow (beq_iff_eq.2 hname)
  · intro h row hrow hname
    exact h (List.mem_map.2 ⟨row, hrow, beq_iff_eq.1 hname⟩)

/-- Wherever an enhancement is found, its name is one of the keys. -/
theorem mem_enhancementKeys_of_some (h : enhancementFor? key = some e) : key ∈ enhancementKeys := by
  by_contra hkey
  rw [enhancementFor?_eq_none_iff.2 hkey] at h
  exact absurd h (by simp)

/-- Both names of the grid stand for one offer, and no other two keys do. -/
theorem offerOf?_eq_iff (hkey : key ∈ enhancementKeys) (hkey' : key' ∈ enhancementKeys) :
    offerOf? key = offerOf? key' ↔
      key = key' ∨ key = "grid" ∧ key' = "css-grid" ∨ key = "css-grid" ∧ key' = "grid" := by
  have htable : ∀ key ∈ enhancementKeys, ∀ key' ∈ enhancementKeys, (offerOf? key = offerOf? key' ↔
      key = key' ∨ key = "grid" ∧ key' = "css-grid" ∨ key = "css-grid" ∧ key' = "grid") := by
    decide +kernel
  exact htable key hkey key' hkey'

/-! ## Uses that ask -/

/-- The use asks for an enhancement by the key: it is not of a widely available feature, and the key is its token, or
its feature where its token is no key. -/
structure Usage.AsksBy (u : Usage) (key : String) : Prop where
  tier : u.tier = some .newlyAvailable ∨ u.tier = some .limited
  known : key ∈ enhancementKeys
  named : u.token = key ∨ u.token ∉ enhancementKeys ∧ u.featureId = key

variable {u : Usage} {usages : List Usage}

/-- A usage gives an enhancement exactly if it asks for the feature of it, and it is the one found under that name.
The name of the feature is tried before the token. -/
theorem enhancement?_eq_some_iff :
    u.enhancement? = some e ↔ u.AsksBy e.feature ∧ enhancementFor? e.feature = some e := by
  have htier : (u.tier == some .newlyAvailable || u.tier == some .limited) = true ↔
      u.tier = some .newlyAvailable ∨ u.tier = some .limited := by
    rw [Bool.or_eq_true, beq_iff_eq, beq_iff_eq]
  unfold Usage.enhancement?
  by_cases h : u.tier = some .newlyAvailable ∨ u.tier = some .limited
  · rw [if_pos (htier.2 h), Option.or_eq_some_iff, enhancementFor?_eq_none_iff]
    constructor
    · -- the token asks by itself, or the feature does where the token has nothing to offer
      rintro (hfor | ⟨htoken, hfor⟩)
      · have hfeature := feature_of_enhancementFor? hfor
        exact ⟨⟨h, hfeature ▸ mem_enhancementKeys_of_some hfor, .inl hfeature.symm⟩, hfeature ▸ hfor⟩
      · have hfeature := feature_of_enhancementFor? hfor
        exact ⟨⟨h, hfeature ▸ mem_enhancementKeys_of_some hfor, .inr ⟨htoken, hfeature.symm⟩⟩, hfeature ▸ hfor⟩
    · rintro ⟨⟨-, -, htoken | ⟨htoken, hfeature⟩⟩, hfor⟩
      · exact .inl (by rw [htoken, hfor])
      · exact .inr ⟨htoken, by rw [hfeature, hfor]⟩
  · rw [if_neg fun hcon => h (htier.1 hcon)]
    constructor
    · intro hnone
      exact absurd hnone (by simp)
    · rintro ⟨hasks, -⟩
      exact absurd hasks.tier h

/-- The enhancements are those that some use asks for, by its token or by the feature that it is of. -/
theorem mem_enhancements_iff :
    e ∈ enhancements usages ↔ (∃ u ∈ usages, u.AsksBy e.feature) ∧ enhancementFor? e.feature = some e := by
  have hgiven : e ∈ usages.filterMap Usage.enhancement? ↔
      (∃ u ∈ usages, u.AsksBy e.feature) ∧ enhancementFor? e.feature = some e := by
    simp only [List.mem_filterMap, enhancement?_eq_some_iff, ← and_assoc, exists_and_right]
  constructor
  · intro h
    exact hgiven.1 (mem_of_mem_keepFirst h)
  · intro h
    -- the enhancement that is kept for the feature is the same one
    have hkept : e.feature ∈ (enhancements usages).map Enhancement.feature :=
      mem_map_keepFirst_iff.2 (List.mem_map_of_mem (hgiven.2 h))
    obtain ⟨e', he', hfeature⟩ := List.mem_map.1 hkept
    obtain ⟨u, -, hu⟩ := List.mem_filterMap.1 (mem_of_mem_keepFirst he')
    have hfor := (enhancement?_eq_some_iff.1 hu).2
    rw [hfeature, h.2] at hfor
    rwa [Option.some.inj hfor]

/-- An enhancement in a list makes the offer that stands in the table for its feature. -/
theorem offerOf?_of_mem (h : e ∈ enhancements usages) : offerOf? e.feature = some e.offer := by
  rw [offerOf?, (mem_enhancements_iff.1 h).2]
  rfl

/-- A key that is asked by is answered. -/
theorem exists_enhancement_of_asksBy (hu : u ∈ usages) (h : u.AsksBy key) :
    ∃ e ∈ enhancements usages, e.feature = key := by
  cases hfor : enhancementFor? key with
  | none => exact absurd h.known (enhancementFor?_eq_none_iff.1 hfor)
  | some e =>
    obtain rfl := feature_of_enhancementFor? hfor
    exact ⟨e, mem_enhancements_iff.2 ⟨⟨u, hu, h⟩, hfor⟩, rfl⟩

/-- An enhancement in a list was asked for by one of the usages. -/
theorem asksBy_of_mem (h : e ∈ enhancements usages) : ∃ u ∈ usages, u.AsksBy e.feature :=
  (mem_enhancements_iff.1 h).1

/-- The offers of two enhancements are the same if their keys are, or are the names of the grid. -/
theorem offer_eq_iff (h : e ∈ enhancements usages) (h' : e' ∈ enhancements usages) :
    e.offer = e'.offer ↔ e.feature = e'.feature ∨ e.feature = "grid" ∧ e'.feature = "css-grid" ∨
      e.feature = "css-grid" ∧ e'.feature = "grid" := by
  obtain ⟨u, -, hu⟩ := asksBy_of_mem h
  obtain ⟨u', -, hu'⟩ := asksBy_of_mem h'
  rw [← offerOf?_eq_iff hu.known hu'.known, offerOf?_of_mem h, offerOf?_of_mem h', Option.some_inj]

/-! ## Offers that are made once -/

/-- **An offer is made once, unless the grid is asked for by both of its names.** Otherwise no two enhancements make
the same offer. In any case each key is answered once, and the offers that are made are those of the keys that uses
ask by. -/
theorem enhancement_offered_once_iff (usages : List Usage) :
    ((enhancements usages).Pairwise (fun e e' => e.offer ≠ e'.offer) ↔
        ¬ ((∃ u ∈ usages, u.AsksBy "grid") ∧ ∃ u ∈ usages, u.AsksBy "css-grid")) ∧
      ((enhancements usages).map Enhancement.feature).Nodup ∧
      ∀ offer, (∃ e ∈ enhancements usages, e.offer = offer) ↔
        ∃ u ∈ usages, ∃ key, u.AsksBy key ∧ offerOf? key = some offer := by
  have hkeys : (enhancements usages).Pairwise fun e e' => e.feature ≠ e'.feature := keepFirst_pairwise _
  refine ⟨⟨fun honce => ?_, fun hnames => ?_⟩, List.pairwise_map.2 hkeys, fun offer => ⟨?_, ?_⟩⟩
  · rintro ⟨⟨u, hu, hgrid⟩, u', hu', hgrid'⟩
    obtain ⟨e, he, hfeature⟩ := exists_enhancement_of_asksBy hu hgrid
    obtain ⟨e', he', hfeature'⟩ := exists_enhancement_of_asksBy hu' hgrid'
    have hne : e ≠ e' := by
      rintro rfl
      exact absurd (hfeature.symm.trans hfeature') (by decide)
    have hsymm : Std.Symm fun e e' : Enhancement => e.offer ≠ e'.offer := ⟨fun _ _ h => h.symm⟩
    exact honce.forall he he' hne ((offer_eq_iff he he').2 (.inr (.inl ⟨hfeature, hfeature'⟩)))
  · refine hkeys.imp_of_mem fun {e e'} he he' hfeature hoffer => hnames ?_
    -- the keys differ, so they are the names of the grid
    rcases (offer_eq_iff he he').1 hoffer with hsame | ⟨hgrid, hgrid'⟩ | ⟨hgrid, hgrid'⟩
    · exact absurd hsame hfeature
    · exact ⟨hgrid ▸ asksBy_of_mem he, hgrid' ▸ asksBy_of_mem he'⟩
    · exact ⟨hgrid' ▸ asksBy_of_mem he', hgrid ▸ asksBy_of_mem he⟩
  · rintro ⟨e, he, rfl⟩
    obtain ⟨u, hu, hasks⟩ := asksBy_of_mem he
    exact ⟨u, hu, e.feature, hasks, offerOf?_of_mem he⟩
  · rintro ⟨u, hu, key, hasks, hoffer⟩
    obtain ⟨e, he, rfl⟩ := exists_enhancement_of_asksBy hu hasks
    rw [offerOf?_of_mem he] at hoffer
    exact ⟨e, he, Option.some.inj hoffer⟩

/-- Two uses of one feature, which is known by the one name of the grid and found under the other. -/
def gridUses : List Usage :=
  [{ Findings.limitedUse "grid" with featureId := "css-grid" },
    { Findings.limitedUse "grid-gap" with featureId := "css-grid" }]

/-- The first token is a key itself, and the second is answered by the feature of both. -/
theorem grid_is_offered_twice :
    (∀ u ∈ gridUses, u.featureId = "css-grid") ∧
      (enhancements gridUses).map Enhancement.feature = ["grid", "css-grid"] ∧
      ¬ (enhancements gridUses).Pairwise fun e e' => e.offer ≠ e'.offer := by
  decide +kernel

end FeatureAudit
