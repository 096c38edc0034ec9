import FeatureAudit.Proofs.Registry.Precedence
import FeatureAudit.Proofs.Text.LowerCase

/-!
# The order of lookup

A token is looked up in four stages: as it stands, lowered, in its other spellings, and last among
all keys by containment, where the shortest key and then the least in code-point order answers.

* **`KeyBefore`**, **`Registry.Matches`** — the order of search, and what the search looks for.
* **`keys_pairwise`** — the keys are strictly increasing in the order of search.
* **`searchFor_eq_some_iff`** — the search finds the least of all matching keys.
* **`Resolves`** — the four stages as one relation.
* **`lookup_in_documented_order`** — lookup follows them, and fails only where nothing matches.
-/
namespace FeatureAudit

open FeatureAudit.Text

/-! ## The order of keys -/

/-- The key comes before the other in the order of search: it is shorter, or as long and before it
in code-point order. -/
def KeyBefore (a b : String) : Prop := a.length < b.length ∨ a.length = b.length ∧ a < b

/-- Keys are sorted by length and then by their characters: a key is not after another exactly if it is before it or
equal. -/
theorem keyLe_iff {a b : String} : keyLe a b = true ↔ KeyBefore a b ∨ a = b := by
  simp only [keyLe, textLe, KeyBefore, Bool.or_eq_true, Bool.and_eq_true, decide_eq_true_eq,
    beq_iff_eq]
  constructor
  · -- keys of one length go by their text, where one is before the other or they are the same
    rintro (h | ⟨hlength, hle⟩)
    · exact Or.inl (Or.inl h)
    · by_cases hab : a = b
      · exact Or.inr hab
      · exact Or.inl (Or.inr ⟨hlength, String.not_le.1 fun h => hab (String.le_antisymm hle h)⟩)
  · rintro ((h | ⟨hlength, hlt⟩) | rfl)
    · exact Or.inl h
    · exact Or.inr ⟨hlength, String.not_lt.1 fun h => String.lt_asymm hlt h⟩
    · exact Or.inr ⟨rfl, String.le_refl a⟩

theorem KeyBefore.asymm {a b : String} (h : KeyBefore a b) : ¬ KeyBefore b a := by
  rintro (h' | ⟨hlength', hlt'⟩)
  · rcases h with h | h <;> omega
  · rcases h with h | ⟨-, hlt⟩
    · omega
    · exact String.lt_asymm hlt hlt'

/-- What is before a key is before all that the key is before. The cases are whether lengths decide. -/
theorem KeyBefore.trans {a b c : String} (hab : KeyBefore a b) (hbc : KeyBefore b c) :
    KeyBefore a c := by
  rcases hab with hab | ⟨hlength, hab⟩
  · rcases hbc with hbc | ⟨hlength', -⟩
    · exact Or.inl (by omega)
    · exact Or.inl (by omega)
  · rcases hbc with hbc | ⟨hlength', hbc⟩
    · exact Or.inl (by omega)
    · exact Or.inr ⟨by omega, String.lt_trans hab hbc⟩

/-- Of two different keys one is before the other: the shorter one, and of keys of one length the one that comes first
by characters. -/
theorem keyBefore_total (a b : String) : KeyBefore a b ∨ a = b ∨ KeyBefore b a := by
  by_cases hab : a = b
  · exact Or.inr (Or.inl hab)
  · rcases Nat.lt_trichotomy a.length b.length with h | h | h
    · exact Or.inl (Or.inl h)
    · by_cases hle : a ≤ b
      · have hlt : a < b := String.not_le.1 fun h' => hab (String.le_antisymm hle h')
        exact Or.inl (Or.inr ⟨h, hlt⟩)
      · exact Or.inr (Or.inr (Or.inr ⟨h.symm, String.not_le.1 hle⟩))
    · exact Or.inr (Or.inr (Or.inl h))

theorem keyLe_trans {a b c : String} (hab : keyLe a b = true) (hbc : keyLe b c = true) :
    keyLe a c = true := by
  rw [keyLe_iff] at hab hbc ⊢
  rcases hab with hab | rfl
  · rcases hbc with hbc | rfl
    · exact Or.inl (hab.trans hbc)
    · exact Or.inl hab
  · exact hbc

theorem keyLe_total (a b : String) : (keyLe a b || keyLe b a) = true := by
  rw [Bool.or_eq_true, keyLe_iff, keyLe_iff]
  rcases keyBefore_total a b with h | h | h
  · exact Or.inl (Or.inl h)
  · exact Or.inl (Or.inr h)
  · exact Or.inr (Or.inl h)

namespace Registry

/-! ## The index in the order of search -/

/-- The entries of the index in the order of search. -/
def ordered (all : List Feature) : List (String × Feature) :=
  (ofFeatures all).index.mergeSort fun a b => keyLe a.1 b.1

/-- The keys of a registry are those of its index, in order. -/
theorem keys_eq (all : List Feature) : (ofFeatures all).keys = (ordered all).map Prod.fst := rfl

/-- A search goes through the keys in order, each with its name in small letters. -/
theorem search_eq (all : List Feature) :
    (ofFeatures all).search =
      (ordered all).map fun e => ⟨lowerChars e.1.toList, lowerChars e.2.name.toList, e.2⟩ := rfl

/-- The index of a registry keeps the first claim to each key, without the empty one. -/
theorem index_eq (all : List Feature) :
    (ofFeatures all).index = keepFirst Prod.fst
      ((claims (keepFirst Feature.id all)).filter fun e => !e.1.isEmpty) := rfl

/-- Each key stands in the index once, so what a search for a key finds is the one entry that has it. -/
theorem index_pairwise (all : List Feature) :
    (ofFeatures all).index.Pairwise fun a b => a.1 ≠ b.1 := by
  rw [index_eq]
  exact keepFirst_pairwise _

/-- An entry is in the index exactly if its key leads to its feature. Keys occur there once, so nothing is shadowed.
-/
theorem mem_index_iff {all : List Feature} {e : String × Feature} :
    e ∈ (ofFeatures all).index ↔ find? (ofFeatures all).index e.1 = some e.2 := by
  have hkeys : ((ofFeatures all).index.map Prod.fst).Nodup := List.pairwise_map.2 (index_pairwise all)
  rw [find?, Option.map_eq_some_iff]
  constructor
  · intro he
    exact ⟨e, (find?_key_eq_some_iff hkeys).2 ⟨he, rfl⟩, rfl⟩
  · rintro ⟨e', hfound, hfeature⟩
    obtain ⟨he', hkey⟩ := (find?_key_eq_some_iff hkeys).1 hfound
    exact Prod.ext hkey hfeature ▸ he'

/-- Sorting leaves the entries of the index as they are. -/
theorem mem_ordered_iff {all : List Feature} {e : String × Feature} :
    e ∈ ordered all ↔ find? (ofFeatures all).index e.1 = some e.2 := by
  rw [ordered, List.mem_mergeSort, mem_index_iff]

/-- Entries with different keys are strictly increasing once they are sorted. -/
theorem pairwise_mergeSort_keyLe {entries : List (String × Feature)}
    (h : entries.Pairwise fun a b => a.1 ≠ b.1) :
    (entries.mergeSort fun a b => keyLe a.1 b.1).Pairwise fun a b => KeyBefore a.1 b.1 := by
  have hsorted := List.pairwise_mergeSort
    (fun a b c : String × Feature => @keyLe_trans a.1 b.1 c.1) (fun a b => keyLe_total a.1 b.1)
    entries
  -- sorting permutes the entries, so it keeps their keys different
  have hdistinct := ((List.mergeSort_perm entries fun a b => keyLe a.1 b.1).pairwise_iff
    fun hne => Ne.symm hne).2 h
  refine hsorted.imp₂ (fun a b hle hne => ?_) hdistinct
  exact (keyLe_iff.1 hle).resolve_right hne

/-- In the sorted index each key is strictly before those behind it. -/
theorem ordered_pairwise (all : List Feature) :
    (ordered all).Pairwise fun a b => KeyBefore a.1 b.1 :=
  pairwise_mergeSort_keyLe (index_pairwise all)

/-- **The keys are strictly increasing** by length and then by code points. -/
theorem keys_pairwise (all : List Feature) : (ofFeatures all).keys.Pairwise KeyBefore := by
  rw [keys_eq, List.pairwise_map]
  exact ordered_pairwise all

/-! ## The search by containment -/

/-- The lowered token is a run of the lowered text. -/
def Contains (text token : String) : Prop :=
  lowerChars token.toList <:+: lowerChars text.toList

/-- The key of the feature, or the display name of the feature, contains the token. -/
def Matches (r : Registry) (token k : String) (f : Feature) : Prop :=
  find? r.index k = some f ∧ (Contains k token ∨ Contains f.name token)

/-- The test for a run of characters in a text finds it exactly if it is there. -/
theorem occursIn_iff_isInfix {run cs : List Char} : occursIn run cs = true ↔ run <:+: cs := by
  rw [occursIn_iff]
  constructor
  · rintro ⟨a, b, h⟩
    exact ⟨a, b, h.symm⟩
  · rintro ⟨a, b, h⟩
    exact ⟨a, b, h.symm⟩

/-- The search finds the feature of the least of all matching keys. -/
theorem searchFor_eq_some_iff {all : List Feature} {token : String} {f : Feature} :
    (ofFeatures all).searchFor (lowerChars token.toList) = some f ↔
      ∃ k, Matches (ofFeatures all) token k f ∧
        ∀ k' g, Matches (ofFeatures all) token k' g → k = k' ∨ KeyBefore k k' := by
  have hmatches : ∀ e ∈ ordered all,
      (occursIn (lowerChars token.toList) (lowerChars e.1.toList) ||
        occursIn (lowerChars token.toList) (lowerChars e.2.name.toList)) = true ↔
      Matches (ofFeatures all) token e.1 e.2 := by
    intro e he
    rw [Bool.or_eq_true, occursIn_iff_isInfix, occursIn_iff_isInfix, Matches,
      and_iff_right (mem_ordered_iff.1 he)]
    rfl
  rw [searchFor, search_eq, List.find?_map, Option.map_map, Option.map_eq_some_iff]
  constructor
  · rintro ⟨e, hfound, rfl⟩
    obtain ⟨hocc, before, after, hsplit, hnot⟩ := List.find?_eq_some_iff_append.1 hfound
    have hmem : e ∈ ordered all := by rw [hsplit]; simp
    refine ⟨e.1, (hmatches e hmem).1 hocc, fun k' g hg => ?_⟩
    have hg' : (k', g) ∈ ordered all := mem_ordered_iff.2 hg.1
    have hsorted := ordered_pairwise all
    rw [hsplit] at hg' hsorted
    rcases List.mem_append.1 hg' with hbefore | hrest
    · -- an earlier entry does not match
      have hmatch := (hmatches (k', g) (hsplit ▸ hg')).2 hg
      have hno := hnot _ hbefore
      simp only [Function.comp_apply, hmatch, Bool.not_true, Bool.false_eq_true] at hno
    · rcases List.mem_cons.1 hrest with rfl | hafter
      · exact Or.inl rfl
      · exact Or.inr (List.rel_of_pairwise_cons (List.pairwise_append.1 hsorted).2.1 hafter)
  · rintro ⟨k, hk, hleast⟩
    have hmem : (k, f) ∈ ordered all := mem_ordered_iff.2 hk.1
    refine ⟨(k, f), List.find?_eq_some_iff_append.2 ⟨(hmatches _ hmem).2 hk, ?_⟩, rfl⟩
    obtain ⟨before, after, hsplit⟩ := List.append_of_mem hmem
    refine ⟨before, after, hsplit, fun e he => ?_⟩
    -- an earlier entry that matched would come both before and after the least one
    have hsorted := ordered_pairwise all
    rw [hsplit] at hsorted
    have hbefore : KeyBefore e.1 k := (List.pairwise_append.1 hsorted).2.2 e he (k, f) (by simp)
    have hemem : e ∈ ordered all := by rw [hsplit]; simp [he]
    rw [Bool.not_eq_true', Bool.eq_false_iff]
    intro hocc
    rcases hleast e.1 e.2 ((hmatches e hemem).1 hocc) with heq | hafter
    · exact (heq ▸ hbefore).asymm (heq ▸ hbefore)
    · exact hbefore.asymm hafter

/-! ## The four stages -/

/-- The token stands for the feature: by the first of the four stages that has an answer. -/
inductive Resolves (r : Registry) (token : String) (f : Feature) : Prop where
  | exact (hkey : find? r.index token = some f)
  | lowered (hexact : token ∉ r.keys) (hkey : find? r.index (lower token) = some f)
  | spelled (hexact : token ∉ r.keys) (hlowered : lower token ∉ r.keys)
      (before after : List String) (v : String)
      (hsplit : variations token = before ++ v :: after) (hbefore : ∀ w ∈ before, w ∉ r.keys)
      (hkey : find? r.index v = some f)
  | contained (hexact : token ∉ r.keys) (hlowered : lower token ∉ r.keys)
      (hspelled : ∀ v ∈ variations token, v ∉ r.keys) (k : String)
      (hmatch : Matches r token k f)
      (hleast : ∀ k' g, Matches r token k' g → k = k' ∨ KeyBefore k k')

/-- A text is no key exactly if the index has nothing for it. -/
theorem not_mem_keys_iff {all : List Feature} {k : String} :
    k ∉ (ofFeatures all).keys ↔ find? (ofFeatures all).index k = none := by
  rw [mem_keys_iff_isSome, Bool.not_eq_true, Option.isSome_eq_false_iff, Option.isNone_iff_eq_none]

/-- The search of the third stage: the first spelling that is a key. -/
theorem findSome?_variations_eq_none_iff {all : List Feature} {token : String} :
    (variations token).findSome? (find? (ofFeatures all).index) = none ↔
      ∀ v ∈ variations token, v ∉ (ofFeatures all).keys := by
  simp only [List.findSome?_eq_none_iff, not_mem_keys_iff]

/-- What is looked up is resolved in one of four ways. The stages of a lookup are taken one after the other, and in
each the ones before it have failed. -/
theorem resolves_of_lookup {all : List Feature} {token : String} {f : Feature}
    (h : (ofFeatures all).lookup token = some f) : Resolves (ofFeatures all) token f := by
  rw [lookup] at h
  split at h
  · exact absurd h (by simp)
  · split at h
    · rename_i g hkey
      exact .exact (hkey.trans h)
    · -- the token is no key as it stands
      rename_i hexact
      rw [← not_mem_keys_iff] at hexact
      split at h
      · rename_i g hkey
        exact .lowered hexact (hkey.trans h)
      · -- nor is it one in small letters
        rename_i hlowered
        rw [← not_mem_keys_iff] at hlowered
        split at h
        · rename_i g hkey
          obtain ⟨before, v, after, hsplit, hv, hbefore⟩ := List.findSome?_eq_some_iff.1 hkey
          exact .spelled hexact hlowered before after v hsplit
            (fun w hw => not_mem_keys_iff.2 (hbefore w hw)) (hv.trans h)
        · -- nor is any of its spellings, so the keys are searched
          rename_i hspelled
          obtain ⟨k, hmatch, hleast⟩ := searchFor_eq_some_iff.1 h
          exact .contained hexact hlowered (findSome?_variations_eq_none_iff.1 hspelled) k hmatch
            hleast

/-- What is resolved in one of the four ways is looked up: the stages before it fail, and it is found in its own. -/
theorem lookup_of_resolves {all : List Feature} {token : String} {f : Feature} (h : token ≠ "")
    (hf : Resolves (ofFeatures all) token f) : (ofFeatures all).lookup token = some f := by
  have hempty : token.isEmpty = false := by simpa using h
  cases hf with
  | exact hkey => simp [lookup, hempty, hkey]
  | lowered hexact hkey => simp [lookup, hempty, not_mem_keys_iff.1 hexact, hkey]
  | spelled hexact hlowered before after v hsplit hbefore hkey =>
    -- no earlier spelling is a key, so the search of the spellings ends at this one
    have hfirst : (variations token).findSome? (find? (ofFeatures all).index) = some f :=
      List.findSome?_eq_some_iff.2 ⟨before, v, after, hsplit, hkey,
        fun w hw => not_mem_keys_iff.1 (hbefore w hw)⟩
    simp [lookup, hempty, not_mem_keys_iff.1 hexact, not_mem_keys_iff.1 hlowered, hfirst]
  | contained hexact hlowered hspelled k hmatch hleast =>
    have hsearch := searchFor_eq_some_iff.2 ⟨k, hmatch, hleast⟩
    have hnone := findSome?_variations_eq_none_iff.2 hspelled
    simp [lookup, hempty, not_mem_keys_iff.1 hexact, not_mem_keys_iff.1 hlowered, hnone, hsearch]

/-- If a key matches, then a least one does: the search does not come back empty. -/
theorem exists_searchFor_of_matches {all : List Feature} {token k : String} {f : Feature}
    (h : Matches (ofFeatures all) token k f) :
    ∃ g, (ofFeatures all).searchFor (lowerChars token.toList) = some g := by
  rw [← Option.isSome_iff_exists, searchFor, Option.isSome_map, List.find?_isSome, search_eq]
  have hmem : (k, f) ∈ ordered all := mem_ordered_iff.2 h.1
  refine ⟨_, List.mem_map.2 ⟨(k, f), hmem, rfl⟩, ?_⟩
  rw [Bool.or_eq_true, occursIn_iff_isInfix, occursIn_iff_isInfix]
  exact h.2

/-- A token is not found iff none of its spellings is a key and no key matches it. That it is no key
itself, nor lowered, is part of the second: a key contains itself. -/
theorem lookup_eq_none_iff {all : List Feature} {token : String} (h : token ≠ "") :
    (ofFeatures all).lookup token = none ↔
      (∀ v ∈ variations token, v ∉ (ofFeatures all).keys) ∧
        ∀ k f, ¬ Matches (ofFeatures all) token k f := by
  constructor
  · intro hnone
    have hno : ∀ f, ¬ Resolves (ofFeatures all) token f := fun f hf => by
      rw [lookup_of_resolves h hf] at hnone
      exact absurd hnone (by simp)
    have hexact : token ∉ (ofFeatures all).keys := by
      rw [not_mem_keys_iff, Option.eq_none_iff_forall_ne_some]
      exact fun f hkey => hno f (.exact hkey)
    have hlowered : lower token ∉ (ofFeatures all).keys := by
      rw [not_mem_keys_iff, Option.eq_none_iff_forall_ne_some]
      exact fun f hkey => hno f (.lowered hexact hkey)
    have hspelled : ∀ v ∈ variations token, v ∉ (ofFeatures all).keys := by
      rw [← findSome?_variations_eq_none_iff, Option.eq_none_iff_forall_ne_some]
      intro f hfirst
      obtain ⟨before, v, after, hsplit, hkey, hbefore⟩ := List.findSome?_eq_some_iff.1 hfirst
      exact hno f (.spelled hexact hlowered before after v hsplit
        (fun w hw => not_mem_keys_iff.2 (hbefore w hw)) hkey)
    refine ⟨hspelled, fun k f hmatch => ?_⟩
    -- a matching key would give the last stage an answer
    obtain ⟨g, hg⟩ := exists_searchFor_of_matches hmatch
    obtain ⟨k', hmatch', hleast⟩ := searchFor_eq_some_iff.1 hg
    exact hno g (.contained hexact hlowered hspelled k' hmatch' hleast)
  · rintro ⟨hspelled, hmatches⟩
    rw [Option.eq_none_iff_forall_ne_some]
    intro f hf
    -- the token and its lowered form are contained in themselves, so every stage leads to a match
    cases resolves_of_lookup hf with
    | exact hkey => exact hmatches token f ⟨hkey, Or.inl List.infix_rfl⟩
    | lowered _ hkey =>
      have hlower : lowerChars (lower token).toList = lowerChars token.toList := by
        rw [lower, String.toList_ofList, lowerChars_lowerChars]
      have hcontains : Contains (lower token) token := by
        unfold Contains
        exact hlower.symm ▸ List.infix_rfl
      exact hmatches (lower token) f ⟨hkey, Or.inl hcontains⟩
    | spelled _ _ before after v hsplit _ hkey =>
      refine hspelled v (by rw [hsplit]; simp) ?_
      rw [mem_keys_iff_isSome, hkey]
      rfl
    | contained _ _ _ k hmatch _ => exact hmatches k f hmatch

/-- The features of the index are the ones that `get?` finds by their identifiers. -/
theorem get?_of_find? {all : List Feature} {k : String} {f : Feature}
    (h : find? (ofFeatures all).index k = some f) : (ofFeatures all).get? f.id = some f := by
  obtain ⟨-, p, i, hwins⟩ := find?_index_eq_some_iff.1 h
  refine find?_keepFirst_eq_some_iff.2 ⟨by simp, i, hwins.claim.counts, fun j g hj hg => ?_⟩
  simpa using hwins.claim.counts.2 j g hj hg.1

/-- Whichever way a token is resolved, its feature is found again under its own name. -/
theorem get?_of_resolves {all : List Feature} {token : String} {f : Feature}
    (h : Resolves (ofFeatures all) token f) : (ofFeatures all).get? f.id = some f := by
  cases h with
  | exact hkey => exact get?_of_find? hkey
  | lowered _ hkey => exact get?_of_find? hkey
  | spelled _ _ _ _ _ _ _ hkey => exact get?_of_find? hkey
  | contained _ _ _ _ hmatch _ => exact get?_of_find? hmatch.1

/-- **Lookup follows the documented order.** A token stands for the feature of the first stage that
has an answer; it is not found only where no spelling is a key and no key matches; whatever is
found is the feature of its identifier; and the keys are strictly increasing. -/
theorem lookup_in_documented_order (all : List Feature) (token : String) (h : token ≠ "") :
    (∀ f, (ofFeatures all).lookup token = some f ↔ Resolves (ofFeatures all) token f) ∧
      ((ofFeatures all).lookup token = none ↔
        (∀ v ∈ variations token, v ∉ (ofFeatures all).keys) ∧
          ∀ k f, ¬ Matches (ofFeatures all) token k f) ∧
      (∀ f, (ofFeatures all).lookup token = some f → (ofFeatures all).get? f.id = some f) ∧
      (ofFeatures all).keys.Pairwise KeyBefore := by
  refine ⟨fun f => ⟨resolves_of_lookup, lookup_of_resolves h⟩, lookup_eq_none_iff h, ?_,
    keys_pairwise all⟩
  intro f hf
  exact get?_of_resolves (resolves_of_lookup hf)

/-- A feature whose key holds the key of another. -/
def subgridFeature : Feature := ⟨"subgrid", "Subgrid", .newlyAvailable, [], [], []⟩

/-- The feature with the shorter key. -/
def gridFeature : Feature := ⟨"grid", "Grid", .widelyAvailable, [], [], []⟩

/-- Of two keys that contain the token the shorter one answers, though it is registered last. -/
theorem lookup_in_documented_order_shortest :
    "GRI" ≠ "" ∧ Resolves (ofFeatures [subgridFeature, gridFeature]) "GRI" gridFeature := by
  have hindex : (ofFeatures [subgridFeature, gridFeature]).index =
      [("subgrid", subgridFeature), ("grid", gridFeature)] := by
    decide +kernel
  have hordered : ordered [subgridFeature, gridFeature] =
      [("grid", gridFeature), ("subgrid", subgridFeature)] := by
    have hle : keyLe "subgrid" "grid" = false := by decide +kernel
    rw [ordered, hindex]
    simp [List.mergeSort, List.MergeSort.Internal.splitInTwo, hle]
  -- the first three stages have no answer
  have hexact : find? (ofFeatures [subgridFeature, gridFeature]).index "GRI" = none := by
    rw [hindex]
    decide
  have hlowered : find? (ofFeatures [subgridFeature, gridFeature]).index (lower "GRI") = none := by
    rw [hindex]
    decide +kernel
  have hspelled : (variations "GRI").findSome?
      (find? (ofFeatures [subgridFeature, gridFeature]).index) = none := by
    rw [hindex]
    decide +kernel
  have hsearch : (ofFeatures [subgridFeature, gridFeature]).searchFor (lowerChars "GRI".toList) =
      some gridFeature := by
    rw [searchFor, search_eq, hordered]
    decide +kernel
  have hlookup : (ofFeatures [subgridFeature, gridFeature]).lookup "GRI" = some gridFeature := by
    rw [lookup, hexact, hlowered, hspelled, hsearch]
    rfl
  have hdocumented :=
    lookup_in_documented_order [subgridFeature, gridFeature] "GRI" (by decide)
  exact ⟨by decide, (hdocumented.1 gridFeature).1 hlookup⟩

end Registry

end FeatureAudit
