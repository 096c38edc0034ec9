import FeatureAudit.Proofs.FirstWins
import FeatureAudit.Registry

/-!
# Precedence of claims on a key

A key of the registry belongs to the first feature that claims it, phase by phase and, within a
phase, by place in the list. Features whose identifier an earlier feature has do not count.

* **`Phase`**, **`Feature.Claims`** — the five phases, and what a feature claims in each.
* **`ClaimedBy`**, **`Wins`** — a claim of a feature that counts, and the claim before all others.
* **`find?_index_eq_some_iff`** — the index holds the winners and nothing else.
* **`first_claim_wins`** — keys, winners and identifiers together.
-/
namespace FeatureAudit

open FeatureAudit.Text

/-! ## Phases and claims -/

/-- The phases in which keys are claimed. -/
inductive Phase where
  | identifier
  | name
  | compatKey
  | bareProperty
  | otherName
  deriving DecidableEq, Repr

namespace Phase

/-- The phases in their order. -/
def all : List Phase := [.identifier, .name, .compatKey, .bareProperty, .otherName]

/-- The position of a phase. -/
def rank : Phase → Nat
  | .identifier => 0
  | .name => 1
  | .compatKey => 2
  | .bareProperty => 3
  | .otherName => 4

/-- The keys that a feature claims in a phase, in the order in which they are registered. -/
def keys : Phase → Feature → List String
  | .identifier, f => [f.id]
  | .name, f => [lower f.name]
  | .compatKey, f => f.compatKeys
  | .bareProperty, f => f.compatKeys.filterMap bareProperty?
  | .otherName, f => f.sortedAliases

theorem mem_all (p : Phase) : p ∈ all := by
  cases p <;> decide

/-- The phases are listed in the order of their ranks. -/
theorem all_pairwise : all.Pairwise fun p q => p.rank < q.rank := by
  decide

theorem eq_of_rank_eq {p q : Phase} (h : p.rank = q.rank) : p = q := by
  cases p <;> cases q <;> simp_all [rank]

/-- A search through the phases ends at the least one that has an answer. -/
theorem findSome?_all_eq_some_iff {α : Type} {F : Phase → Option α} {a : α} :
    all.findSome? F = some a ↔ ∃ p, F p = some a ∧ ∀ q, q.rank < p.rank → F q = none := by
  have hsorted := all_pairwise
  rw [List.findSome?_eq_some_iff]
  constructor
  · rintro ⟨before, p, after, hall, hp, hnone⟩
    refine ⟨p, hp, fun q hq => ?_⟩
    have hmem := mem_all q
    rw [hall] at hmem hsorted
    rcases List.mem_append.1 hmem with hbefore | hrest
    · exact hnone q hbefore
    · -- phases are listed by rank, so no later one is smaller
      rcases List.mem_cons.1 hrest with rfl | hafter
      · exact absurd hq (Nat.lt_irrefl _)
      · have := List.rel_of_pairwise_cons (List.pairwise_append.1 hsorted).2.1 hafter
        omega
  · rintro ⟨p, hp, hleast⟩
    obtain ⟨before, after, hall⟩ := List.append_of_mem (mem_all p)
    refine ⟨before, p, after, hall, hp, fun q hq => hleast q ?_⟩
    rw [hall] at hsorted
    exact (List.pairwise_append.1 hsorted).2.2 q hq p (by simp)

end Phase

/-- The string is a key that the feature claims in the phase. -/
def Feature.Claims (f : Feature) : Phase → String → Prop
  | .identifier, k => k = f.id
  | .name, k => k = lower f.name
  | .compatKey, k => k ∈ f.compatKeys
  | .bareProperty, k => propertyMark ++ k ∈ f.compatKeys
  | .otherName, k => k ∈ f.aliases

/-- A key stands for a bare property exactly if it is the mark of properties with that name behind it. -/
theorem bareProperty?_eq_some_iff {key k : String} :
    bareProperty? key = some k ↔ key = propertyMark ++ k := by
  simp only [bareProperty?, Option.map_eq_some_iff, List.isPrefixOf?_eq_some_iff_append_eq]
  constructor
  · rintro ⟨rest, hkey, rfl⟩
    rw [← String.toList_inj, String.toList_append, String.toList_ofList, hkey]
  · rintro rfl
    exact ⟨k.toList, by rw [String.toList_append], String.ofList_toList⟩

/-- The aliases of a feature are the same before and after they are sorted and listed once. -/
theorem mem_sortedAliases_iff {f : Feature} {k : String} : k ∈ f.sortedAliases ↔ k ∈ f.aliases := by
  rw [Feature.sortedAliases, List.mem_mergeSort, mem_distinct_iff]

/-- A feature has a key in a phase exactly if it claims the key in that phase. There is one case for each phase. -/
theorem Phase.mem_keys_iff {p : Phase} {f : Feature} {k : String} :
    k ∈ p.keys f ↔ f.Claims p k := by
  cases p with
  | identifier => simp [Phase.keys, Feature.Claims]
  | name => simp [Phase.keys, Feature.Claims]
  | compatKey => rfl
  | bareProperty =>
    simp only [Phase.keys, Feature.Claims, List.mem_filterMap, bareProperty?_eq_some_iff]
    constructor
    · rintro ⟨key, hkey, rfl⟩
      exact hkey
    · intro h
      exact ⟨_, h, rfl⟩
  | otherName => exact mem_sortedAliases_iff

/-! ## Winning claims -/

/-- At a place of the list stands a feature that counts and claims the key in the phase. -/
structure ClaimedBy (all : List Feature) (k : String) (p : Phase) (i : Nat) (f : Feature) :
    Prop where
  counts : FirstAt Feature.id all i f
  claims : f.Claims p k

/-- The claim comes before every other claim on the key: by phase, then by place. -/
structure Wins (all : List Feature) (k : String) (p : Phase) (i : Nat) (f : Feature) :
    Prop where
  claim : ClaimedBy all k p i f
  least : ∀ q j g, ClaimedBy all k q j g → p.rank < q.rank ∨ p = q ∧ i ≤ j

namespace Registry

/-! ## The index

The claims of the registry are those of the phases in their order, so a search in the index is a
search through the phases, and in each through the features that count. -/

/-- Claims are made phase by phase, and within a phase feature by feature. -/
theorem claims_eq (features : List Feature) :
    claims features =
      Phase.all.flatMap fun p => features.flatMap fun f => (p.keys f).map fun k => (k, f) := by
  simp [claims, Phase.all, Phase.keys, List.map_eq_flatMap]

/-- The features among whose keys of one phase a key is searched. -/
theorem find?_keys_of_phase (p : Phase) (features : List Feature) (k : String) :
    ((features.flatMap fun f => (p.keys f).map fun k => (k, f)).find? fun e => e.1 == k).map
      Prod.snd = features.find? fun f => (p.keys f).contains k := by
  rw [List.find?_flatMap, List.map_findSome?, ← List.findSome?_guard]
  congr 1
  funext f
  rw [Function.comp_apply, List.find?_map, Option.map_map, Option.guard]
  split
  · -- the key that is found is the one that was searched, and carries the feature
    rename_i hmem
    obtain ⟨key, hkey⟩ := Option.isSome_iff_exists.1 (List.find?_isSome.2
      ⟨k, List.contains_iff_mem.1 hmem, by simp⟩ : ((p.keys f).find? fun x => x == k).isSome)
    rw [show ((fun e : String × Feature => e.1 == k) ∘ fun k => (k, f)) = fun x => x == k from rfl,
      hkey]
    rfl
  · rename_i hmem
    rw [Option.map_eq_none_iff, List.find?_eq_none]
    intro x hx hxk
    have hxk : x = k := by simpa using hxk
    exact hmem (List.contains_iff_mem.2 (hxk ▸ hx))

/-- The feature of a key is the first in the first phase in which one claims it. -/
theorem find?_index (all : List Feature) {k : String} (hk : k ≠ "") :
    find? (ofFeatures all).index k =
      Phase.all.findSome? fun p =>
        (keepFirst Feature.id all).find? fun f => (p.keys f).contains k := by
  -- only empty keys are left out, and this one is not empty
  have hfilter : ∀ e : String × Feature, decide ((!e.1.isEmpty) = true ∧ (e.1 == k) = true) =
      (e.1 == k) := by
    intro e
    by_cases he : e.1 = k
    · simp [he, hk]
    · simp [he]
  rw [find?, ofFeatures]
  simp only
  rw [find?_keepFirst Prod.fst k, List.find?_filter]
  simp only [hfilter]
  rw [claims_eq, List.find?_flatMap, List.map_findSome?]
  congr 1
  funext p
  exact find?_keys_of_phase p _ k

/-- The empty text is no key, whichever features there are. -/
theorem find?_index_empty (all : List Feature) : find? (ofFeatures all).index "" = none := by
  rw [find?, ofFeatures]
  simp only
  rw [find?_keepFirst Prod.fst "", List.find?_filter, Option.map_eq_none_iff, List.find?_eq_none]
  rintro e -
  simp

/-- The search for a key in one phase finds the record that stands first in the list among those that claim the key in
this phase. -/
theorem find?_phase_eq_some_iff {all : List Feature} {k : String} {p : Phase} {f : Feature} :
    ((keepFirst Feature.id all).find? fun f => (p.keys f).contains k) = some f ↔
      ∃ i, ClaimedBy all k p i f ∧ ∀ j g, ClaimedBy all k p j g → i ≤ j := by
  rw [find?_keepFirst_eq_some_iff, List.contains_iff_mem, Phase.mem_keys_iff]
  constructor
  · -- a record before the first that has the key does not claim it
    rintro ⟨hclaim, i, hi, hleast⟩
    refine ⟨i, ⟨hi, hclaim⟩, fun j g hg => Nat.le_of_not_lt fun hj => ?_⟩
    have hfalse : (p.keys g).contains k = false := hleast j g hj hg.counts
    rw [List.contains_iff_mem.2 (Phase.mem_keys_iff.2 hg.claims)] at hfalse
    exact absurd hfalse (by simp)
  · rintro ⟨i, hi, hleast⟩
    refine ⟨hi.claims, i, hi.counts, fun j g hj hg => ?_⟩
    refine Bool.eq_false_iff.2 fun hcontains => ?_
    have := hleast j g ⟨hg, Phase.mem_keys_iff.1 (List.contains_iff_mem.1 hcontains)⟩
    omega

/-- No feature is found for a key in a phase exactly if none that counts claims it there. -/
theorem find?_phase_eq_none_iff {all : List Feature} {k : String} {p : Phase} :
    ((keepFirst Feature.id all).find? fun f => (p.keys f).contains k) = none ↔
      ∀ i f, ¬ ClaimedBy all k p i f := by
  rw [List.find?_eq_none]
  constructor
  · intro h i f hf
    exact h f (mem_keepFirst_iff.2 ⟨i, hf.counts⟩)
      (List.contains_iff_mem.2 (Phase.mem_keys_iff.2 hf.claims))
  · intro h f hf hcontains
    obtain ⟨i, hi⟩ := mem_keepFirst_iff.1 hf
    exact h i f ⟨hi, Phase.mem_keys_iff.1 (List.contains_iff_mem.1 hcontains)⟩

/-- The index holds the winners of the keys and nothing else: a key leads to the feature that claims it in the
earliest phase, and in that at the first place. -/
theorem find?_index_eq_some_iff {all : List Feature} {k : String} {f : Feature} :
    find? (ofFeatures all).index k = some f ↔ k ≠ "" ∧ ∃ p i, Wins all k p i f := by
  by_cases hk : k = ""
  · subst hk
    simp [find?_index_empty]
  · rw [find?_index all hk, Phase.findSome?_all_eq_some_iff]
    simp only [find?_phase_eq_some_iff, find?_phase_eq_none_iff]
    constructor
    · rintro ⟨p, ⟨i, hi, hplace⟩, hphase⟩
      refine ⟨hk, p, i, hi, fun q j g hg => ?_⟩
      -- a later phase loses, the same phase is decided by place, and an earlier one has no claim
      rcases Nat.lt_trichotomy p.rank q.rank with hpq | hpq | hpq
      · exact Or.inl hpq
      · have hpq := Phase.eq_of_rank_eq hpq
        exact Or.inr ⟨hpq, hplace j g (hpq ▸ hg)⟩
      · exact absurd hg (hphase q hpq j g)
    · rintro ⟨-, p, i, hwins⟩
      refine ⟨p, ⟨i, hwins.claim, fun j g hg => ?_⟩, fun q hq j g hg => ?_⟩
      · rcases hwins.least p j g hg with h | h
        · exact absurd h (Nat.lt_irrefl _)
        · exact h.2
      · rcases hwins.least q j g hg with h | h
        · omega
        · exact absurd hq (h.1 ▸ Nat.lt_irrefl _)

/-- A key that no feature claims has no feature. -/
theorem find?_index_eq_none_iff {all : List Feature} {k : String} :
    find? (ofFeatures all).index k = none ↔ k = "" ∨ ∀ p i f, ¬ ClaimedBy all k p i f := by
  by_cases hk : k = ""
  · simp [hk, find?_index_empty]
  · rw [find?_index all hk, List.findSome?_eq_none_iff]
    simp only [find?_phase_eq_none_iff, hk, false_or]
    exact ⟨fun h p => h p (Phase.mem_all p), fun h p _ => h p⟩

/-- The keys are those for which the index has a feature. -/
theorem mem_keys_iff_isSome {all : List Feature} {k : String} :
    k ∈ (ofFeatures all).keys ↔ (find? (ofFeatures all).index k).isSome = true := by
  rw [find?, Option.isSome_map, List.find?_isSome]
  simp only [ofFeatures, List.mem_map, List.mem_mergeSort, beq_iff_eq]

/-! ## The order of precedence -/

/-- **The first claim wins.** A string is a key iff it is not empty and a feature that counts claims
it in some phase; its feature is the one whose claim is least by phase and then by place; and the
identifier of a feature that counts leads to that feature, whatever the others claim. -/
theorem first_claim_wins (all : List Feature) :
    (∀ k, k ∈ (ofFeatures all).keys ↔ k ≠ "" ∧ ∃ p i f, ClaimedBy all k p i f) ∧
      (∀ k f, find? (ofFeatures all).index k = some f ↔ k ≠ "" ∧ ∃ p i, Wins all k p i f) ∧
      ∀ i f, FirstAt Feature.id all i f → f.id ≠ "" →
        (ofFeatures all).lookup f.id = some f := by
  refine ⟨fun k => ?_, fun k f => find?_index_eq_some_iff, fun i f hf hid => ?_⟩
  · rw [mem_keys_iff_isSome]
    cases hfind : find? (ofFeatures all).index k with
    | none =>
      refine ⟨fun h => absurd h (by simp), ?_⟩
      rintro ⟨hk, p, i, f, hf⟩
      rcases find?_index_eq_none_iff.1 hfind with rfl | hnone
      · exact absurd rfl hk
      · exact absurd hf (hnone p i f)
    | some f =>
      obtain ⟨hk, p, i, hwins⟩ := find?_index_eq_some_iff.1 hfind
      exact ⟨fun _ => ⟨hk, p, i, f, hwins.claim⟩, fun _ => rfl⟩
  · -- no other feature that counts has this identifier, and identifiers are claimed first
    have hwins : Wins all f.id .identifier i f := by
      refine ⟨⟨hf, rfl⟩, fun q j g hg => ?_⟩
      by_cases hq : q = .identifier
      · subst hq
        exact Or.inr ⟨rfl, Nat.le_of_eq (hf.place_unique hg.counts hg.claims)⟩
      · exact Or.inl (by cases q <;> simp_all [Phase.rank])
    have hfind : find? (ofFeatures all).index f.id = some f :=
      find?_index_eq_some_iff.2 ⟨hid, _, _, hwins⟩
    simp [lookup, hid, hfind]

end Registry

end FeatureAudit
