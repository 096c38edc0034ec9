import FeatureAudit.Proofs.FirstWins
import FeatureAudit.Usage

/-!
# What a tally counts

A tally remembers which features it has counted for which scope. As long as no two sites share a
scope, one tally for a whole source counts each site by itself.

* **`Site.usage?_eq`** — the use of a token is the use of the feature that the registry finds.
* **`Site.usages`** — the uses at a site: of the tokens that name features, the first for each.
* **`Site.place_of_mem_usages`** — they have the place of the site.
* **`Tally.addAll_usages`** — a site of a new scope adds exactly its uses.
* **`Tally.usages_foldl_addAll`** — so do sites of different scopes, one after the other.
* **`Tally.mem_usages_foldl_addAll`** — whatever the scopes, each use is one that a token makes at
  its site.
-/
namespace FeatureAudit

open FeatureAudit.Text

variable {r : Registry} {target : Tier} {file : String}

/-! ## One token -/

/-- The use of a feature by a token at a site. -/
def Site.usageOf (s : Site) (target : Tier) (file token : String) (f : Feature) : Usage :=
  { token, featureId := f.id, file, line := s.line, column := s.column
    context := abridge contextLimit s.context
    tier := some f.tier, browsers := f.browsers
    severity := Severity.of (some f.tier) (f.tier.meets target)
    suggestion := suggestionFor f.tier target
    polyfill := polyfillFor f.id, alternative := alternativeFor f.id }

/-- The answer to the point query decides the use: of the feature that the registry finds, or none
where it finds none. -/
theorem Site.usage?_eq (s : Site) (token : String) :
    s.usage? r target file token = (r.lookup token).map (s.usageOf target file token) := by
  cases hf : r.lookup token with
  | none => simp [Site.usage?, Registry.check, hf, Check.notFound]
  | some f => simp [Site.usage?, Registry.check, hf, Feature.check, Site.usageOf]

/-! ## One site -/

/-- The uses at a site: tokens that name no feature are left out, and of several tokens that name
one feature the first counts. -/
def Site.usages (r : Registry) (target : Tier) (file : String) (s : Site) : List Usage :=
  keepFirst Usage.featureId (s.tokens.filterMap (s.usage? r target file))

/-- A use that a token makes at a site has the place of the site. -/
theorem Site.place_of_usage? {s : Site} {token : String} {u : Usage}
    (h : s.usage? r target file token = some u) : u.line = s.line ∧ u.column = s.column := by
  rw [Site.usage?_eq] at h
  obtain ⟨f, -, rfl⟩ := Option.map_eq_some_iff.1 h
  exact ⟨rfl, rfl⟩

/-- Every use at a site is one that a token makes there. -/
theorem Site.usage?_of_mem_usages {s : Site} {u : Usage} (h : u ∈ s.usages r target file) :
    ∃ token ∈ s.tokens, s.usage? r target file token = some u :=
  List.mem_filterMap.1 (mem_of_mem_keepFirst h)

/-- Every use of a site is at the place of the site. -/
theorem Site.place_of_mem_usages {s : Site} {u : Usage} (h : u ∈ s.usages r target file) :
    u.line = s.line ∧ u.column = s.column := by
  obtain ⟨token, -, hmade⟩ := Site.usage?_of_mem_usages h
  exact Site.place_of_usage? hmade

namespace Tally

/-- What a tally has not counted yet for the scope of a site. -/
def fresh (t : Tally) (s : Site) (u : Usage) : Bool := !t.seen.contains (s.scope, u.featureId)

/-- A token that names no feature of the registry leaves the count as it is. -/
theorem add_of_none {t : Tally} {s : Site} {token : String}
    (h : s.usage? r target file token = none) : t.add r target file s token = t := by
  simp [add, h]

/-- A feature that was counted in the scope before leaves the count as it is: the first token of a scope that names it
makes its use. -/
theorem add_of_seen {t : Tally} {s : Site} {token : String} {u : Usage}
    (h : s.usage? r target file token = some u) (hseen : t.fresh s u = false) :
    t.add r target file s token = t := by
  simp only [fresh, Bool.not_eq_false'] at hseen
  rw [add, h]
  exact if_pos hseen

/-- A feature that is new to the scope is counted: its use goes behind the others, and it is remembered with the
scope. -/
theorem add_of_fresh {t : Tally} {s : Site} {token : String} {u : Usage}
    (h : s.usage? r target file token = some u) (hfresh : t.fresh s u = true) :
    t.add r target file s token =
      ⟨t.usages ++ [u], (s.scope, u.featureId) :: t.seen⟩ := by
  simp only [fresh, Bool.not_eq_true'] at hfresh
  rw [add, h]
  exact if_neg (Bool.eq_false_iff.1 hfresh)

/-- The tokens of a site add the first use of each feature that the tally has not counted for its
scope. The induction is on the tokens, for every tally. -/
theorem usages_foldl_add (s : Site) (tokens : List String) (t : Tally) :
    (tokens.foldl (add r target file s) t).usages =
      t.usages ++
        (keepFirst Usage.featureId (tokens.filterMap (s.usage? r target file))).filter
          (t.fresh s) := by
  induction tokens generalizing t with
  | nil => simp [keepFirst]
  | cons token rest ih =>
    rw [List.foldl_cons, ih]
    cases hu : s.usage? r target file token with
    | none => rw [add_of_none hu, List.filterMap_cons_none hu]
    | some u =>
      rw [List.filterMap_cons_some hu, keepFirst, List.filter_cons, List.filter_filter]
      cases hfresh : t.fresh s u with
      | false =>
        rw [add_of_seen hu hfresh, if_neg (by simp)]
        -- a feature that has been counted is left out already
        congr 1
        refine List.filter_congr fun v _ => ?_
        by_cases hv : v.featureId = u.featureId
        · have hvu : t.fresh s v = t.fresh s u := by rw [fresh, fresh, hv]
          simp [hvu, hfresh]
        · simp [hv]
      | true =>
        rw [add_of_fresh hu hfresh, if_pos rfl, List.append_assoc, List.singleton_append]
        congr 2
        refine List.filter_congr fun v _ => ?_
        by_cases hv : v.featureId = u.featureId
        · simp [fresh, hv]
        · simp [fresh, hv]

/-- What is counted at a site is counted for its scope. -/
theorem mem_seen_foldl_add {s : Site} {tokens : List String} {t : Tally} {p : Scope × String}
    (h : p ∈ (tokens.foldl (add r target file s) t).seen) : p ∈ t.seen ∨ p.1 = s.scope := by
  induction tokens generalizing t with
  | nil => exact Or.inl h
  | cons token rest ih =>
    rcases ih h with hadd | hscope
    · cases hu : s.usage? r target file token with
      | none =>
        -- a token that makes no use remembers nothing
        rw [add_of_none hu] at hadd
        exact Or.inl hadd
      | some u =>
        cases hfresh : t.fresh s u with
        | false =>
          rw [add_of_seen hu hfresh] at hadd
          exact Or.inl hadd
        | true =>
          rw [add_of_fresh hu hfresh] at hadd
          rcases List.mem_cons.1 hadd with rfl | hseen
          · exact Or.inr rfl
          · exact Or.inl hseen
    · exact Or.inr hscope

/-- A site of a scope for which nothing has been counted adds exactly its uses. -/
theorem addAll_usages {t : Tally} {s : Site} (h : ∀ p ∈ t.seen, p.1 ≠ s.scope) :
    (t.addAll r target file s).usages = t.usages ++ s.usages r target file := by
  rw [addAll, usages_foldl_add, Site.usages]
  congr 1
  refine List.filter_eq_self.2 fun u _ => ?_
  rw [fresh, Bool.not_eq_true', Bool.eq_false_iff]
  intro hseen
  exact h _ (List.contains_iff_mem.1 hseen) rfl

/-! ## Several sites -/

/-- Sites of different scopes add their uses one after the other, whatever has been counted for
other scopes before. -/
theorem usages_foldl_addAll (sites : List Site) (t : Tally)
    (hdistinct : (sites.map Site.scope).Nodup)
    (hnew : ∀ s ∈ sites, ∀ p ∈ t.seen, p.1 ≠ s.scope) :
    (sites.foldl (addAll r target file) t).usages =
      t.usages ++ sites.flatMap (Site.usages r target file) := by
  induction sites generalizing t with
  | nil => simp
  | cons s rest ih =>
    obtain ⟨hs, hrest⟩ := List.nodup_cons.1 hdistinct
    rw [List.foldl_cons, ih _ hrest, addAll_usages (hnew s (by simp)), List.flatMap_cons,
      List.append_assoc]
    -- what the first site counts is counted for its own scope
    intro s' hs' p hp
    rcases mem_seen_foldl_add hp with hseen | hscope
    · exact hnew s' (by simp [hs']) p hseen
    · rw [hscope]
      exact fun heq => hs (heq ▸ List.mem_map_of_mem hs')

/-! ## Where uses come from -/

/-- What is in the count after a site was there before, or one of the site's tokens made it. -/
theorem mem_usages_addAll {t : Tally} {s : Site} {u : Usage}
    (h : u ∈ (t.addAll r target file s).usages) :
    u ∈ t.usages ∨ ∃ token ∈ s.tokens, s.usage? r target file token = some u := by
  rw [addAll, usages_foldl_add] at h
  rcases List.mem_append.1 h with hold | hnew
  · exact Or.inl hold
  · have hkept := mem_of_mem_keepFirst (List.mem_filter.1 hnew).1
    exact Or.inr (List.mem_filterMap.1 hkept)

/-- A use that a tally has after some sites was there before, or a token makes it at one of them. -/
theorem mem_usages_foldl_addAll {sites : List Site} {t : Tally} {u : Usage}
    (h : u ∈ (sites.foldl (addAll r target file) t).usages) :
    u ∈ t.usages ∨ ∃ s ∈ sites, ∃ token ∈ s.tokens, s.usage? r target file token = some u := by
  induction sites generalizing t with
  | nil => exact Or.inl h
  | cons s rest ih =>
    rcases ih h with hadd | ⟨s', hs', hmade⟩
    · rcases mem_usages_addAll hadd with hold | hmade
      · exact Or.inl hold
      · exact Or.inr ⟨s, List.mem_cons_self, hmade⟩
    · exact Or.inr ⟨s', List.mem_cons_of_mem s hs', hmade⟩

end Tally

end FeatureAudit
