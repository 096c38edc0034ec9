import Mathlib.Algebra.Order.BigOperators.Group.List
import FeatureAudit.Findings
import FeatureAudit.Proofs.Score

/-!
# The compatibility of uses is a mean

Each use has points by the tier of its feature. The compatibility of some uses is the mean of their points,
rounded, and whatever the order of quotients tells of a mean holds of it: it lies between the least and the most
points, it follows them upwards, and that of two groups together lies between those of the groups.

* **`Usage.points`**, **`compatibility`** — the points of a use, and the score of some uses.
* **`IsRoundedMean`** — the whole number that is nearest to the mean of some points, the greater of two.
* **`compatibilityScore_le_of_mean_le`** — where the mean is no more, neither is the score.
* **`compatibility_append`** — two groups of uses together.
* **`compatibility_is_rounded_mean`** — what the score is and how it behaves.
-/
namespace FeatureAudit

/-! ## Points -/

variable {tiers xs ys : List (Option Tier)}

/-- The points of tiers are added up one after the other. -/
theorem totalPoints_eq_sum (tiers : List (Option Tier)) :
    totalPoints tiers = (tiers.map tierPoints).sum := by
  induction tiers with
  | nil => rfl
  | cons tier rest ih => rw [totalPoints, ih, List.map_cons, List.sum_cons]

theorem totalPoints_append (xs ys : List (Option Tier)) :
    totalPoints (xs ++ ys) = totalPoints xs + totalPoints ys := by
  simp only [totalPoints_eq_sum, List.map_append, List.sum_append]

theorem totalPoints_perm (h : xs.Perm ys) : totalPoints xs = totalPoints ys := by
  rw [totalPoints_eq_sum, totalPoints_eq_sum]
  exact (h.map tierPoints).sum_eq

/-- Every tier has a quarter of all points at least, a missing one included. -/
theorem tierPoints_bounds (tier : Option Tier) : 25 ≤ tierPoints tier ∧ tierPoints tier ≤ 100 := by
  cases tier with
  | none => decide
  | some tier => cases tier <;> decide

/-- The points of tiers lie between a quarter of all that can be had and all of them, by induction on the tiers. -/
theorem totalPoints_bounds (tiers : List (Option Tier)) :
    25 * (tiers.length : Int) ≤ totalPoints tiers ∧ totalPoints tiers ≤ 100 * (tiers.length : Int) := by
  induction tiers with
  | nil => decide
  | cons tier rest ih =>
    have htier := tierPoints_bounds tier
    rw [totalPoints, List.length_cons]
    omega

/-! ## The score -/

/-- The score of some tiers is the rounded mean of their points. -/
theorem compatibilityScore_of_ne_nil (h : tiers ≠ []) :
    compatibilityScore tiers = roundHalfUp (totalPoints tiers) tiers.length := by
  rw [compatibilityScore, if_neg (by simpa using h)]

/-- A list with something in it has a positive length, also as an integer. -/
theorem cast_length_pos (h : tiers ≠ []) : 0 < (tiers.length : Int) := by
  have := List.length_pos_iff.2 h
  omega

/-- Where the mean of the points is no more, neither is the score. -/
theorem compatibilityScore_le_of_mean_le (hxs : xs ≠ []) (hys : ys ≠ [])
    (h : totalPoints xs * ys.length ≤ totalPoints ys * xs.length) :
    compatibilityScore xs ≤ compatibilityScore ys := by
  rw [compatibilityScore_of_ne_nil hxs, compatibilityScore_of_ne_nil hys]
  exact roundHalfUp_le_roundHalfUp (cast_length_pos hxs) (cast_length_pos hys) h

/-- Every score lies between a quarter and a hundred; without any tiers it is a hundred. -/
theorem compatibilityScore_bounds (tiers : List (Option Tier)) :
    25 ≤ compatibilityScore tiers ∧ compatibilityScore tiers ≤ 100 := by
  by_cases hnil : tiers = []
  · subst hnil
    decide
  · obtain ⟨hlow, hhigh⟩ := totalPoints_bounds tiers
    rw [compatibilityScore_of_ne_nil hnil]
    exact roundHalfUp_bounds (cast_length_pos hnil) hlow hhigh

theorem compatibilityScore_perm (h : xs.Perm ys) : compatibilityScore xs = compatibilityScore ys := by
  rw [compatibilityScore, compatibilityScore, h.isEmpty_eq, totalPoints_perm h, h.length_eq]

/-- The mean of two groups together lies between the means of the groups. -/
theorem compatibilityScore_append_of_mean_le (hxs : xs ≠ []) (hys : ys ≠ [])
    (h : totalPoints xs * ys.length ≤ totalPoints ys * xs.length) :
    compatibilityScore xs ≤ compatibilityScore (xs ++ ys) ∧
      compatibilityScore (xs ++ ys) ≤ compatibilityScore ys := by
  have hboth : xs ++ ys ≠ [] := List.append_ne_nil_of_left_ne_nil hxs ys
  have hlength : ((xs ++ ys).length : Int) = xs.length + ys.length := by
    rw [List.length_append]
    omega
  -- multiplied out, either bound is the given one with one product more on both sides
  constructor
  · apply compatibilityScore_le_of_mean_le hxs hboth
    rw [totalPoints_append, hlength]
    linarith
  · apply compatibilityScore_le_of_mean_le hboth hys
    rw [totalPoints_append, hlength]
    linarith

/-! ## Uses -/

/-- The points of a use by its tier. -/
def Usage.points (u : Usage) : Int := tierPoints u.tier

/-- The score of some uses. -/
def compatibility (usages : List Usage) : Int := compatibilityScore (usages.map Usage.tier)

/-- The whole number is nearest to the mean of the points, and it is the greater one of two that are. -/
def IsRoundedMean (points : List Int) (s : Int) : Prop :=
  2 * points.sum - points.length < 2 * points.length * s ∧
    2 * points.length * s ≤ 2 * points.sum + points.length

/-- The score of findings is that of all uses. -/
theorem Findings.score_ofFiles (files : List (String × List Usage)) (options : FindingsOptions) :
    (ofFiles files options).score = compatibility (files.flatMap Prod.snd) := rfl

theorem totalPoints_map_tier (usages : List Usage) :
    totalPoints (usages.map Usage.tier) = (usages.map Usage.points).sum := by
  rw [totalPoints_eq_sum, List.map_map]
  rfl

variable {usages before after us vs : List Usage} {u v : Usage} {s : Int}

/-- The compatibility of some usages is a number exactly if this is the rounded mean of their points. -/
theorem compatibility_eq_iff (h : usages ≠ []) :
    compatibility usages = s ↔ IsRoundedMean (usages.map Usage.points) s := by
  have htiers : usages.map Usage.tier ≠ [] := by simpa using h
  rw [compatibility, compatibilityScore_of_ne_nil htiers,
    roundHalfUp_eq_iff (cast_length_pos htiers), totalPoints_map_tier, IsRoundedMean,
    List.length_map, List.length_map]

theorem compatibility_perm (h : us.Perm vs) : compatibility us = compatibility vs :=
  compatibilityScore_perm (h.map Usage.tier)

/-- More points for one use are no less a score for all. -/
theorem compatibility_le_of_points_le (h : u.points ≤ v.points) :
    compatibility (before ++ u :: after) ≤ compatibility (before ++ v :: after) := by
  have htotal : totalPoints ((before ++ u :: after).map Usage.tier) ≤
      totalPoints ((before ++ v :: after).map Usage.tier) := by
    unfold Usage.points at h
    simp only [List.map_append, List.map_cons, totalPoints_append, totalPoints]
    omega
  have hlength : (((before ++ v :: after).map Usage.tier).length : Int) =
      ((before ++ u :: after).map Usage.tier).length := by
    simp only [List.length_map, List.length_append, List.length_cons]
  apply compatibilityScore_le_of_mean_le (by simp) (by simp)
  rw [hlength]
  exact Int.mul_le_mul_of_nonneg_right htotal (by omega)

/-- The score of two groups together lies between the scores of the groups. -/
theorem compatibility_append (hus : us ≠ []) (hvs : vs ≠ []) :
    min (compatibility us) (compatibility vs) ≤ compatibility (us ++ vs) ∧
      compatibility (us ++ vs) ≤ max (compatibility us) (compatibility vs) := by
  have hus' : us.map Usage.tier ≠ [] := by simpa using hus
  have hvs' : vs.map Usage.tier ≠ [] := by simpa using hvs
  -- one of the groups has the lesser mean
  rcases Int.le_total (totalPoints (us.map Usage.tier) * (vs.map Usage.tier).length)
      (totalPoints (vs.map Usage.tier) * (us.map Usage.tier).length) with hle | hle
  · obtain ⟨hlow, hhigh⟩ := compatibilityScore_append_of_mean_le hus' hvs' hle
    rw [← List.map_append] at hlow hhigh
    exact ⟨min_le_of_left_le hlow, le_max_of_le_right hhigh⟩
  · obtain ⟨hlow, hhigh⟩ := compatibilityScore_append_of_mean_le hvs' hus' hle
    rw [← List.map_append] at hlow hhigh
    have hcomm : (us ++ vs).Perm (vs ++ us) := List.perm_append_comm
    rw [compatibility_perm hcomm]
    exact ⟨min_le_of_right_le hlow, le_max_of_le_left hhigh⟩

/-- **The compatibility of uses is the mean of their points, rounded half up, and behaves like one.** Nothing used
is fully compatible. Otherwise the score is the one whole number that is nearest to the mean, the greater of two. It
is at least 25 and at most 100, the order of the uses makes no difference, more points for a use do not lower it, and
that of two groups together lies between those of the groups. -/
theorem compatibility_is_rounded_mean :
    compatibility [] = 100 ∧
      (∀ usages ≠ [], ∀ s,
        compatibility usages = s ↔ IsRoundedMean (usages.map Usage.points) s) ∧
      (∀ usages, 25 ≤ compatibility usages ∧ compatibility usages ≤ 100) ∧
      (∀ usages usages', usages'.Perm usages → compatibility usages' = compatibility usages) ∧
      (∀ before after u v, u.points ≤ v.points →
        compatibility (before ++ u :: after) ≤ compatibility (before ++ v :: after)) ∧
      ∀ us ≠ [], ∀ vs ≠ [],
        min (compatibility us) (compatibility vs) ≤ compatibility (us ++ vs) ∧
          compatibility (us ++ vs) ≤ max (compatibility us) (compatibility vs) := by
  refine ⟨rfl, ?_, ?_, ?_, ?_, ?_⟩
  · intro usages hne s
    exact compatibility_eq_iff hne
  · intro usages
    exact compatibilityScore_bounds _
  · intro usages usages' hperm
    exact compatibility_perm hperm
  · intro before after u v hpoints
    exact compatibility_le_of_points_le hpoints
  · intro us hus vs hvs
    exact compatibility_append hus hvs

/-- A use of a feature of some tier. -/
def ratedUse (tier : Option Tier) : Usage :=
  { token := "share", featureId := "share", file := "a.js", line := 1, column := 0, context := "share"
    tier, browsers := [], severity := Severity.of tier (Tier.meets? tier .widelyAvailable)
    suggestion := none, polyfill := none, alternative := none }

/-- A mean of eighty-seven and a half is rounded up, and a third use of unknown tier draws it down. -/
theorem compatibility_is_rounded_mean_of_tie :
    ([ratedUse (some .newlyAvailable), ratedUse (some .widelyAvailable)] ≠ [] ∧ [ratedUse none] ≠ []) ∧
      (compatibility [ratedUse (some .newlyAvailable), ratedUse (some .widelyAvailable)] = 88 ∧
        IsRoundedMean [75, 100] 88) ∧
      ([ratedUse (some .widelyAvailable), ratedUse (some .newlyAvailable)].Perm
          [ratedUse (some .newlyAvailable), ratedUse (some .widelyAvailable)] ∧
        compatibility [ratedUse (some .widelyAvailable), ratedUse (some .newlyAvailable)] = 88) ∧
      ((ratedUse none).points ≤ (ratedUse (some .newlyAvailable)).points ∧
        compatibility [ratedUse none, ratedUse (some .widelyAvailable)] ≤ 88) ∧
      min 88 (compatibility [ratedUse none]) ≤
        compatibility [ratedUse (some .newlyAvailable), ratedUse (some .widelyAvailable), ratedUse none] := by
  obtain ⟨-, hnearest, -, hperm, hraise, hbetween⟩ := compatibility_is_rounded_mean
  have htie : compatibility [ratedUse (some .newlyAvailable), ratedUse (some .widelyAvailable)] = 88 := by
    decide
  have hswap : [ratedUse (some .widelyAvailable), ratedUse (some .newlyAvailable)].Perm
      [ratedUse (some .newlyAvailable), ratedUse (some .widelyAvailable)] := List.Perm.swap _ _ _
  have hpoints : (ratedUse none).points ≤ (ratedUse (some .newlyAvailable)).points := by decide
  refine ⟨⟨by simp, by simp⟩, ⟨htie, (hnearest _ (by simp) 88).1 htie⟩,
    ⟨hswap, (hperm _ _ hswap).trans htie⟩, ⟨hpoints, ?_⟩, ?_⟩
  · exact htie ▸ hraise [] [ratedUse (some .widelyAvailable)] _ _ hpoints
  · exact htie ▸ (hbetween _ (by simp) [ratedUse none] (by simp)).1

end FeatureAudit
