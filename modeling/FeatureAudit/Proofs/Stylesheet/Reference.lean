import FeatureAudit.Proofs.Stylesheet.CandidateTokens

/-!
# What the uses in a stylesheet are

A sheet determines its uses entry by entry: each entry has a list of tokens, of those that the registry resolves the first
for each feature counts, and no entry depends on what was found at another one. The reference says so without a walk, and
the walk agrees with it, though it keeps one tally for all entries.

* **`Node.usages`** — the uses at an entry with some tokens.
* **`reference`** — the uses of all entries in pre-order, or the notice of the first fault.
* **`PlacedInOrder.placedApart`**, **`placedApart_sheet`** — entries that stand one after the other, as those of a sheet
  do, can be told apart by their kinds and places.
* **`extractNodes_of_placedApart`** — the walk gives the reference for the tokens of the entries.
* **`extract_eq_reference`** — so does an extraction, for forests of entries and for texts.
-/
namespace FeatureAudit.Stylesheet

open FeatureAudit.Text

/-! ## The reference -/

/-- The kind and the place of an entry that is not a fault. -/
def Node.scope? : Node → Option Scope
  | .declaration pos _ _ _ => some (.declaration pos.line pos.column)
  | .rule pos _ _ => some (.selector pos.line pos.column)
  | .atRule pos _ _ _ => some (.atRule pos.line pos.column)
  | .error _ _ => none

/-- No two entries of one kind share a place. -/
def PlacedApart (nodes : List Node) : Prop :=
  ((Node.preorderOf nodes).filterMap Node.scope?).Nodup

/-- The place of an entry that is known by a scope. -/
def scopePlace? : Scope → Option Position
  | .declaration line column => some ⟨line, column⟩
  | .selector line column => some ⟨line, column⟩
  | .atRule line column => some ⟨line, column⟩
  | .scriptLine _ => none

/-- An entry that opens a scope has a place, and the scope tells it. So entries at different places open different
scopes. -/
theorem place?_of_scope? {n : Node} {s : Scope} (h : n.scope? = some s) :
    ∃ p, n.place? = some p ∧ scopePlace? s = some p := by
  cases n with
  | declaration pos name value important =>
    obtain rfl := Option.some.inj h
    exact ⟨pos, rfl, rfl⟩
  | rule pos prelude body =>
    obtain rfl := Option.some.inj h
    exact ⟨pos, rfl, rfl⟩
  | atRule pos keyword prelude body =>
    obtain rfl := Option.some.inj h
    exact ⟨pos, rfl, rfl⟩
  | error pos fault => exact absurd h (by simp [Node.scope?])

/-- The entries of a list, in pre-order, stand one after the other. -/
def PlacedInOrder (nodes : List Node) : Prop :=
  ((Node.preorderOf nodes).filterMap Node.place?).Pairwise Position.Before

/-- Entries that stand one after the other are placed apart, since no place is before itself. -/
theorem PlacedInOrder.placedApart {nodes : List Node} (h : PlacedInOrder nodes) : PlacedApart nodes := by
  have hplaces := List.pairwise_filterMap.1 h
  refine List.pairwise_filterMap.2 (hplaces.imp fun hbefore s hs s' hs' heq => ?_)
  obtain ⟨p, hp, hplace⟩ := place?_of_scope? hs
  obtain ⟨q, hq, hplace'⟩ := place?_of_scope? hs'
  obtain rfl : p = q := Option.some.inj (by rw [← hplace, ← hplace', heq])
  exact p.not_before_self (hbefore p hp p hq)

/-- The forest of every text stands in order: the reading of it is one set of positions that satisfies the assumption.
-/
theorem placedInOrder_sheet (text : String) : PlacedInOrder (sheet (lexemes text)) := sheet_places text

/-- No two entries of the forest of a text stand at one place. -/
theorem placedApart_sheet (text : String) : PlacedApart (sheet (lexemes text)) :=
  (placedInOrder_sheet text).placedApart

/-- The sites of a forest have the scopes of its entries, in pre-order and with nothing left out: an entry without a
site has no scope either. -/
theorem scopes_sitesOf (nodes : List Node) :
    (sitesOf nodes).map Site.scope = (Node.preorderOf nodes).filterMap Node.scope? := by
  rw [sitesOf, List.map_filterMap]
  congr 1
  funext n
  cases n <;> rfl

section

variable (r : Registry) (target : Tier) (file : String)

/-- The uses at an entry with these tokens: tokens that the registry does not resolve are left out, and of those that it
resolves to one feature the first counts. -/
def Node.usages (n : Node) (tokens : List String) : List Usage :=
  match n.site? with
  | none => []
  | some s =>
    keepFirst Usage.featureId
      (tokens.filterMap fun token => (r.lookup token).map (s.usageOf target file token))

/-- The uses in a sheet whose entries, in pre-order, have these tokens, entry by entry, unless a fault is noticed: then
nothing but the notice of the first. -/
def reference (nodes : List Node) (candidates : List (List String)) : Extraction :=
  match noticedOf nodes with
  | [] =>
    ⟨((Node.preorderOf nodes).zip candidates).flatMap fun p => p.1.usages r target file p.2, []⟩
  | (pos, fault) :: _ => ⟨[], [.stylesheetSkipped file pos.line fault.message]⟩

end

variable {r : Registry} {target : Tier} {file : String}

/-- The uses at an entry's site are the uses at the entry with the tokens of the site. -/
theorem usages_of_site? {n : Node} {s : Site} (h : n.site? = some s) :
    s.usages r target file = n.usages r target file s.tokens := by
  rw [Site.usages, funext (Site.usage?_eq s), Node.usages, h]

/-- The uses at the sites of some entries are those at the entries, each with its tokens. -/
theorem flatMap_usages_of_candidates {entries : List Node} {candidates : List (List String)}
    (h : List.Forall₂ Node.HasCandidates entries candidates) :
    (entries.filterMap Node.site?).flatMap (Site.usages r target file) =
      (entries.zip candidates).flatMap fun p => p.1.usages r target file p.2 := by
  induction h with
  | nil => rfl
  | @cons n tokens entries candidates hn _ ih =>
    rw [List.zip_cons_cons, List.flatMap_cons]
    cases hs : n.site? with
    -- a fault has neither a site nor uses
    | none =>
      have hnone : n.usages r target file tokens = [] := by rw [Node.usages, hs]
      rw [List.filterMap_cons_none hs, ih, hnone, List.nil_append]
    | some s =>
      obtain rfl : tokens = s.tokens := hn.unique (hasCandidates_of_site? hs)
      rw [List.filterMap_cons_some hs, List.flatMap_cons, ih, usages_of_site? hs]

/-- The walk through a sheet gives the reference for the tokens of the entries, if the entries are placed apart. -/
theorem extractNodes_of_placedApart {nodes : List Node} (h : PlacedApart nodes) {candidates : List (List String)}
    (hcandidates : List.Forall₂ Node.HasCandidates (Node.preorderOf nodes) candidates) :
    extractNodes r target file nodes = reference r target file nodes candidates := by
  rw [reference]
  cases hnoticed : noticedOf nodes with
  | nil =>
    rw [extractNodes_of_unnoticed hnoticed, walkAll_usages (by rw [scopes_sitesOf]; exact h), sitesOf,
      flatMap_usages_of_candidates hcandidates]
  | cons first others => rw [extractNodes_of_noticed hnoticed]

/-- **Extraction gives the reference.** The entries of a sheet, in pre-order, have one list of tokens each. For these an
extraction gives the reference: for all entries that are placed apart, and for every stylesheet that there is room to look
into. -/
theorem extract_eq_reference (r : Registry) (target : Tier) (file : String) :
    (∀ nodes, ∃! candidates, List.Forall₂ Node.HasCandidates (Node.preorderOf nodes) candidates) ∧
      (∀ nodes candidates, PlacedApart nodes →
        List.Forall₂ Node.HasCandidates (Node.preorderOf nodes) candidates →
          extractNodes r target file nodes = reference r target file nodes candidates) ∧
      ∀ room text candidates, longInteger? (lexemes text) = none →
        Node.depthOfAll (sheet (lexemes text)) ≤ room →
        List.Forall₂ Node.HasCandidates (Node.preorderOf (sheet (lexemes text))) candidates →
          extract room r target file text =
            .ok (reference r target file (sheet (lexemes text)) candidates) := by
  refine ⟨fun nodes => existsUnique_candidates _, ?_, ?_⟩
  · intro nodes candidates hapart hcandidates
    exact extractNodes_of_placedApart hapart hcandidates
  · intro room text candidates hdigits hdepth hcandidates
    rw [extract_of_within hdigits hdepth, extractNodes_of_placedApart (placedApart_sheet text) hcandidates]

/-- A rule with a pseudo-class and a property with a vendor's mark. -/
def markedSheet : String := "a:hover\x7b-webkit-filter:blur(1vh)\x7d"

/-- The tokens of its two entries. -/
def markedCandidates : List (List String) := [["hover"], ["-webkit-filter", "filter", "blur", "vh-unit"]]

/-- A registry that knows these tokens, three of them by one feature. -/
def filterRegistry : Registry :=
  .ofFeatures
    [⟨"hover", "Hover", .widelyAvailable, [], [], []⟩,
      ⟨"filter-effects", "Filter effects", .widelyAvailable, [], ["css.properties.filter"], ["blur"]⟩,
      ⟨"viewport-units", "Viewport units", .limited, [], [], ["vh-unit"]⟩]

/-- Of the tokens of the property, the first for each of its two features counts. -/
theorem extract_eq_reference_of_marked_property :
    PlacedApart (sheet (lexemes markedSheet)) ∧
      List.Forall₂ Node.HasCandidates (Node.preorderOf (sheet (lexemes markedSheet))) markedCandidates ∧
      extract 4 filterRegistry .widelyAvailable "a.css" markedSheet =
        .ok (reference filterRegistry .widelyAvailable "a.css" (sheet (lexemes markedSheet)) markedCandidates) ∧
      (reference filterRegistry .widelyAvailable "a.css" (sheet (lexemes markedSheet))
          markedCandidates).usages.map (fun u => (u.token, u.featureId)) =
        [("hover", "hover"), ("-webkit-filter", "filter-effects"), ("vh-unit", "viewport-units")] := by
  obtain ⟨-, hforest, htext⟩ := extract_eq_reference filterRegistry .widelyAvailable "a.css"
  have hapart : PlacedApart (sheet (lexemes markedSheet)) := placedApart_sheet markedSheet
  have htokens : (Node.preorderOf (sheet (lexemes markedSheet))).map
      (fun n => (n.site?.map Site.tokens).getD []) = markedCandidates := by
    decide +kernel
  -- the lists are found by running the extraction's searches, and `hasCandidates_iff` tells that they are what the
  -- relation says
  have hcandidates : List.Forall₂ Node.HasCandidates (Node.preorderOf (sheet (lexemes markedSheet)))
      markedCandidates := by
    rw [← htokens, List.forall₂_map_right_iff]
    exact List.forall₂_same.2 fun n _ => hasCandidates_iff.2 rfl
  have hdigits : longInteger? (lexemes markedSheet) = none := by decide +kernel
  have hdepth : Node.depthOfAll (sheet (lexemes markedSheet)) ≤ 4 := by decide +kernel
  refine ⟨hapart, hcandidates, htext 4 markedSheet _ hdigits hdepth hcandidates, ?_⟩
  rw [← hforest _ _ hapart hcandidates]
  decide +kernel

end FeatureAudit.Stylesheet
