import FeatureAudit.Proofs.Detection
import FeatureAudit.Proofs.Report.FileOrder
import FeatureAudit.Proofs.Script.LineUses
import FeatureAudit.Proofs.Stylesheet.Reference

/-!
# Uses come in the order of the source

A source is looked into from its start to its end: a script line by line, a stylesheet entry by entry, an entry before
what is in its body. Each line and each entry is a site after the one before it, and its uses are at that site. So the
uses of a source are in the order of their places as they are found, and a report, which sorts by places, leaves them so.

* **`InSourceOrder`** — uses whose places do not go back.
* **`inSourceOrder_flatMap_usages`** — the uses at sites that come one after the other.
* **`Node.Gives`**, **`ComeFrom`** — a use that comes from an entry of a stylesheet, and what holds of all of them.
* **`Audit.inSourceOrder_extraction`** — the uses of a source of any kind.
* **`uses_in_source_order`** — the uses of scripts and stylesheets, where they come from, and their order in a report.
-/
namespace FeatureAudit

open Report
open Stylesheet (Position)

/-- The uses are in the order of their lines and, in one line, of their columns. -/
def InSourceOrder (usages : List Usage) : Prop :=
  usages.Pairwise fun u v => u.line < v.line ∨ u.line = v.line ∧ u.column ≤ v.column

variable {r : Registry} {target : Tier} {file text : String}

/-! ## Sites that come one after the other -/

/-- Where a site is. -/
def Site.position (s : Site) : Position := ⟨s.line, s.column⟩

/-- The uses at sites that come one after the other are in the order of the source. -/
theorem inSourceOrder_flatMap_usages {sites : List Site}
    (h : sites.Pairwise fun s t => s.position.Before t.position) :
    InSourceOrder (sites.flatMap (Site.usages r target file)) := by
  refine List.pairwise_flatMap.2 ⟨fun s _ => ?_, h.imp fun {s t} hbefore u hu v hv => ?_⟩
  · -- the uses at one site share its place
    refine List.pairwise_of_forall_mem_list fun u hu v hv => ?_
    obtain ⟨huline, hucolumn⟩ := Site.place_of_mem_usages hu
    obtain ⟨hvline, hvcolumn⟩ := Site.place_of_mem_usages hv
    omega
  · obtain ⟨huline, hucolumn⟩ := Site.place_of_mem_usages hu
    obtain ⟨hvline, hvcolumn⟩ := Site.place_of_mem_usages hv
    simp only [Position.Before, Site.position] at hbefore
    omega

/-! ## Scripts -/

/-- The uses of a script are in the order of its lines. -/
theorem Script.inSourceOrder_extract (r : Registry) (target : Tier) (file text : String) :
    InSourceOrder (extract r target file text).usages := by
  rw [extract_usages, ← List.flatMap_map]
  refine inSourceOrder_flatMap_usages (List.pairwise_map.2 ?_)
  refine (zipIdx_pairwise_lt _ _).imp fun {p q} hlt => Or.inl ?_
  show p.2 + 1 < q.2 + 1
  omega

/-! ## Stylesheets -/

namespace Stylesheet

/-- The use comes from the entry: a token of the entry makes it there. -/
def Node.Gives (r : Registry) (target : Tier) (file : String) (n : Node) (u : Usage) : Prop :=
  ∃ s tokens, n.site? = some s ∧ n.HasCandidates tokens ∧ ∃ token ∈ tokens, s.usage? r target file token = some u

/-- A site stands where its entry does. Errors have no site. -/
theorem Node.place?_of_site? {n : Node} {s : Site} (h : n.site? = some s) :
    n.place? = some s.position := by
  cases n with
  | declaration pos name value important =>
    obtain rfl := Option.some.inj h
    rfl
  | rule pos prelude body =>
    obtain rfl := Option.some.inj h
    rfl
  | atRule pos keyword prelude body =>
    obtain rfl := Option.some.inj h
    rfl
  | error pos fault => exact absurd h (by simp [Node.site?])

/-- What comes from an entry is where the entry starts. -/
theorem Node.Gives.place {n : Node} {u : Usage} (h : n.Gives r target file u) :
    ∃ p : Position, n.place? = some p ∧ u.line = p.line ∧ u.column = p.column := by
  obtain ⟨s, -, hs, -, token, -, hmade⟩ := h
  exact ⟨s.position, Node.place?_of_site? hs, Site.place_of_usage? hmade⟩

/-- A use that comes from two entries tells one place for both. -/
theorem Node.Gives.place_eq {n m : Node} {u : Usage} {p q : Position} (hn : n.Gives r target file u)
    (hm : m.Gives r target file u) (hp : n.place? = some p) (hq : m.place? = some q) : p = q := by
  obtain ⟨p', hp', hline, hcolumn⟩ := hn.place
  obtain ⟨q', hq', hline', hcolumn'⟩ := hm.place
  -- the use has one line and one column, and both places are read off them
  obtain rfl : p = p' := Option.some.inj (hp.symm.trans hp')
  obtain rfl : q = q' := Option.some.inj (hq.symm.trans hq')
  cases p
  cases q
  simp only [Position.mk.injEq]
  dsimp only at hline hcolumn hline' hcolumn'
  omega

/-- A usage that is made at the site of an entry is given by this entry, from one of its tokens. -/
theorem gives_of_mem_usages {n : Node} {s : Site} {u : Usage} (hs : n.site? = some s)
    (hu : u ∈ s.usages r target file) : n.Gives r target file u := by
  obtain ⟨token, htoken, hmade⟩ := Site.usage?_of_mem_usages hu
  exact ⟨s, s.tokens, hs, hasCandidates_of_site? hs, token, htoken, hmade⟩

variable {nodes : List Node}

/-- Entries that are placed in order have their sites in order, one before the other. -/
theorem PlacedInOrder.sites (h : PlacedInOrder nodes) :
    (sitesOf nodes).Pairwise fun s t => s.position.Before t.position := by
  refine List.pairwise_filterMap.2 ((List.pairwise_filterMap.1 h).imp fun hbefore s hs t ht => ?_)
  exact hbefore _ (Node.place?_of_site? hs) _ (Node.place?_of_site? ht)

/-- Of entries that are placed in order only one stands at a place. -/
theorem PlacedInOrder.eq_of_place (h : PlacedInOrder nodes) {n m : Node} {p : Position}
    (hn : n ∈ Node.preorderOf nodes) (hm : m ∈ Node.preorderOf nodes) (hp : n.place? = some p)
    (hq : m.place? = some p) : n = m := by
  have hapart : (Node.preorderOf nodes).Pairwise fun n m =>
      ¬ (n.place? = some p ∧ m.place? = some p) :=
    (List.pairwise_filterMap.1 h).imp fun hbefore ⟨hp, hq⟩ =>
      p.not_before_self (hbefore p hp p hq)
  -- of two entries one comes first, and then the other stands elsewhere
  exact List.Pairwise.forall_of_forall_of_flip (R := fun n m => n.place? = some p ∧ m.place? = some p → n = m)
    (fun _ _ _ => rfl) (hapart.imp fun hne hplaces => absurd hplaces hne)
    (hapart.imp fun hne hplaces => absurd hplaces.symm hne) hn hm ⟨hp, hq⟩

/-- The uses of entries that are placed in order are those at their sites, unless a fault is noticed. -/
theorem PlacedInOrder.usages_eq (h : PlacedInOrder nodes) :
    (extractNodes r target file nodes).usages = [] ∨
      (extractNodes r target file nodes).usages =
        (sitesOf nodes).flatMap (Site.usages r target file) := by
  obtain ⟨candidates, hcandidates, -⟩ := existsUnique_candidates (Node.preorderOf nodes)
  rw [extractNodes_of_placedApart h.placedApart hcandidates, reference, sitesOf,
    flatMap_usages_of_candidates hcandidates]
  split
  · exact Or.inr rfl
  · exact Or.inl rfl

/-- Uses come from an entry each, in the order of the source, and no two of one feature from the same entry. -/
structure ComeFrom (r : Registry) (target : Tier) (file : String) (nodes : List Node)
    (usages : List Usage) : Prop where
  order : InSourceOrder usages
  one_entry : ∀ u ∈ usages, ∃! n, n ∈ Node.preorderOf nodes ∧ n.Gives r target file u
  one_use : usages.Pairwise fun u v =>
    ∀ n ∈ Node.preorderOf nodes, n.Gives r target file u → n.Gives r target file v →
      u.featureId ≠ v.featureId

theorem ComeFrom.nil : ComeFrom r target file nodes [] where
  order := List.Pairwise.nil
  one_entry _ hu := absurd hu List.not_mem_nil
  one_use := List.Pairwise.nil

/-- The uses at the sites of entries that are placed in order come from these entries. -/
theorem PlacedInOrder.comeFrom (h : PlacedInOrder nodes) :
    ComeFrom r target file nodes ((sitesOf nodes).flatMap (Site.usages r target file)) where
  order := inSourceOrder_flatMap_usages h.sites
  one_entry u hu := by
    obtain ⟨s, hs, hu⟩ := List.mem_flatMap.1 hu
    obtain ⟨n, hn, hsite⟩ := List.mem_filterMap.1 hs
    have hgives : n.Gives r target file u := gives_of_mem_usages hsite hu
    refine ⟨n, ⟨hn, hgives⟩, fun m ⟨hm, hgives'⟩ => ?_⟩
    obtain ⟨p, hp, -⟩ := hgives.place
    obtain ⟨q, hq, -⟩ := hgives'.place
    -- whatever gives the usage stands where the usage does, and one entry stands there
    obtain rfl : q = p := hgives'.place_eq hgives hq hp
    exact h.eq_of_place hm hn hq hp
  one_use := by
    refine List.pairwise_flatMap.2 ⟨fun s _ => ?_, h.sites.imp fun {s t} hbefore u hu v hv => ?_⟩
    · -- at one site the first use of each feature is kept
      exact (keepFirst_pairwise _).imp fun hne n _ _ _ => hne
    · -- one entry does not give uses at two places
      intro n _ hgives hgives'
      obtain ⟨p, hp, huline, hucolumn⟩ := hgives.place
      obtain ⟨q, hq, hvline, hvcolumn⟩ := hgives'.place
      obtain rfl : p = q := Option.some.inj (hp.symm.trans hq)
      obtain ⟨hsline, hscolumn⟩ := Site.place_of_mem_usages hu
      obtain ⟨htline, htcolumn⟩ := Site.place_of_mem_usages hv
      simp only [Position.Before, Site.position] at hbefore
      omega

/-- What an extraction finds among entries that are placed in order comes from these entries. -/
theorem PlacedInOrder.comeFrom_extractNodes (h : PlacedInOrder nodes) :
    ComeFrom r target file nodes (extractNodes r target file nodes).usages := by
  rcases h.usages_eq with hnone | hsites
  · rw [hnone]
    exact .nil
  · rw [hsites]
    exact h.comeFrom

/-- The uses of a stylesheet come from its entries. -/
theorem comeFrom_extract {room : Nat} {e : Extraction} (h : extract room r target file text = .ok e) :
    ComeFrom r target file (sheet (lexemes text)) e.usages := by
  rw [eq_extractNodes_of_extract h]
  exact (placedInOrder_sheet text).comeFrom_extractNodes

end Stylesheet

/-! ## Sources of any kind -/

/-- What is extracted from a text is in the order of the text, for stylesheets and for scripts; anything else gives
nothing. -/
theorem Audit.inSourceOrder_extraction (a : Audit) (file text : String) :
    InSourceOrder (a.extraction file text).usages := by
  unfold Audit.extraction
  split
  · exact List.Pairwise.nil
  · split
    · -- a stylesheet that is read
      rename_i he
      exact (Stylesheet.comeFrom_extract he).order
    · exact List.Pairwise.nil
  · split
    · exact Script.inSourceOrder_extract _ _ _ _
    · exact List.Pairwise.nil

/-! ## Reports -/

/-- Uses of one file in the order of the source are in the order of places. -/
theorem InSourceOrder.placeLe {usages : List Usage} (h : InSourceOrder usages)
    (hfile : ∀ u ∈ usages, u.file = file) : usages.Pairwise fun u v => PlaceLe u.place v.place :=
  h.imp_of_mem fun {u v} hu hv hle => Or.inr ⟨(hfile u hu).trans (hfile v hv).symm, hle⟩

/-- A list of findings, sorted for a report, has the uses of one file as they were found, where they were found in the
order of the source. -/
theorem filter_inReportOrder_inList {files : List (String × List Usage)} {options : FindingsOptions}
    (hnames : (files.map Prod.fst).Nodup) (hown : ∀ f ∈ files, ∀ u ∈ f.2, u.file = f.1)
    {name : String} {usages : List Usage} (hf : (name, usages) ∈ files) (horder : InSourceOrder usages)
    (category : Category) :
    ((inReportOrder ((Findings.ofFiles files options).inList category)).filter fun u =>
        u.file = name) = inCategory options.exceptions category usages := by
  -- in the list, the uses of the file are those of the list in the file
  have hlist : (((Findings.ofFiles files options).inList category).filter fun u => u.file = name) =
      inCategory options.exceptions category usages := by
    rw [Findings.inList_ofFiles, inCategory, List.filter_comm, filter_file_of_mem hnames hown hf,
      inCategory]
  have hsorted : (((Findings.ofFiles files options).inList category).filter fun u =>
      u.file = name).Pairwise fun u v => PlaceLe u.place v.place := by
    rw [hlist]
    exact (horder.placeLe (hown _ hf)).filter _
  rw [filter_inReportOrder hsorted, hlist]

/-- **Uses come in the order of the source.** The uses of a script do not go back in lines and columns. Nor do those of a
stylesheet; each of them comes from one entry, and no two uses of one feature come from the same entry. That is so for all
entries that are placed in order, as those of a text are. So in each list of the findings on sources that are given once,
sorted for a report, the uses of a source stand as they were found. -/
theorem uses_in_source_order :
    (∀ (r : Registry) (target : Tier) (file text : String),
      InSourceOrder (Script.extract r target file text).usages) ∧
      (∀ (r : Registry) (target : Tier) (file : String) (nodes : List Stylesheet.Node),
        Stylesheet.PlacedInOrder nodes →
          Stylesheet.ComeFrom r target file nodes (Stylesheet.extractNodes r target file nodes).usages) ∧
      (∀ (room : Nat) (r : Registry) (target : Tier) (file text : String) (e : Extraction),
        Stylesheet.extract room r target file text = .ok e →
          Stylesheet.ComeFrom r target file (Stylesheet.sheet (Stylesheet.lexemes text)) e.usages) ∧
      ∀ (a : Audit) (sources : List (String × String)) (options : FindingsOptions),
        (sources.map Prod.fst).Nodup → ∀ name text, (name, text) ∈ sources → ∀ category,
          ((inReportOrder ((Findings.ofFiles (a.usesIn sources) options).inList category)).filter
              fun u => u.file = name) =
            inCategory options.exceptions category (a.extraction name text).usages := by
  refine ⟨Script.inSourceOrder_extract, fun r target file nodes h => h.comeFrom_extractNodes,
    fun room r target file text e h => Stylesheet.comeFrom_extract h, ?_⟩
  intro a sources options hnames name text hs category
  exact filter_inReportOrder_inList (Audit.nodup_usesIn hnames) Audit.file_of_mem_usesIn
    (Audit.mem_usesIn hs) (a.inSourceOrder_extraction name text) category

/-- A registry of a pseudo-class and a property. -/
def hoverRegistry : Registry :=
  .ofFeatures [⟨"hover", "Hover", .limited, [], [], []⟩, ⟨"color", "Color", .limited, [], [], []⟩]

/-- A rule in the body of another one, and a rule below. -/
def hoverSheet : String := "a\x7bb:hover\x7bcolor:red\x7d\x7d\nb\x7bcolor:red\x7d"

/-- An audit that goes by it. -/
def hoverAudit : Audit := { registry := hoverRegistry, settings := {}, room := .usual }

/-- Two sources, the stylesheet among them. -/
def hoverSources : List (String × String) := [("b.css", "b\x7bcolor:red\x7d"), ("a.css", hoverSheet)]

/-- The selector of the inner rule comes before its declaration, and the rule below comes last, in a report as well. -/
theorem uses_in_source_order_of_nested_rules :
    ((hoverSources.map Prod.fst).Nodup ∧ ("a.css", hoverSheet) ∈ hoverSources) ∧
      (∃ e, Stylesheet.extract 2 hoverRegistry .widelyAvailable "a.css" hoverSheet = .ok e ∧
        e.usages.map (fun u => (u.featureId, u.line, u.column)) =
          [("hover", 1, 3), ("color", 1, 11), ("color", 2, 3)] ∧
        Stylesheet.ComeFrom hoverRegistry .widelyAvailable "a.css"
          (Stylesheet.sheet (Stylesheet.lexemes hoverSheet)) e.usages) ∧
      ((inReportOrder ((Findings.ofFiles (hoverAudit.usesIn hoverSources) {}).inList
          .violation)).filter fun u => u.file = "a.css") =
        inCategory [] .violation (hoverAudit.extraction "a.css" hoverSheet).usages := by
  obtain ⟨-, hforest, hsheet, hreport⟩ := uses_in_source_order
  have hnames : (hoverSources.map Prod.fst).Nodup := by decide
  have hmem : ("a.css", hoverSheet) ∈ hoverSources := by decide
  have huses : ((Stylesheet.extract 2 hoverRegistry .widelyAvailable "a.css" hoverSheet).toOption.map
      fun e => e.usages.map fun u => (u.featureId, u.line, u.column)) =
      some [("hover", 1, 3), ("color", 1, 11), ("color", 2, 3)] := by
    decide +kernel
  refine ⟨⟨hnames, hmem⟩, ?_, hreport _ _ _ hnames _ _ hmem .violation⟩
  -- the text is shallow enough to be read
  cases hextract : Stylesheet.extract 2 hoverRegistry .widelyAvailable "a.css" hoverSheet with
  | error excess =>
    rw [hextract] at huses
    exact absurd huses (by simp [Except.toOption])
  | ok e =>
    rw [hextract] at huses
    exact ⟨e, rfl, Option.some.inj huses, hsheet _ _ _ _ _ e hextract⟩

end FeatureAudit
