import FeatureAudit.Proofs.Tally
import FeatureAudit.Proofs.Text.Blank
import FeatureAudit.Proofs.Text.Pieces
import FeatureAudit.Script.Lines

/-!
# The uses in a script, line by line

Each line of a script is a scope of its own, so the uses of a script are those of its lines, one line
after the other. In a line a feature is used once, by the first rule of the table that finds it.

* **`StartsComment`**, **`Rule.Finds`** — which lines are passed over, and what it is for a rule to
  find a feature in a line.
* **`extract_usages`** — the uses of a script are those of its lines.
* **`StandsFor`** — a use stands for a line and for the first rule that finds its feature there.
* **`standsFor_of_mem`**, **`usages_pairwise`** — every use does, in the order of lines and rules.
* **`one_use_for_each_line_and_feature`** — exactly one use for each line and each feature found in
  it.
-/
namespace FeatureAudit.Script

open FeatureAudit.Text

/-! ## Lines -/

/-- The line starts as a comment, blanks aside. -/
def StartsComment (line : List Char) : Prop :=
  ∃ mark ∈ ["//", "/*", "*"], mark.toList <+: stripChars line

/-- The three marks that a line may be left out for, one by one: behind its blanks it starts with two slashes, with a
slash and a star, or with a star. -/
theorem startsComment_iff {line : List Char} :
    StartsComment line ↔
      (∃ rest, stripChars line = '/' :: '/' :: rest) ∨
        (∃ rest, stripChars line = '/' :: '*' :: rest) ∨ ∃ rest, stripChars line = '*' :: rest := by
  constructor
  · rintro ⟨mark, hmark, rest, hrest⟩
    simp only [List.mem_cons, List.not_mem_nil, or_false] at hmark
    rcases hmark with rfl | rfl | rfl
    · exact Or.inl ⟨rest, hrest.symm⟩
    · exact Or.inr (Or.inl ⟨rest, hrest.symm⟩)
    · exact Or.inr (Or.inr ⟨rest, hrest.symm⟩)
  · rintro (⟨rest, h⟩ | ⟨rest, h⟩ | ⟨rest, h⟩)
    · exact ⟨"//", by simp, rest, h.symm⟩
    · exact ⟨"/*", by simp, rest, h.symm⟩
    · exact ⟨"*", by simp, rest, h.symm⟩

/-- Whatever comes after the mark of a comment, the line starts as a comment. -/
theorem startsComment_append {mark : String} (h : mark ∈ ["//", "/*", "*"]) (rest : List Char) :
    StartsComment (mark.toList ++ rest) := by
  have hmarks : (["//", "/*", "*"].all fun mark => mark.toList.all fun c => !isBlank c) = true := by decide
  have hink : ∀ c ∈ mark.toList, isBlank c = false := by
    simpa using List.all_eq_true.1 (List.all_eq_true.1 hmarks mark h)
  exact ⟨mark, h, prefix_stripChars hink rest⟩

/-- A line is taken for a comment exactly if one of the marks stands first behind its blanks. Whether the comment ends
on the line is not looked at. -/
theorem isComment_iff {line : List Char} : isComment line = true ↔ StartsComment line := by
  rw [startsComment_iff, isComment]
  -- one case for each mark, and one for a line without
  split
  · rename_i rest heq
    simp [heq]
  · rename_i rest heq
    simp [heq]
  · rename_i rest heq
    simp [heq]
  · rename_i hslashes hopening hstar
    constructor
    · intro h
      exact absurd h (by decide)
    · rintro (⟨rest, h⟩ | ⟨rest, h⟩ | ⟨rest, h⟩)
      · exact absurd h (hslashes rest)
      · exact absurd h (hopening rest)
      · exact absurd h (hstar rest)

/-- A line is looked at if it is neither blank nor starts as a comment. -/
theorem isCode_iff {line : List Char} :
    isCode line = true ↔ (∃ c ∈ line, isBlank c = false) ∧ ¬ StartsComment line := by
  have hblank : stripChars line ≠ [] ↔ ∃ c ∈ line, isBlank c = false := by
    rw [Ne, stripChars_eq_nil_iff]
    simp
  rw [isCode, Bool.and_eq_true, ← hblank, ← isComment_iff]
  simp

/-! ## Rules -/

/-- The rule finds the feature with an identifier in a line: the line is neither blank nor a comment,
the pattern of the rule occurs in it, and its token leads to the feature. -/
structure Rule.Finds (rule : Rule) (r : Registry) (line : List Char) (id : String) : Prop where
  notBlank : ∃ c ∈ line, isBlank c = false
  notComment : ¬ StartsComment line
  occurs : Script.occurs rule.pattern line = true
  resolves : ∃ f, r.lookup rule.token = some f ∧ f.id = id

variable {r : Registry} {target : Tier} {file text : String}

/-- The use that a rule makes at a line with a number. -/
def Rule.usage? (r : Registry) (target : Tier) (file : String) (number : Nat) (line : List Char)
    (rule : Rule) : Option Usage :=
  if isCode line && occurs rule.pattern line then
    (lineSite number line).usage? r target file rule.token
  else none

/-- A rule makes a use of a line exactly if the line is code, the rule's pattern occurs in it and its token names a
feature of the registry. The use is then of that feature, at the place of the line. -/
theorem Rule.usage?_eq_some_iff {number : Nat} {line : List Char} {rule : Rule} {u : Usage} :
    rule.usage? r target file number line = some u ↔
      (isCode line = true ∧ Script.occurs rule.pattern line = true) ∧
        ∃ f, r.lookup rule.token = some f ∧
          (lineSite number line).usageOf target file rule.token f = u := by
  rw [Rule.usage?, Site.usage?_eq, Option.ite_none_right_eq_some, Bool.and_eq_true,
    Option.map_eq_some_iff]

/-- A rule that makes a use of a line finds the use's feature there. -/
theorem Rule.finds_of_usage? {number : Nat} {line : List Char} {rule : Rule} {u : Usage}
    (h : rule.usage? r target file number line = some u) : rule.Finds r line u.featureId := by
  obtain ⟨⟨hcode, hoccurs⟩, f, hf, rfl⟩ := Rule.usage?_eq_some_iff.1 h
  obtain ⟨hblank, hcomment⟩ := isCode_iff.1 hcode
  exact ⟨hblank, hcomment, hoccurs, f, hf, rfl⟩

theorem Rule.Finds.exists_usage? {line : List Char} {rule : Rule} {id : String}
    (h : rule.Finds r line id) (target : Tier) (file : String) (number : Nat) :
    ∃ u, rule.usage? r target file number line = some u ∧ u.featureId = id := by
  obtain ⟨f, hf, hid⟩ := h.resolves
  have hcode : isCode line = true := isCode_iff.2 ⟨h.notBlank, h.notComment⟩
  exact ⟨_, Rule.usage?_eq_some_iff.2 ⟨⟨hcode, h.occurs⟩, f, hf, rfl⟩, hid⟩

/-- The uses of a line are those that the rules make, the first for each feature. -/
theorem usages_lineSite (number : Nat) (line : List Char) :
    (lineSite number line).usages r target file =
      keepFirst Usage.featureId (rules.filterMap (Rule.usage? r target file number line)) := by
  rw [Site.usages]
  congr 1
  cases hcode : isCode line with
  | false =>
    -- blank lines and comments have no tokens, and no rule makes a use of them
    have htokens : (lineSite number line).tokens = [] := by
      rw [lineSite, hcode]
      rfl
    have hnone : Rule.usage? r target file number line = fun _ => none := by
      funext rule
      rw [Rule.usage?, hcode, Bool.false_and]
      rfl
    rw [htokens, hnone]
    simp
  | true =>
    -- on other lines the tokens are those of the rules whose patterns occur
    have htokens : (lineSite number line).tokens = lineTokens line := by
      rw [lineSite, hcode]
      rfl
    rw [htokens, lineTokens, List.filterMap_map, List.filterMap_filter]
    congr 1
    funext rule
    rw [Rule.usage?, hcode, Bool.true_and, Function.comp_apply]

/-! ## Sites -/

/-- The lines are numbered one after another from the number that they start with, and each makes one site. -/
theorem sitesFrom_eq (number : Nat) (ls : List (List Char)) :
    sitesFrom (number + 1) ls = (ls.zipIdx number).map fun p => lineSite (p.2 + 1) p.1 := by
  induction ls generalizing number with
  | nil => rfl
  | cons line rest ih => rw [sitesFrom, ih, List.zipIdx_cons, List.map_cons]

theorem zipIdx_pairwise_lt {α : Type} (xs : List α) (n : Nat) :
    (xs.zipIdx n).Pairwise fun p q => p.2 < q.2 := by
  have hnumbers : ((xs.zipIdx n).map Prod.snd).Pairwise (· < ·) := by
    rw [List.zipIdx_map_snd]
    exact List.pairwise_lt_range'
  exact List.pairwise_map.1 hnumbers

/-- The uses of a script are those of its lines, one line after the other. -/
theorem extract_usages (r : Registry) (target : Tier) (file text : String) :
    (extract r target file text).usages =
      (text.toList.splitOn '\n').zipIdx.flatMap fun p =>
        (lineSite (p.2 + 1) p.1).usages r target file := by
  have hsites : sites text =
      (text.toList.splitOn '\n').zipIdx.map fun p => lineSite (p.2 + 1) p.1 := by
    rw [sites, sitesFrom_eq]
  -- every line is a scope of its own
  have hscopes : ((sites text).map Site.scope).Nodup := by
    rw [hsites, List.map_map]
    refine List.pairwise_map.2 ((zipIdx_pairwise_lt _ _).imp fun {p q} hlt heq => ?_)
    have hnumber : p.2 + 1 = q.2 + 1 := Scope.scriptLine.inj heq
    omega
  have hnew : ∀ s ∈ sites text, ∀ p ∈ Tally.empty.seen, p.1 ≠ s.scope := by
    intro s _ p hp
    exact absurd hp List.not_mem_nil
  rw [extract, Tally.usages_foldl_addAll _ _ hscopes hnew, hsites, List.flatMap_map]
  rfl

/-! ## Which use stands for which line and rule -/

/-- The use stands for the line at a place of the text and the rule at a place of the table, the first
that finds its feature in that line. -/
inductive StandsFor (r : Registry) (text : String) (u : Usage) (i k : Nat) : Prop where
  | intro (line : List Char) (rule : Rule)
      (line_at : (text.toList.splitOn '\n')[i]? = some line)
      (rule_at : rules[k]? = some rule)
      (finds : rule.Finds r line u.featureId)
      (first : ∀ j earlier, j < k → rules[j]? = some earlier →
        ¬ earlier.Finds r line u.featureId)
      (number : u.line = i + 1)
      (token : u.token = rule.token)
      (column : u.column = 0)
      (context : u.context = abridge contextLimit (strip (String.ofList line)))

/-- A use that a rule makes first in a line stands for the line and the rule. -/
theorem standsFor_of_firstFrom {i k : Nat} {line : List Char} {u : Usage}
    (hline : (text.toList.splitOn '\n')[i]? = some line)
    (h : FirstFrom (Rule.usage? r target file (i + 1) line) Usage.featureId rules k u) :
    StandsFor r text u i k := by
  obtain ⟨⟨rule, hrule, hgiven⟩, hfirst⟩ := h
  obtain ⟨-, f, -, hu⟩ := Rule.usage?_eq_some_iff.1 hgiven
  refine .intro line rule hline hrule (Rule.finds_of_usage? hgiven) ?_ ?_ ?_ ?_ ?_
  · -- an earlier rule that finds the feature would make a use of it
    intro j earlier hj hearlier hfinds
    obtain ⟨v, hv, hid⟩ := hfinds.exists_usage? target file (i + 1)
    exact hfirst j earlier v hj hearlier hv hid
  · rw [← hu]
    rfl
  · rw [← hu]
    rfl
  · rw [← hu]
    rfl
  · rw [← hu, strip, String.toList_ofList]
    rfl

/-- A use of a line's site stands for the first rule that finds its feature on the line. -/
theorem standsFor_of_mem_line {p : List Char × Nat} {u : Usage}
    (hp : p ∈ (text.toList.splitOn '\n').zipIdx)
    (hu : u ∈ (lineSite (p.2 + 1) p.1).usages r target file) : ∃ k, StandsFor r text u p.2 k := by
  rw [usages_lineSite] at hu
  obtain ⟨k, hk⟩ := mem_keepFirst_filterMap_iff.1 hu
  exact ⟨k, standsFor_of_firstFrom (List.mem_zipIdx_iff_getElem?.1 hp) hk⟩

/-- Every use in a script stands for a line and a rule. -/
theorem standsFor_of_mem {u : Usage} (hu : u ∈ (extract r target file text).usages) :
    ∃ i k, StandsFor r text u i k := by
  rw [extract_usages] at hu
  obtain ⟨p, hp, hu⟩ := List.mem_flatMap.1 hu
  exact ⟨p.2, standsFor_of_mem_line hp hu⟩

/-- The uses stand in the order of lines and, within a line, in that of the table. -/
theorem usages_pairwise (r : Registry) (target : Tier) (file text : String) :
    (extract r target file text).usages.Pairwise fun u v =>
      ∃ i k j l, StandsFor r text u i k ∧ StandsFor r text v j l ∧ (i < j ∨ i = j ∧ k < l) := by
  rw [extract_usages, List.pairwise_flatMap]
  constructor
  · -- inside one line the places of the rules decide
    intro p hp
    have hline := List.mem_zipIdx_iff_getElem?.1 hp
    rw [usages_lineSite]
    refine (keepFirst_filterMap_pairwise rules).imp fun ⟨k, l, hkl, hk, hl⟩ => ?_
    exact ⟨p.2, k, p.2, l, standsFor_of_firstFrom hline hk, standsFor_of_firstFrom hline hl,
      Or.inr ⟨rfl, hkl⟩⟩
  · -- between two lines their numbers do
    refine (zipIdx_pairwise_lt _ _).imp_of_mem fun {p q} hp hq hlt u hu v hv => ?_
    obtain ⟨k, hk⟩ := standsFor_of_mem_line hp hu
    obtain ⟨l, hl⟩ := standsFor_of_mem_line hq hv
    exact ⟨p.2, k, q.2, l, hk, hl, Or.inl hlt⟩

/-- Two uses that stand for different lines or rules differ in their line or their feature. -/
theorem StandsFor.place_unique {u v : Usage} {i k j l : Nat} (hu : StandsFor r text u i k)
    (hv : StandsFor r text v j l) (hline : u.line = v.line) (hid : u.featureId = v.featureId) :
    i = j ∧ k = l := by
  obtain ⟨line, rule, hlineAt, hruleAt, hfinds, hfirst, hnumber, -, -, -⟩ := hu
  obtain ⟨line', rule', hlineAt', hruleAt', hfinds', hfirst', hnumber', -, -, -⟩ := hv
  have hij : i = j := by omega
  subst hij
  obtain rfl : line = line' := Option.some.inj (hlineAt.symm.trans hlineAt')
  rw [← hid] at hfinds' hfirst'
  refine ⟨rfl, ?_⟩
  -- of two rules that find one feature in a line only one is the first
  rcases Nat.lt_trichotomy k l with hkl | hkl | hkl
  · exact absurd hfinds (hfirst' k rule hkl hruleAt)
  · exact hkl
  · exact absurd hfinds' (hfirst l rule' hkl hruleAt')

/-! ## One use for each line and feature -/

/-- The uses of one feature in the line with a number. -/
def usesAt (usages : List Usage) (number : Nat) (id : String) : List Usage :=
  usages.filter fun u => u.line = number ∧ u.featureId = id

/-- The uses at a line of a feature are those of the list that have this line and this feature. -/
theorem mem_usesAt_iff {usages : List Usage} {number : Nat} {id : String} {u : Usage} :
    u ∈ usesAt usages number id ↔ u ∈ usages ∧ u.line = number ∧ u.featureId = id := by
  rw [usesAt, List.mem_filter, decide_eq_true_eq]

/-- There is at most one use for a line and a feature. -/
theorem usesAt_eq_singleton {number : Nat} {id : String} {u : Usage}
    (hu : u ∈ usesAt (extract r target file text).usages number id) :
    usesAt (extract r target file text).usages number id = [u] := by
  -- two uses of the line and the feature would stand at one place, which the order forbids
  have hpairwise : (usesAt (extract r target file text).usages number id).Pairwise
      fun _ _ => False := by
    refine ((usages_pairwise r target file text).filter _).imp_of_mem fun {v w} hv hw hvw => ?_
    obtain ⟨i, k, j, l, hi, hj, horder⟩ := hvw
    obtain ⟨-, hvline, hvid⟩ := mem_usesAt_iff.1 hv
    obtain ⟨-, hwline, hwid⟩ := mem_usesAt_iff.1 hw
    have hplaces := hi.place_unique hj (hvline.trans hwline.symm) (hvid.trans hwid.symm)
    omega
  match hall : usesAt (extract r target file text).usages number id, hu, hpairwise with
  | [v], hu, _ => rw [List.mem_singleton.1 hu]
  | v :: w :: rest, _, hpairwise =>
    exact absurd (List.rel_of_pairwise_cons hpairwise List.mem_cons_self) not_false

/-- Where a rule finds a feature in a line, there is a use of it. -/
theorem exists_usesAt_of_finds {i : Nat} {line : List Char} {rule : Rule} {id : String}
    (hline : (text.toList.splitOn '\n')[i]? = some line) (hrule : rule ∈ rules)
    (hfinds : rule.Finds r line id) (target : Tier) (file : String) :
    ∃ u, usesAt (extract r target file text).usages (i + 1) id = [u] := by
  have hp : (line, i) ∈ (text.toList.splitOn '\n').zipIdx := List.mem_zipIdx_iff_getElem?.2 hline
  obtain ⟨v, hv, hvid⟩ := hfinds.exists_usage? target file (i + 1)
  -- of the uses that rules make of the feature in the line the first is kept
  obtain ⟨k, u, hfirst, huid⟩ := exists_firstAt Usage.featureId
    (List.mem_filterMap.2 ⟨rule, hrule, hv⟩)
  have hkept : u ∈ (lineSite (i + 1) line).usages r target file := by
    rw [usages_lineSite]
    exact mem_keepFirst_iff.2 ⟨k, hfirst⟩
  have hmem : u ∈ (extract r target file text).usages := by
    rw [extract_usages]
    exact List.mem_flatMap.2 ⟨(line, i), hp, hkept⟩
  obtain ⟨l, -, -, -, -, -, -, hnumber, -, -, -⟩ := standsFor_of_mem_line hp hkept
  exact ⟨u, usesAt_eq_singleton (mem_usesAt_iff.2 ⟨hmem, hnumber, huid.trans hvid⟩)⟩

/-- A feature that is used in a line is found there by a rule. -/
theorem finds_of_mem_usesAt {i : Nat} {line : List Char} {id : String} {u : Usage}
    (hline : (text.toList.splitOn '\n')[i]? = some line)
    (hu : u ∈ usesAt (extract r target file text).usages (i + 1) id) :
    ∃ rule ∈ rules, rule.Finds r line id := by
  obtain ⟨hmem, hnumber, rfl⟩ := mem_usesAt_iff.1 hu
  obtain ⟨j, k, line', rule, hline', hrule, hfinds, -, hnumber', -, -, -⟩ := standsFor_of_mem hmem
  have hij : i = j := by omega
  subst hij
  obtain rfl : line = line' := Option.some.inj (hline.symm.trans hline')
  exact ⟨rule, List.mem_of_getElem? hrule, hfinds⟩

/-- **One use for each line and feature**: if some rule finds the feature in the line there is exactly
one, and otherwise none. Each use stands for a line and for the first rule of the table that finds its
feature there, and the uses are in the order of lines and rules. -/
theorem one_use_for_each_line_and_feature (r : Registry) (target : Tier) (file text : String) :
    (∀ i line id, (text.toList.splitOn '\n')[i]? = some line →
        ((∃ rule ∈ rules, rule.Finds r line id) →
            ∃ u, usesAt (extract r target file text).usages (i + 1) id = [u]) ∧
          ((¬ ∃ rule ∈ rules, rule.Finds r line id) →
            usesAt (extract r target file text).usages (i + 1) id = [])) ∧
      (∀ u ∈ (extract r target file text).usages, ∃ i k, StandsFor r text u i k) ∧
      (extract r target file text).usages.Pairwise fun u v =>
        ∃ i k j l, StandsFor r text u i k ∧ StandsFor r text v j l ∧ (i < j ∨ i = j ∧ k < l) := by
  refine ⟨fun i line id hline => ⟨?_, ?_⟩, fun u hu => standsFor_of_mem hu,
    usages_pairwise r target file text⟩
  · rintro ⟨rule, hrule, hfinds⟩
    exact exists_usesAt_of_finds hline hrule hfinds target file
  · intro hnone
    rw [List.eq_nil_iff_forall_not_mem]
    intro u hu
    exact hnone (finds_of_mem_usesAt hline hu)

/-- A feature to which two tokens of the table lead. -/
def urlFeature : Feature := ⟨"url", "URL", .widelyAvailable, [], [], ["url-api"]⟩

/-- A comment, and a line in which both tokens are found. -/
def urlScript : String := "//\nnew URL(new URLSearchParams)"

/-- In the second line there is one use, by the rule that comes first in the table. -/
theorem one_use_for_each_line_and_feature_of_two_rules :
    ∃ u, usesAt (extract (.ofFeatures [urlFeature]) .widelyAvailable "a.js" urlScript).usages 2
          "url" = [u] ∧
      u.token = "url" ∧ ∃ i k, StandsFor (.ofFeatures [urlFeature]) urlScript u i k := by
  obtain ⟨hexact, hstands, -⟩ := one_use_for_each_line_and_feature (.ofFeatures [urlFeature])
    .widelyAvailable "a.js" urlScript
  have hline : (urlScript.toList.splitOn '\n')[1]? =
      some "new URL(new URLSearchParams)".toList := by
    decide
  have hrule : (⟨newCall "URL", "url"⟩ : Rule) ∈ rules := List.mem_of_getElem? (i := 27) rfl
  have hfinds : Rule.Finds ⟨newCall "URL", "url"⟩ (.ofFeatures [urlFeature])
      "new URL(new URLSearchParams)".toList "url" := by
    have hcode : isCode "new URL(new URLSearchParams)".toList = true := by decide
    obtain ⟨hblank, hcomment⟩ := isCode_iff.1 hcode
    exact ⟨hblank, hcomment, by decide +kernel, urlFeature, by decide +kernel, rfl⟩
  -- two rules find the feature on the second line, and one use is made of it
  obtain ⟨u, hu⟩ := (hexact 1 _ "url" hline).1 ⟨_, hrule, hfinds⟩
  have hmem : u ∈ (extract (.ofFeatures [urlFeature]) .widelyAvailable "a.js" urlScript).usages :=
    (mem_usesAt_iff.1 (hu ▸ List.mem_singleton_self u)).1
  have htokens : ∀ v ∈ (extract (.ofFeatures [urlFeature]) .widelyAvailable "a.js"
      urlScript).usages, v.token = "url" := by
    decide +kernel
  exact ⟨u, hu, htokens u hmem, hstands u hmem⟩

end FeatureAudit.Script
