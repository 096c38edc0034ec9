import FeatureAudit.Proofs.Spelling.VendorMarks
import FeatureAudit.Proofs.Stylesheet.Addresses
import FeatureAudit.Proofs.Stylesheet.SelectorNames

/-!
# The tokens of an entry that may name features

An entry of a stylesheet has a list of tokens, in the order in which they are tried. Which they are is said here by shapes
and addresses alone: by what a property's name starts with, by the components of a value or a prelude at every depth, and
by the names in a selector. None of the searches of an extraction is used to say it, and each is proved to find this.

* **`PropertyTokens`** — the tokens of a property's name.
* **`Component.Names`**, **`Component.AsksOf`**, **`Component.AsksFor`** — what a component says in a value, in the prelude
  of `@media`, and in that of `@supports`.
* **`Node.HasCandidates`** — the tokens of an entry, in order.
* **`hasCandidates_iff`** — the site of an entry has them; **`existsUnique_candidates`** — every entry has one list.
-/
namespace FeatureAudit.Stylesheet

open FeatureAudit.Text Component

/-! ## Names of properties -/

/-- The tokens of a property's name. All custom properties have one token in common. The others have their name in small
letters and, if a vendor's mark stands before it, the name behind the mark. -/
inductive PropertyTokens : String → List String → Prop where
  | custom {name : String} (h : "--".toList <+: name.toList) : PropertyTokens name ["--"]
  | marked {name plain : String} {mark : List Char} (hcustom : ¬ "--".toList <+: name.toList)
      (hmark : IsMark mark) (h : (asciiLower name).toList = mark ++ plain.toList) :
      PropertyTokens name [asciiLower name, plain]
  | unmarked {name : String} (hcustom : ¬ "--".toList <+: name.toList)
      (h : ∀ mark, IsMark mark → ¬ mark <+: (asciiLower name).toList) :
      PropertyTokens name [asciiLower name]

/-- The three cases of a property's name, with the tests as propositions: a custom property, a name that a vendor's
mark changes nothing of, and a name with a mark before it. -/
theorem propertyTokens_eq (name : String) :
    propertyTokens name =
      if "--".toList <+: name.toList then ["--"]
      else if unmarked (asciiLower name) = asciiLower name then [asciiLower name]
      else [asciiLower name, unmarked (asciiLower name)] := by
  simp [propertyTokens]

/-- A mark has characters, so what stands behind it is not the whole name. -/
theorem unmarked_ne_of_isMark {name plain : String} {mark : List Char} (hmark : IsMark mark)
    (h : name.toList = mark ++ plain.toList) : unmarked name = plain ∧ plain ≠ name := by
  refine ⟨by rw [unmarked, h, unmarkedChars_of_isMark hmark, String.ofList_toList], ?_⟩
  rintro rfl
  have hlength := congrArg List.length h
  rw [List.length_append] at hlength
  obtain ⟨vendor, -, hvendor⟩ := hmark
  have := hvendor.length_eq
  rw [List.length_cons] at this
  omega

/-- A name that no vendor's mark stands before is its own plain name. -/
theorem unmarked_of_no_mark {name : String} (h : ∀ mark, IsMark mark → ¬ mark <+: name.toList) :
    unmarked name = name := by
  rw [unmarked, unmarkedChars_of_no_mark h, String.ofList_toList]

/-- The tokens of a property's name are those that an extraction tries. -/
theorem propertyTokens_iff {name : String} {tokens : List String} :
    PropertyTokens name tokens ↔ propertyTokens name = tokens := by
  rw [propertyTokens_eq]
  constructor
  · intro h
    cases h with
    | custom h => rw [if_pos h]
    | marked hcustom hmark h =>
      obtain ⟨hplain, hne⟩ := unmarked_ne_of_isMark hmark h
      rw [if_neg hcustom, hplain, if_neg hne]
    | unmarked hcustom hnone => rw [if_neg hcustom, if_pos (unmarked_of_no_mark hnone)]
  · rintro rfl
    split
    · rename_i h
      exact .custom h
    · rename_i hcustom
      -- a mark stands before the name, or none does
      rcases unmarkedChars_eq_iff.1 (Eq.refl (unmarkedChars (asciiLower name).toList)) with
        ⟨mark, hmark, heq⟩ | ⟨hnone, -⟩
      · have hname : (asciiLower name).toList = mark ++ (unmarked (asciiLower name)).toList := by
          rw [unmarked, String.toList_ofList]
          exact heq
        rw [if_neg (unmarked_ne_of_isMark hmark hname).2]
        exact .marked hcustom hmark hname
      · rw [if_pos (unmarked_of_no_mark hnone)]
        exact .unmarked hcustom hnone

/-! ## Components of values and preludes -/

/-- A component of a value names a token: a function that is more than notation, a keyword, or a
number by its unit. -/
inductive Component.Names : Component → String → Prop where
  | function {pos : Position} {name : String} {args : List Component}
      (h : asciiLower name ∉ plainFunctions) :
      Names (.nest pos (.function name) args) (asciiLower name)
  | keyword {pos : Position} {name : String} (h : asciiLower name ∈ keywords) :
      Names (.leaf pos (.ident name)) (asciiLower name)
  | unit {pos : Position} {text unit : String} (h : asciiLower unit ∈ units) :
      Names (.leaf pos (.dimension text unit)) (asciiLower unit ++ "-unit")

/-- What a component names in a value is what an extraction finds there. -/
theorem valueToken?_eq_some_iff {c : Component} {token : String} :
    valueToken? c = some token ↔ c.Names token := by
  constructor
  · intro h
    cases c with
    | leaf pos l =>
      cases l with
      | ident name =>
        obtain ⟨hmem, rfl⟩ : asciiLower name ∈ keywords ∧ asciiLower name = token := by
          simpa [valueToken?] using h
        exact .keyword hmem
      | dimension text unit =>
        obtain ⟨hmem, rfl⟩ : asciiLower unit ∈ units ∧ asciiLower unit ++ "-unit" = token := by
          simpa [valueToken?] using h
        exact .unit hmem
      | _ => exact absurd h (by simp [valueToken?])
    | nest pos n content =>
      cases n with
      | function name =>
        obtain ⟨hmem, rfl⟩ : asciiLower name ∉ plainFunctions ∧ asciiLower name = token := by
          simpa [valueToken?] using h
        exact .function hmem
      | block b => exact absurd h (by simp [valueToken?])
  · intro h
    cases h with
    | function h => simp [valueToken?, h]
    | keyword h => simp [valueToken?, h]
    | unit h => simp [valueToken?, h]

/-- An identifier in the prelude of `@media` asks of a device or a user what the name says, as it stands or with the mark
of a range before it. -/
inductive Component.AsksOf : Component → String → Prop where
  | intro {pos : Position} {name feature : String} (hfeature : feature ∈ mediaFeatures)
      (h : asciiLower name ∈ [feature, "min-" ++ feature, "max-" ++ feature]) :
      AsksOf (.leaf pos (.ident name)) feature

/-- Of the names that are asked for none has the mark of a range itself. -/
theorem withoutRange_of_mem_mediaFeatures : ∀ feature ∈ mediaFeatures, withoutRange feature = feature := by
  decide +kernel

/-- Behind the mark of a range the name is read whole, also where it starts with such a mark once more: one mark is
taken off. -/
theorem withoutRange_append {mark name : String} (hmark : mark ∈ ["min-", "max-"]) :
    withoutRange (mark ++ name) = name := by
  simp only [List.mem_cons, List.not_mem_nil, or_false] at hmark
  rcases hmark with rfl | rfl
  · simp [withoutRange]
  · simp [withoutRange]

/-- A name without the mark of a range is what a query asks for exactly if it is that, with a mark or without. -/
theorem withoutRange_eq_iff {name feature : String} (hfeature : feature ∈ mediaFeatures) :
    withoutRange name = feature ↔ name ∈ [feature, "min-" ++ feature, "max-" ++ feature] := by
  constructor
  · rintro rfl
    -- a mark stands before the name and is taken off, or the name is the feature as it stands
    by_cases hrange : ∃ mark ∈ ["min-", "max-"], mark.toList <+: name.toList
    · obtain ⟨mark, hmark, rest, hname⟩ := hrange
      obtain rfl : name = mark ++ String.ofList rest := by
        rw [← String.toList_inj, String.toList_append, String.toList_ofList, hname]
      rw [withoutRange_append hmark]
      simp only [List.mem_cons, List.not_mem_nil, or_false] at hmark
      rcases hmark with rfl | rfl
      · exact List.mem_cons_of_mem _ List.mem_cons_self
      · exact List.mem_cons_of_mem _ (List.mem_cons_of_mem _ List.mem_cons_self)
    · have hplain : withoutRange name = name := by
        have hnone : ¬ "min-".toList <+: name.toList ∧ ¬ "max-".toList <+: name.toList := by
          simpa using hrange
        simp only [withoutRange, Bool.or_eq_true, List.isPrefixOf_iff_prefix]
        rw [if_neg (not_or.2 hnone)]
      rw [hplain]
      exact List.mem_cons_self
  · intro h
    simp only [List.mem_cons, List.not_mem_nil, or_false] at h
    rcases h with rfl | rfl | rfl
    · exact withoutRange_of_mem_mediaFeatures _ hfeature
    · exact withoutRange_append (by decide)
    · exact withoutRange_append (by decide)

/-- What a component asks of a device is what an extraction finds there. -/
theorem mediaToken?_eq_some_iff {c : Component} {feature : String} :
    mediaToken? c = some feature ↔ c.AsksOf feature := by
  unfold mediaToken?
  constructor
  · intro h
    split at h
    · rename_i name hname
      obtain ⟨pos, rfl⟩ := ident?_eq_some_iff.1 hname
      dsimp only at h
      split at h
      · -- what is asked for stands in the table without the mark of a range
        rename_i hmem
        obtain rfl := Option.some.inj h
        have hfeature : withoutRange (asciiLower name) ∈ mediaFeatures := by simpa using hmem
        exact .intro hfeature ((withoutRange_eq_iff hfeature).1 rfl)
      · exact absurd h (by simp)
    · exact absurd h (by simp)
  · rintro ⟨hfeature, h⟩
    simp [ident?, (withoutRange_eq_iff hfeature).2 h, hfeature]

/-- A block in round brackets is a condition on a property: the first two components in it, whitespace and comments
apart, are the name of the property and a colon. -/
inductive Component.AsksFor : Component → String → Prop where
  | intro {pos namePos colonPos : Position} {name : String} {content more : List Component}
      (h : significant content = .leaf namePos (.ident name) :: .leaf colonPos (.literal ":") :: more) :
      AsksFor (.nest pos (.block .round) content) (asciiLower name)

/-- The property that a condition asks for is what an extraction finds there. -/
theorem conditionProperty?_eq_some_iff {c : Component} {name : String} :
    conditionProperty? c = some name ↔ c.AsksFor name := by
  constructor
  · intro h
    unfold conditionProperty? at h
    split at h
    · split at h
      · -- the block starts with a name
        rename_i hcontent
        split at h
        · -- and with a colon behind it
          rename_i hcolon
          obtain ⟨colonPos, rfl⟩ := isLiteral_iff.1 hcolon
          obtain rfl := Option.some.inj h
          exact .intro hcontent
        · exact absurd h (by simp)
      · exact absurd h (by simp)
    · exact absurd h (by simp)
  · rintro ⟨h⟩
    simp [conditionProperty?, h, Component.isLiteral]

/-- Whitespace, comments and faults name nothing. -/
theorem filterMap_flattened {f : Component → Option String} (cs : List Component)
    (h : ∀ c, c.isToken = false → f c = none) :
    (flattened cs).filterMap f = (Component.preorderOf cs).filterMap f := by
  rw [flattened_eq_filter, List.filterMap_filter]
  congr 1
  funext c
  cases hc : c.isToken with
  | true => simp
  | false => simp [h c hc]

/-- The components that are no tokens are whitespace, comments and faults: what an extraction passes over in a value
or a prelude. -/
theorem not_isToken_iff {c : Component} :
    c.isToken = false ↔
      (∃ pos text, c = .leaf pos (.whitespace text)) ∨ (∃ pos text, c = .leaf pos (.comment text)) ∨
        ∃ pos fault, c = .leaf pos (.error fault) := by
  cases c with
  | leaf pos l => cases l <;> simp [Component.isToken]
  | nest pos n content => simp [Component.isToken]

/-! ## Entries -/

/-- The tokens of an entry that may name features, in order. A declaration has those of its name, and then those that the
components of its value name at every depth. A rule has the names in its selector. An at-rule has its keyword; then those
of a query or a condition, where it is one, or the name of what it brings. -/
inductive Node.HasCandidates : Node → List String → Prop where
  | declaration {pos : Position} {name : String} {value : List Component} {important : Bool}
      {own named : List String} (hown : PropertyTokens name own) (hnamed : Visits Component.Names value named) :
      HasCandidates (.declaration pos name value important) (own ++ named)
  | rule {pos : Position} {prelude : List Component} {body : List Node} {names : List String}
      (h : SelectorNames (significant prelude) names) : HasCandidates (.rule pos prelude body) names
  | media {pos : Position} {keyword : String} {prelude : List Component} {body : List Node}
      {features : List String} (hkeyword : asciiLower keyword = "media")
      (h : Visits Component.AsksOf prelude features) :
      HasCandidates (.atRule pos keyword prelude body) ("@media" :: features)
  | supports {pos : Position} {keyword : String} {prelude : List Component} {body : List Node}
      {properties : List String} (hkeyword : asciiLower keyword = "supports")
      (h : Visits Component.AsksFor prelude properties) :
      HasCandidates (.atRule pos keyword prelude body) ("@supports" :: properties)
  | container {pos : Position} {keyword : String} {prelude : List Component} {body : List Node}
      (hkeyword : asciiLower keyword = "container") :
      HasCandidates (.atRule pos keyword prelude body) ["@container", "container-queries"]
  | layer {pos : Position} {keyword : String} {prelude : List Component} {body : List Node}
      (hkeyword : asciiLower keyword = "layer") :
      HasCandidates (.atRule pos keyword prelude body) ["@layer", "cascade-layers"]
  | other {pos : Position} {keyword : String} {prelude : List Component} {body : List Node}
      (hkeyword : asciiLower keyword ∉ ["media", "supports", "container", "layer"]) :
      HasCandidates (.atRule pos keyword prelude body) ["@" ++ asciiLower keyword]
  | error {pos : Position} {fault : Fault} : HasCandidates (.error pos fault) []

/-- The features that the query of a prelude asks for, in pre-order. -/
theorem preludeTokens_of_media {prelude : List Component} :
    preludeTokens "media" prelude = (Component.preorderOf prelude).filterMap mediaToken? :=
  filterMap_flattened prelude fun c hc => by
    rcases not_isToken_iff.1 hc with ⟨pos, text, rfl⟩ | ⟨pos, text, rfl⟩ | ⟨pos, fault, rfl⟩ <;> rfl

/-- The properties that the conditions of a prelude ask for. -/
theorem preludeTokens_supports (prelude : List Component) :
    preludeTokens "supports" prelude = (Component.preorderOf prelude).filterMap conditionProperty? :=
  filterMap_flattened prelude fun c hc => by
    rcases not_isToken_iff.1 hc with ⟨pos, text, rfl⟩ | ⟨pos, text, rfl⟩ | ⟨pos, fault, rfl⟩ <;> rfl

/-- No other at-rule has tokens in its prelude: what `@keyframes`, `@font-face` or an unknown keyword is followed by
names nothing. -/
theorem preludeTokens_of_other {keyword : String} (h : keyword ∉ ["media", "supports", "container", "layer"])
    (prelude : List Component) : preludeTokens keyword prelude = [] := by
  simp only [List.mem_cons, List.not_mem_nil, or_false, not_or] at h
  obtain ⟨hmedia, hsupports, hcontainer, hlayer⟩ := h
  unfold preludeTokens
  split
  · exact absurd rfl hmedia
  · exact absurd rfl hsupports
  · exact absurd rfl hcontainer
  · exact absurd rfl hlayer
  · rfl

/-- A declaration tries the tokens of its name, and then those that the components of its value name, in pre-order. -/
theorem declarationSite_tokens (pos : Position) (name : String) (value : List Component) (important : Bool) :
    (declarationSite pos name value important).tokens =
      propertyTokens name ++ (Component.preorderOf value).filterMap valueToken? := by
  rw [← filterMap_flattened]
  · rfl
  · intro c hc
    rcases not_isToken_iff.1 hc with ⟨pos, text, rfl⟩ | ⟨pos, text, rfl⟩ | ⟨pos, fault, rfl⟩ <;> rfl

/-- An at-rule tries its own keyword, and then the tokens of its prelude. -/
theorem atRuleSite_tokens (pos : Position) (keyword : String) (prelude : List Component) :
    (atRuleSite pos keyword prelude).tokens =
      ("@" ++ asciiLower keyword) :: preludeTokens (asciiLower keyword) prelude := rfl

/-- The tokens of an entry are those that its site tries; a fault has no site and no tokens. -/
theorem hasCandidates_iff {n : Node} {tokens : List String} :
    n.HasCandidates tokens ↔ (n.site?.map Site.tokens).getD [] = tokens := by
  cases n with
  | declaration pos name value important =>
    show _ ↔ (declarationSite pos name value important).tokens = tokens
    rw [declarationSite_tokens]
    constructor
    · rintro (@⟨_, _, _, _, own, named, hown, hnamed⟩)
      rw [propertyTokens_iff.1 hown, (visits_iff_filterMap fun _ _ => valueToken?_eq_some_iff).1 hnamed]
    · rintro rfl
      exact .declaration (propertyTokens_iff.2 rfl)
        ((visits_iff_filterMap fun _ _ => valueToken?_eq_some_iff).2 rfl)
  | rule pos prelude body =>
    show _ ↔ (scanSelector (significant prelude)).names = tokens
    rw [← selectorNames_iff]
    constructor
    · intro h
      cases h with
      | rule h => exact h
    · exact .rule
  | atRule pos keyword prelude body =>
    show _ ↔ (atRuleSite pos keyword prelude).tokens = tokens
    rw [atRuleSite_tokens]
    constructor
    · intro h
      cases h with
      | media hkeyword h =>
        rw [hkeyword, preludeTokens_of_media, (visits_iff_filterMap fun _ _ => mediaToken?_eq_some_iff).1 h]
        rfl
      | supports hkeyword h =>
        rw [hkeyword, preludeTokens_supports,
          (visits_iff_filterMap fun _ _ => conditionProperty?_eq_some_iff).1 h]
        rfl
      | container hkeyword => rw [hkeyword]; rfl
      | layer hkeyword => rw [hkeyword]; rfl
      | other hkeyword => rw [preludeTokens_of_other hkeyword]
    · rintro rfl
      -- the keyword has tokens of its own, or none
      by_cases hmedia : asciiLower keyword = "media"
      · rw [hmedia, preludeTokens_of_media]
        exact .media hmedia ((visits_iff_filterMap fun _ _ => mediaToken?_eq_some_iff).2 rfl)
      by_cases hsupports : asciiLower keyword = "supports"
      · rw [hsupports, preludeTokens_supports]
        exact .supports hsupports ((visits_iff_filterMap fun _ _ => conditionProperty?_eq_some_iff).2 rfl)
      by_cases hcontainer : asciiLower keyword = "container"
      · rw [hcontainer]
        exact .container hcontainer
      by_cases hlayer : asciiLower keyword = "layer"
      · rw [hlayer]
        exact .layer hlayer
      have hother : asciiLower keyword ∉ ["media", "supports", "container", "layer"] := by
        simp [hmedia, hsupports, hcontainer, hlayer]
      rw [preludeTokens_of_other hother]
      exact .other hother
  | error pos fault =>
    show _ ↔ [] = tokens
    constructor
    · intro h
      cases h with
      | error => rfl
    · rintro rfl
      exact .error

/-- An entry has one list of tokens: the relation says which they are and in what order, and leaves nothing open. -/
theorem Node.HasCandidates.unique {n : Node} {tokens tokens' : List String} (h : n.HasCandidates tokens)
    (h' : n.HasCandidates tokens') : tokens = tokens' :=
  (hasCandidates_iff.1 h).symm.trans (hasCandidates_iff.1 h')

/-- The tokens of an entry are those that its site tries. -/
theorem hasCandidates_of_site? {n : Node} {s : Site} (h : n.site? = some s) : n.HasCandidates s.tokens := by
  rw [hasCandidates_iff, h]
  rfl

/-- The entries of every forest have one list of tokens each, so a reference extraction that is given the lists is a
function of the forest. -/
theorem existsUnique_candidates (nodes : List Node) :
    ∃! candidates : List (List String), List.Forall₂ Node.HasCandidates nodes candidates := by
  refine ⟨nodes.map fun n => (n.site?.map Site.tokens).getD [], ?_, fun candidates h => ?_⟩
  · exact List.forall₂_map_right_iff.2 (List.forall₂_same.2 fun n _ => hasCandidates_iff.2 rfl)
  · refine List.right_unique_forall₂' (fun n _ _ h h' => h.unique h') h ?_
    exact List.forall₂_map_right_iff.2 (List.forall₂_same.2 fun n _ => hasCandidates_iff.2 rfl)

end FeatureAudit.Stylesheet
