import FeatureAudit.Proofs.Stylesheet.SelectorLists

/-!
# The names in a selector

A selector is read from its start to its end. Where something with a name starts, its name is taken and what comes after
it is read on; otherwise one component is passed over. What has a name, and which, is said here by shapes: it does not
take the steps of a scan to say it, and a selector has one list of names.

* **`IsColons`**, **`IsPiercing`** — what stands before the name of a pseudo-class, and the combinators with three parts.
* **`StartsNamed`** — something with a name starts here.
* **`SelectorNames`** — the names in a selector, whose whitespace and comments are left out.
* **`selectorNames_iff`** — the scan finds them.
-/
namespace FeatureAudit.Stylesheet

open FeatureAudit.Text Component

/-! ## Shapes -/

/-- One colon or two. -/
inductive IsColons : List Component → Prop where
  | one (pos : Position) : IsColons [.leaf pos (.literal ":")]
  | two (pos pos' : Position) : IsColons [.leaf pos (.literal ":"), .leaf pos' (.literal ":")]

/-- A combinator that pierces shadow boundaries: `>>>` or `/deep/`. -/
inductive IsPiercing : List Component → Prop where
  | arrows (pos pos' pos'' : Position) :
      IsPiercing [.leaf pos (.literal ">"), .leaf pos' (.literal ">"), .leaf pos'' (.literal ">")]
  | deep (pos pos' pos'' : Position) {name : String} (h : asciiLower name = "deep") :
      IsPiercing [.leaf pos (.literal "/"), .leaf pos' (.ident name), .leaf pos'' (.literal "/")]

/-- Something with a name of its own or with names in it starts here: a pseudo-class or a pseudo-element, an attribute in
square brackets, a function, or a combinator that pierces shadow boundaries. -/
inductive StartsNamed : List Component → Prop where
  | ident {colons rest : List Component} (h : IsColons colons) (pos : Position) (name : String) :
      StartsNamed (colons ++ .leaf pos (.ident name) :: rest)
  | functional {colons args rest : List Component} (h : IsColons colons) (pos : Position) (name : String) :
      StartsNamed (colons ++ .nest pos (.function name) args :: rest)
  | bracketed {content rest : List Component} (pos : Position) :
      StartsNamed (.nest pos (.block .square) content :: rest)
  | function {args rest : List Component} (pos : Position) (name : String) :
      StartsNamed (.nest pos (.function name) args :: rest)
  | piercing {combinator rest : List Component} (h : IsPiercing combinator) : StartsNamed (combinator ++ rest)

/-- The name of an attribute in square brackets: that of the first identifier between them, if there is one. -/
inductive AttributeNames : List Component → List String → Prop where
  | first {before after : List Component} {pos : Position} {name : String}
      (h : ∀ c ∈ before, ∀ pos name, c ≠ .leaf pos (.ident name)) :
      AttributeNames (before ++ .leaf pos (.ident name) :: after) ["[" ++ asciiLower name ++ "]"]
  | none {content : List Component} (h : ∀ c ∈ content, ∀ pos name, c ≠ .leaf pos (.ident name)) :
      AttributeNames content []

/-- The names in a selector without whitespace and comments, in their order. The arguments of a function are a selector
again, and the names in them come before those that follow the function. -/
inductive SelectorNames : List Component → List String → Prop where
  | nil : SelectorNames [] []
  | ident {colons rest : List Component} {pos : Position} {name : String} {names : List String}
      (h : IsColons colons) (hrest : SelectorNames rest names) :
      SelectorNames (colons ++ .leaf pos (.ident name) :: rest) (asciiLower name :: names)
  | functional {colons args rest : List Component} {pos : Position} {name : String} {inner names : List String}
      (h : IsColons colons) (hargs : SelectorNames (significant args) inner) (hrest : SelectorNames rest names) :
      SelectorNames (colons ++ .nest pos (.function name) args :: rest) (asciiLower name :: (inner ++ names))
  | bracketed {content rest : List Component} {pos : Position} {inner names : List String}
      (h : AttributeNames content inner) (hrest : SelectorNames rest names) :
      SelectorNames (.nest pos (.block .square) content :: rest) (inner ++ names)
  | function {args rest : List Component} {pos : Position} {name : String} {inner names : List String}
      (hargs : SelectorNames (significant args) inner) (hrest : SelectorNames rest names) :
      SelectorNames (.nest pos (.function name) args :: rest) (inner ++ names)
  | piercing {combinator rest : List Component} {names : List String} (h : IsPiercing combinator)
      (hrest : SelectorNames rest names) : SelectorNames (combinator ++ rest) (deepCombinator :: names)
  | other {c : Component} {rest : List Component} {names : List String} (h : ¬ StartsNamed (c :: rest))
      (hrest : SelectorNames rest names) : SelectorNames (c :: rest) names

/-! ## There are names

Whatever starts at a component, what is left after it is lighter, and so are the arguments of a function. -/

/-- What stands behind a component weighs less than the whole list, whatever is before it. -/
theorem weightOfAll_lt_of_append {front rest : List Component} {c : Component} :
    weightOfAll rest < weightOfAll (front ++ c :: rest) := by
  have := weightOfAll_lt_cons c rest
  rw [weightOfAll_append]
  omega

/-- The arguments of a function weigh less than a list that starts with the function, also without their whitespace.
-/
theorem weightOfAll_significant_lt_cons {args rest : List Component} {pos : Position} {n : Nest} :
    weightOfAll (significant args) < weightOfAll (.nest pos n args :: rest) := by
  have := weightOfAll_filter_le (fun c => !c.isWhitespace) args
  rw [weightOfAll, weight, significant]
  omega

theorem weightOfAll_significant_lt {front args rest : List Component} {pos : Position} {n : Nest} :
    weightOfAll (significant args) < weightOfAll (front ++ .nest pos n args :: rest) := by
  rw [weightOfAll_append]
  exact Nat.lt_add_left _ weightOfAll_significant_lt_cons

/-- The name is read off a component exactly if that is an identifier with this name. -/
theorem ident?_eq_some_iff {c : Component} {name : String} :
    c.ident? = some name ↔ ∃ pos, c = .leaf pos (.ident name) := by
  constructor
  · intro h
    cases c with
    | leaf pos l =>
      cases l with
      | ident found =>
        obtain rfl := Option.some.inj h
        exact ⟨pos, rfl⟩
      | _ => exact absurd h (by simp [ident?])
    | nest pos n content => exact absurd h (by simp [ident?])
  · rintro ⟨pos, rfl⟩
    rfl

theorem ident?_eq_none_iff {c : Component} : c.ident? = none ↔ ∀ pos name, c ≠ .leaf pos (.ident name) := by
  rw [Option.eq_none_iff_forall_ne_some]
  simp only [ne_eq, ident?_eq_some_iff, not_exists]
  exact forall_comm

/-- The name that is found between square brackets is that of the first identifier. -/
theorem attributeNames_iff {content : List Component} {names : List String} :
    AttributeNames content names ↔ (attributeName? content).toList = names := by
  constructor
  · intro h
    unfold attributeName?
    cases h with
    | @first before after pos name h =>
      -- the first identifier of the brackets is the attribute; no component before it gives a name
      have hbefore : before.findSome? (fun c => c.ident?.map fun name => "[" ++ asciiLower name ++ "]") = none :=
        List.findSome?_eq_none_iff.2 fun c hc => by rw [ident?_eq_none_iff.2 (h c hc)]; rfl
      rw [List.findSome?_append, hbefore]
      rfl
    | none h =>
      rw [List.findSome?_eq_none_iff.2 fun c hc => by rw [ident?_eq_none_iff.2 (h c hc)]; rfl]
      rfl
  · rintro rfl
    cases hfound : attributeName? content with
    | none =>
      -- no identifier stands in the brackets, as in `[*]`
      refine .none fun c hc => ident?_eq_none_iff.1 ?_
      exact Option.map_eq_none_iff.1 (List.findSome?_eq_none_iff.1 hfound c hc)
    | some found =>
      obtain ⟨before, c, after, rfl, hc, hbefore⟩ := List.findSome?_eq_some_iff.1 hfound
      obtain ⟨name, hname, rfl⟩ := Option.map_eq_some_iff.1 hc
      obtain ⟨pos, rfl⟩ := ident?_eq_some_iff.1 hname
      exact .first fun d hd => ident?_eq_none_iff.1 (Option.map_eq_none_iff.1 (hbefore d hd))

/-- Behind the colons and the name of a pseudo-class less is left. -/
theorem IsColons.weightOfAll_lt {colons : List Component} (_ : IsColons colons) (c : Component)
    (rest : List Component) : weightOfAll rest < weightOfAll (colons ++ c :: rest) := by
  have := weightOfAll_lt_cons c rest
  rw [weightOfAll_append]
  omega

theorem IsPiercing.weightOfAll_lt {combinator : List Component} (h : IsPiercing combinator)
    (rest : List Component) : weightOfAll rest < weightOfAll (combinator ++ rest) := by
  rw [weightOfAll_append]
  cases h <;> simp [weightOfAll, weight]

/-- Every list of components has its names. The induction is on what the list weighs, and where something with a name
starts, the rest and the arguments weigh less. -/
theorem exists_selectorNames (cs : List Component) : ∃ names, SelectorNames cs names := by
  generalize hweight : weightOfAll cs = weight
  induction weight using Nat.strongRecOn generalizing cs with
  | ind weight ih =>
    subst hweight
    -- the list starts with something that has a name, or its first component is passed over
    by_cases hstarts : StartsNamed cs
    · cases hstarts with
      | ident h pos name =>
        obtain ⟨names, hrest⟩ := ih _ weightOfAll_lt_of_append _ rfl
        exact ⟨_, .ident h hrest⟩
      | functional h pos name =>
        obtain ⟨inner, hargs⟩ := ih _ weightOfAll_significant_lt _ rfl
        obtain ⟨names, hrest⟩ := ih _ weightOfAll_lt_of_append _ rfl
        exact ⟨_, .functional h hargs hrest⟩
      | bracketed pos =>
        obtain ⟨names, hrest⟩ := ih _ (weightOfAll_lt_cons _ _) _ rfl
        exact ⟨_, .bracketed (attributeNames_iff.2 rfl) hrest⟩
      | function pos name =>
        obtain ⟨inner, hargs⟩ := ih _ weightOfAll_significant_lt_cons _ rfl
        obtain ⟨names, hrest⟩ := ih _ (weightOfAll_lt_cons _ _) _ rfl
        exact ⟨_, .function hargs hrest⟩
      | piercing h =>
        obtain ⟨names, hrest⟩ := ih _ (h.weightOfAll_lt _) _ rfl
        exact ⟨_, .piercing h hrest⟩
    · cases cs with
      | nil => exact ⟨[], .nil⟩
      | cons c rest =>
        obtain ⟨names, hrest⟩ := ih _ (weightOfAll_lt_cons c rest) _ rfl
        exact ⟨names, .other hstarts hrest⟩

/-! ## The scan finds them -/

/-- The names that a scan finds are those of its first step, and then those of the scan of what the step leaves. -/
theorem scanSelector_names_cons (c : Component) (rest : List Component) :
    (scanSelector (c :: rest)).names =
      (scanStep c rest).1.names ++ (scanSelector (scanStep c rest).2).names := by
  rw [scanSelector_cons]
  rfl

/-- After one colon or two a scan takes the name of the identifier that follows. -/
theorem scanSelector_names_ident {colons : List Component} (h : IsColons colons) (pos : Position) (name : String)
    (rest : List Component) :
    (scanSelector (colons ++ .leaf pos (.ident name) :: rest)).names =
      asciiLower name :: (scanSelector rest).names := by
  cases h <;> simp [scanSelector_colon, colonStep, afterColon, isLiteral, SelectorScan.append]

/-- After one colon or two a scan takes the name of the function that follows, and goes on in its arguments. -/
theorem scanSelector_names_functional {colons : List Component} (h : IsColons colons) (pos : Position)
    (name : String) (args rest : List Component) :
    (scanSelector (colons ++ .nest pos (.function name) args :: rest)).names =
      asciiLower name :: ((scanSelector (significant args)).names ++ (scanSelector rest).names) := by
  cases h <;> simp [scanSelector_colon, colonStep, afterColon, isLiteral, SelectorScan.append]

/-- A combinator that reaches into shadow trees has one name in both spellings, `>>>` and `/deep/`. -/
theorem scanSelector_names_piercing {combinator : List Component} (h : IsPiercing combinator)
    (rest : List Component) :
    (scanSelector (combinator ++ rest)).names = deepCombinator :: (scanSelector rest).names := by
  cases h with
  | arrows pos pos' pos'' =>
    simp [scanSelector_names_cons, scanStep, isDeep, isChild, isLiteral]
  | deep pos pos' pos'' h =>
    simp [scanSelector_names_cons, scanStep, isDeep, isChild, isSlash, isLiteral, ident?, h]

/-- What a scan looks at after a colon stands after one colon or two. -/
theorem exists_isColons_of_afterColon {c : Component} {rest rest' : List Component}
    (h : afterColon rest = c :: rest') (pos : Position) :
    ∃ colons, IsColons colons ∧ .leaf pos (.literal ":") :: rest = colons ++ c :: rest' := by
  cases rest with
  | nil => exact absurd h (by simp [afterColon])
  | cons second rest =>
    rw [afterColon] at h
    split at h
    · rename_i hsecond
      obtain ⟨pos', rfl⟩ := isLiteral_iff.1 hsecond
      exact ⟨_, .two pos pos', by rw [h]; rfl⟩
    · exact ⟨_, .one pos, by rw [h]; rfl⟩

/-- The combinators that a scan takes have the three parts of one that pierces shadow boundaries. -/
theorem exists_isPiercing_of_isDeep {c : Component} {rest : List Component} (h : isDeep c rest = true) :
    ∃ combinator, IsPiercing combinator ∧ c :: rest = combinator ++ rest.drop 2 := by
  match rest, h with
  | second :: third :: rest, h =>
    simp only [isDeep, isChild, isSlash, Bool.or_eq_true, Bool.and_eq_true, Option.any_eq_true, beq_iff_eq,
      isLiteral_iff, ident?_eq_some_iff] at h
    -- three arrows, or a name between two slashes
    rcases h with ⟨⟨⟨pos, rfl⟩, ⟨pos', rfl⟩⟩, ⟨pos'', rfl⟩⟩ |
      ⟨⟨⟨pos, rfl⟩, ⟨name, ⟨pos', rfl⟩, hname⟩⟩, ⟨pos'', rfl⟩⟩
    · exact ⟨_, .arrows pos pos' pos'', rfl⟩
    · exact ⟨_, .deep pos pos' pos'' hname, rfl⟩

/-- Where nothing with a name starts, a scan passes one component over. -/
theorem scanSelector_names_other {c : Component} {rest : List Component} (h : ¬ StartsNamed (c :: rest)) :
    (scanSelector (c :: rest)).names = (scanSelector rest).names := by
  rw [scanSelector_names_cons]
  unfold scanStep
  split
  · rfl
  · exact absurd (.function _ _) h
  · exact absurd (.bracketed _) h
  · split
    · -- a colon with a name or a function behind it would be a start that has a name
      rename_i hcolon
      obtain ⟨pos, rfl⟩ := isLiteral_iff.1 hcolon
      unfold colonStep
      split
      · rename_i hafter
        obtain ⟨colons, hcolons, heq⟩ := exists_isColons_of_afterColon hafter pos
        exact absurd (heq ▸ .ident hcolons _ _) h
      · rename_i hafter
        obtain ⟨colons, hcolons, heq⟩ := exists_isColons_of_afterColon hafter pos
        exact absurd (heq ▸ .functional hcolons _ _) h
      · rfl
    · split
      · -- and so would a combinator that reaches into shadow trees
        rename_i hdeep
        obtain ⟨combinator, hpiercing, heq⟩ := exists_isPiercing_of_isDeep hdeep
        exact absurd (heq ▸ .piercing hpiercing) h
      · rfl

/-- The names in a selector are those that a scan finds. One direction follows the grammar, and the other uses that
there are names for every selector and that a scan finds one list. -/
theorem selectorNames_iff {cs : List Component} {names : List String} :
    SelectorNames cs names ↔ (scanSelector cs).names = names := by
  have hfound {cs : List Component} {names : List String} (h : SelectorNames cs names) :
      (scanSelector cs).names = names := by
    induction h with
    | nil => rw [scanSelector]
    | ident h _ ih => rw [scanSelector_names_ident h, ih]
    | functional h _ _ ihArgs ih => rw [scanSelector_names_functional h, ihArgs, ih]
    | bracketed h _ ih => rw [scanSelector_names_cons, scanStep, attributeNames_iff.1 h, ih]
    | function _ _ ihArgs ih => rw [scanSelector_names_cons, scanStep, ihArgs, ih]
    | piercing h _ ih => rw [scanSelector_names_piercing h, ih]
    | other h _ ih => rw [scanSelector_names_other h, ih]
  constructor
  · exact hfound
  · rintro rfl
    -- the list has names, and they are those that are found
    obtain ⟨names, hnames⟩ := exists_selectorNames cs
    rwa [hfound hnames]

end FeatureAudit.Stylesheet
