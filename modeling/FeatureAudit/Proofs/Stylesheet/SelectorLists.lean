import FeatureAudit.Proofs.Stylesheet.Faults

/-!
# Lists of selectors

A selector is scanned step by step, and a step may look at components after the one that it starts at: at the name after
one colon or two, and at the rest of a combinator. No step looks past a comma or a block, so a list of selectors is
scanned selector by selector. What stands in a function is scanned by itself, though the step that does so may start at
the colons before the function.

Selectors are lists of any components here. Whitespace and comments are left out before the scan.

* **`scanStep`**, **`scanSelector_cons`** — one step, and the scan as a run of steps.
* **`scanStep_append`** — a step does not go past what ends all patterns.
* **`scanSelector_append`**, **`exists_scanSelector_function`** — so a scan is divided there, and at every function.
* **`ArgumentPlace`** — the arguments of a function that stands anywhere in a selector.
* **`selectors_scan_apart`** — lists of selectors, the arguments of functions among them.
-/
namespace FeatureAudit.Stylesheet

open FeatureAudit.Text Component

/-! ## What is found in parts -/

namespace SelectorScan

theorem nil_append (a : SelectorScan) : (⟨[], []⟩ : SelectorScan).append a = a := rfl

theorem append_nil (a : SelectorScan) : a.append ⟨[], []⟩ = a := by
  rw [append, List.append_nil, List.append_nil]

theorem append_assoc (a b c : SelectorScan) : (a.append b).append c = a.append (b.append c) := by
  simp only [append, List.append_assoc]

/-- What several scans find, one after the other. -/
def join (scans : List SelectorScan) : SelectorScan := scans.foldr append ⟨[], []⟩

/-- Scans that are joined in two parts are joined in one: what the one part finds and then what the other does. -/
theorem join_append (as bs : List SelectorScan) : join (as ++ bs) = (join as).append (join bs) := by
  induction as with
  | nil => rfl
  | cons a rest ih =>
    show a.append (join (rest ++ bs)) = (a.append (join rest)).append (join bs)
    rw [ih, append_assoc]

end SelectorScan

/-! ## Steps -/

/-- A step at a colon: what is found, and the components that are left. -/
def colonStep (rest : List Component) : SelectorScan × List Component :=
  match afterColon rest with
  | .leaf _ (.ident name) :: rest' => (⟨[asciiLower name], []⟩, rest')
  | .nest _ (.function name) args :: rest' =>
    (SelectorScan.append ⟨[asciiLower name], []⟩ (scanSelector (significant args)), rest')
  | _ => (⟨[], []⟩, rest)

/-- A step at any component: what is found, and the components that are left. -/
def scanStep (c : Component) (rest : List Component) : SelectorScan × List Component :=
  match c with
  | .leaf pos (.error fault) => (⟨[], [(pos, fault)]⟩, rest)
  | .nest _ (.function _) args => (scanSelector (significant args), rest)
  | .nest _ (.block .square) content => (⟨(attributeName? content).toList, []⟩, rest)
  | _ =>
    if c.isLiteral ":" then colonStep rest
    else if isDeep c rest then (⟨[deepCombinator], []⟩, rest.drop 2)
    else (⟨[], []⟩, rest)

/-- A scan that stands at a colon makes the step of a colon: it takes the name of a pseudo-class, reads the arguments
of a function, or finds nothing, and goes on behind that. -/
theorem scanSelector_colon {c : Component} (hcolon : c.isLiteral ":" = true)
    (rest : List Component) :
    scanSelector (c :: rest) = (colonStep rest).1.append (scanSelector (colonStep rest).2) := by
  obtain ⟨pos, rfl⟩ := isLiteral_iff.1 hcolon
  rw [scanSelector, if_pos hcolon]
  · unfold colonStep
    -- a name, a function or nothing of interest
    split
    · rename_i hafter
      rw [hafter]
    · rename_i hafter
      rw [hafter, SelectorScan.append_assoc]
    · rename_i hident hfunction
      split
      · rename_i hafter
        exact absurd hafter (hident _ _ _)
      · rename_i hafter
        exact absurd hafter (hfunction _ _ _ _)
      · rfl
  -- a literal is none of the components with equations of their own
  all_goals simp

/-- A scan is a run of steps: what the first step finds, and then the scan of what it leaves. -/
theorem scanSelector_cons (c : Component) (rest : List Component) :
    scanSelector (c :: rest) = (scanStep c rest).1.append (scanSelector (scanStep c rest).2) := by
  unfold scanStep
  split
  · rw [scanSelector]
  · rw [scanSelector]
  · rw [scanSelector]
  -- any other component may start a pattern
  · rename_i hfault hfunction hsquare
    split
    · rename_i hcolon
      exact scanSelector_colon hcolon rest
    · rename_i hcolon
      rw [scanSelector.eq_5 c rest hfault hfunction hsquare, if_neg hcolon]
      split
      · rfl
      · rfl

/-- The step at a colon goes on with no more components than stand behind the colon, so a scan ends. -/
theorem colonStep_length_le (rest : List Component) : (colonStep rest).2.length ≤ rest.length := by
  have hafter : (afterColon rest).length ≤ rest.length := by
    cases rest with
    | nil => exact Nat.le_refl _
    | cons c rest =>
      rw [afterColon]
      split
      · exact Nat.le_succ _
      · exact Nat.le_refl _
  unfold colonStep
  split
  · rename_i heq
    rw [heq] at hafter
    exact Nat.le_of_succ_le hafter
  · rename_i heq
    rw [heq] at hafter
    exact Nat.le_of_succ_le hafter
  · exact Nat.le_refl _

/-- What a step leaves comes after the component that it starts at. -/
theorem scanStep_length_le (c : Component) (rest : List Component) :
    (scanStep c rest).2.length ≤ rest.length := by
  unfold scanStep
  split
  · exact Nat.le_refl _
  · exact Nat.le_refl _
  · exact Nat.le_refl _
  · split
    · exact colonStep_length_le rest
    · split
      · exact (List.drop_sublist 2 rest).length_le
      · exact Nat.le_refl _

/-- Induction along the steps of a scan: what holds of no components, and of a list if it holds of what the step at
its first component leaves, holds of every list. -/
@[elab_as_elim]
theorem scan_induction {motive : List Component → Prop} (nil : motive [])
    (step : ∀ c rest, motive (scanStep c rest).2 → motive (c :: rest)) (cs : List Component) :
    motive cs := by
  match cs with
  | [] => exact nil
  | c :: rest =>
    have hshorter : (scanStep c rest).2.length ≤ rest.length := scanStep_length_le c rest
    exact step c rest (scan_induction nil step (scanStep c rest).2)
termination_by cs.length
decreasing_by exact Nat.lt_succ_of_le hshorter

/-! ## Where all patterns end -/

/-- No pattern of several components has this one after its first, but for a function after a colon. -/
structure EndsPatterns (b : Component) : Prop where
  colon : ¬ b.isLiteral ":" = true
  child : isChild b = false
  slash : isSlash b = false
  ident : b.ident? = none

theorem EndsPatterns.comma (pos : Position) : EndsPatterns (.leaf pos (.literal ",")) :=
  ⟨by simp [isLiteral], by simp [isChild, isLiteral], by simp [isSlash, isLiteral], rfl⟩

/-- A component that holds others ends every pattern that a scan looks for, be it a block or a function. -/
theorem EndsPatterns.nest (pos : Position) (n : Nest) (content : List Component) :
    EndsPatterns (.nest pos n content) :=
  ⟨Bool.false_ne_true, rfl, rfl, rfl⟩

/-- The component is a function. -/
def Component.isFunction : Component → Bool
  | .nest _ (.function _) _ => true
  | _ => false

variable {b : Component} (ys : List Component)

/-- Behind a colon nothing is read beyond a component that ends patterns. -/
theorem afterColon_append (hb : EndsPatterns b) (rest : List Component) :
    afterColon (rest ++ b :: ys) = afterColon rest ++ b :: ys := by
  cases rest with
  | nil => exact if_neg hb.colon
  | cons c rest =>
    rw [List.cons_append, afterColon, afterColon]
    split
    · rfl
    · rfl

/-- A combinator that reaches into shadow trees is seen in the components before the end, or not at all: none of its
parts is a component that ends patterns. -/
theorem isDeep_append (hb : EndsPatterns b) (c : Component) (rest : List Component) :
    isDeep c (rest ++ b :: ys) = isDeep c rest := by
  match rest with
  | [] =>
    -- the end is no second component of a combinator
    cases ys with
    | nil => rfl
    | cons y ys => simp [isDeep, hb.child, hb.ident]
  | [second] =>
    -- nor is it a third one
    simp [isDeep, hb.child, hb.slash]
  | second :: third :: rest => rfl

theorem isDeep_of_endsPatterns (hb : EndsPatterns b) (rest : List Component) :
    isDeep b rest = false := by
  unfold isDeep
  split
  · simp [hb.child, hb.slash]
  · rfl

/-- A combinator has two components behind its first, so to drop these leaves what follows the list as it is. -/
theorem drop_append_of_isDeep {c : Component} {rest : List Component} (h : isDeep c rest = true)
    (zs : List Component) : (rest ++ zs).drop 2 = rest.drop 2 ++ zs := by
  match rest, h with
  | _ :: _ :: _, _ => rfl

/-- A step at a colon stays before the end, unless the end is a function and nothing is between. -/
theorem colonStep_append (hb : EndsPatterns b) {rest : List Component}
    (hreach : b.isFunction = true → afterColon rest ≠ []) :
    colonStep (rest ++ b :: ys) = ((colonStep rest).1, (colonStep rest).2 ++ b :: ys) := by
  unfold colonStep
  rw [afterColon_append ys hb]
  cases hafter : afterColon rest with
  | nil =>
    -- what is reached is the end, neither a name nor a function
    have hfunction : ¬ b.isFunction = true := fun h => hreach h hafter
    rw [List.nil_append]
    split
    · rename_i heq
      rw [(List.cons.inj heq).1] at hb
      exact absurd hb.ident (by simp [ident?])
    · rename_i heq
      rw [(List.cons.inj heq).1] at hfunction
      exact absurd rfl hfunction
    · rfl
  | cons target rest' =>
    rw [List.cons_append]
    cases target with
    | leaf pos l => cases l <;> rfl
    | nest pos n args => cases n <;> rfl

/-- No step goes past what ends all patterns, unless that is a function at a colon. -/
theorem scanStep_append (hb : EndsPatterns b) {c : Component} {rest : List Component}
    (hreach : b.isFunction = true → c.isLiteral ":" = true → afterColon rest ≠ []) :
    scanStep c (rest ++ b :: ys) = ((scanStep c rest).1, (scanStep c rest).2 ++ b :: ys) := by
  unfold scanStep
  split
  · rfl
  · rfl
  · rfl
  · split
    · rename_i hcolon
      exact colonStep_append ys hb fun h => hreach h hcolon
    · -- a combinator is seen before the end, and then it stands before the end as a whole
      rw [isDeep_append ys hb]
      split
      · rename_i hdeep
        rw [drop_append_of_isDeep hdeep]
      · rfl

/-- What is found up to a component that ends all patterns does not hang on what comes from there on. -/
theorem scanSelector_append (hb : EndsPatterns b) (hfunction : b.isFunction = false)
    (xs : List Component) :
    scanSelector (xs ++ b :: ys) = (scanSelector xs).append (scanSelector (b :: ys)) := by
  induction xs using scan_induction with
  | nil => rw [List.nil_append, scanSelector, SelectorScan.nil_append]
  | step c rest ih =>
    have hstep : scanStep c (rest ++ b :: ys) = ((scanStep c rest).1, (scanStep c rest).2 ++ b :: ys) :=
      scanStep_append ys hb fun h => by simp [hfunction] at h
    rw [List.cons_append, scanSelector_cons, hstep, ih, scanSelector_cons c rest,
      SelectorScan.append_assoc]

/-- What is found before a function, and its name after a colon, do not hang on its arguments or on what comes after
it. -/
theorem exists_scanSelector_function (xs : List Component) (pos : Position) (name : String) :
    ∃ first : SelectorScan, ∀ args ys,
      scanSelector (xs ++ .nest pos (.function name) args :: ys) =
        first.append ((scanSelector (significant args)).append (scanSelector ys)) := by
  induction xs using scan_induction with
  | nil => exact ⟨⟨[], []⟩, fun args ys => scanSelector_cons _ ys⟩
  | step c rest ih =>
    by_cases hreach : c.isLiteral ":" = true ∧ afterColon rest = []
    · -- the step at the colon takes the function along
      refine ⟨⟨[asciiLower name], []⟩, fun args ys => ?_⟩
      have hafter := afterColon_append ys (.nest pos (.function name) args) rest
      rw [hreach.2, List.nil_append] at hafter
      rw [List.cons_append, scanSelector_colon hreach.1, colonStep, hafter,
        SelectorScan.append_assoc]
    · obtain ⟨first, hfirst⟩ := ih
      refine ⟨(scanStep c rest).1.append first, fun args ys => ?_⟩
      have hstep : scanStep c (rest ++ .nest pos (.function name) args :: ys) =
          ((scanStep c rest).1, (scanStep c rest).2 ++ .nest pos (.function name) args :: ys) :=
        scanStep_append ys (.nest pos (.function name) args) fun _ hcolon hafter => hreach ⟨hcolon, hafter⟩
      rw [List.cons_append, scanSelector_cons, hstep, hfirst, SelectorScan.append_assoc]

/-! ## Selectors -/

/-- What is found in a selector. -/
def selectorScan (cs : List Component) : SelectorScan := scanSelector (significant cs)

/-- A component that is no whitespace stays where it is when whitespace and comments are left out before it and after
it. -/
theorem significant_append_cons {c : Component} (h : c.isWhitespace = false) (xs ys : List Component) :
    significant (xs ++ c :: ys) = significant xs ++ c :: significant ys := by
  rw [significant, List.filter_append, List.filter_cons_of_pos (by simp [h])]
  rfl

/-- Two lists of selectors with a comma between them are scanned one after the other. -/
theorem selectorScan_comma (xs ys : List Component) (pos : Position) :
    selectorScan (xs ++ .leaf pos (.literal ",") :: ys) =
      (selectorScan xs).append (selectorScan ys) := by
  have hcomma : scanStep (.leaf pos (.literal ",")) (significant ys) = (⟨[], []⟩, significant ys) := by
    rw [scanStep, if_neg (EndsPatterns.comma pos).colon,
      isDeep_of_endsPatterns (.comma pos), if_neg Bool.false_ne_true]
    all_goals simp
  rw [selectorScan, significant_append_cons rfl, scanSelector_append _ (.comma pos) rfl,
    scanSelector_cons, hcomma, SelectorScan.nil_append]
  rfl

/-- A list of selectors is scanned selector by selector. The induction is on the length of the list, which is divided
at any comma. -/
theorem selectorScan_eq_join (cs : List Component) :
    selectorScan cs = .join ((cs.splitOnP (isLiteral ",")).map selectorScan) := by
  by_cases h : ∃ c ∈ cs, c.isLiteral "," = true
  · -- any comma parts the list in two shorter ones
    obtain ⟨c, hc, hcomma⟩ := h
    obtain ⟨xs, ys, hcs⟩ := List.append_of_mem hc
    obtain ⟨pos, rfl⟩ := isLiteral_iff.1 hcomma
    have hlength : cs.length = xs.length + (ys.length + 1) := by
      rw [hcs, List.length_append, List.length_cons]
    rw [hcs, selectorScan_comma, List.splitOnP_append_cons xs ys hcomma, List.map_append,
      SelectorScan.join_append, ← selectorScan_eq_join xs, ← selectorScan_eq_join ys]
  · have hone : cs.splitOnP (isLiteral ",") = [cs] :=
      List.splitOnP_eq_singleton fun c hc => by simpa using fun hcomma => h ⟨c, hc, hcomma⟩
    rw [hone]
    exact (SelectorScan.append_nil _).symm
termination_by cs.length
decreasing_by all_goals omega

/-! ## Arguments of functions -/

/-- The arguments of a function in a selector. The function may stand in other functions and in blocks. -/
inductive ArgumentPlace where
  | arguments (before : List Component) (pos : Position) (name : String) (after : List Component)
  | inside (before : List Component) (pos : Position) (n : Nest) (inner : ArgumentPlace)
      (after : List Component)

namespace ArgumentPlace

/-- The selector with these arguments at the place. -/
def fill : ArgumentPlace → List Component → List Component
  | arguments before pos name after, args => before ++ .nest pos (.function name) args :: after
  | inside before pos n inner after, args => before ++ .nest pos n (inner.fill args) :: after

/-- Whether the place is in no block. What is in blocks is not scanned. -/
def isScanned : ArgumentPlace → Bool
  | arguments _ _ _ _ => true
  | inside _ _ (.function _) inner _ => inner.isScanned
  | inside _ _ (.block _) _ _ => false

/-- What is found in arguments at the place. -/
def found (place : ArgumentPlace) (args : List Component) : SelectorScan :=
  if place.isScanned then selectorScan args else ⟨[], []⟩

/-- A step at a block that is not in square brackets does not look into it. -/
theorem scanStep_block {bracket : Bracket} (h : bracket ≠ .square) (pos : Position)
    (content rest : List Component) :
    scanStep (.nest pos (.block bracket) content) rest = (⟨[], []⟩, rest) := by
  have hdeep := isDeep_of_endsPatterns (.nest pos (.block bracket) content) rest
  cases bracket with
  | square => exact absurd rfl h
  | round => exact if_neg (by simp [hdeep])
  | curly => exact if_neg (by simp [hdeep])

/-- The name of an attribute is none of the arguments of a function. -/
theorem attributeName?_fill (place : ArgumentPlace) (args args' : List Component) :
    attributeName? (place.fill args) = attributeName? (place.fill args') := by
  cases place with
  | arguments before pos name after => simp [fill, attributeName?, ident?]
  | inside before pos n inner after => simp [fill, attributeName?, ident?]

/-- A selector in which a function stands is scanned up to its arguments, in them and from there on. -/
theorem exists_selectorScan_function (before : List Component) (pos : Position) (name : String)
    (after : List Component) :
    ∃ first : SelectorScan, ∀ args,
      selectorScan (before ++ .nest pos (.function name) args :: after) =
        first.append ((selectorScan args).append (selectorScan after)) := by
  obtain ⟨first, hfirst⟩ := exists_scanSelector_function (significant before) pos name
  refine ⟨first, fun args => ?_⟩
  rw [selectorScan, significant_append_cons rfl, hfirst]
  rfl

/-- What stands in the arguments of functions in a block is not found. -/
theorem selectorScan_block (before : List Component) (pos : Position) (bracket : Bracket)
    (inner : ArgumentPlace) (after args args' : List Component) :
    selectorScan (before ++ .nest pos (.block bracket) (inner.fill args) :: after) =
      selectorScan (before ++ .nest pos (.block bracket) (inner.fill args') :: after) := by
  have hstep (rest : List Component) :
      scanStep (.nest pos (.block bracket) (inner.fill args)) rest =
        scanStep (.nest pos (.block bracket) (inner.fill args')) rest := by
    cases bracket with
    | square => rw [scanStep, scanStep, attributeName?_fill inner args args']
    | round => rw [scanStep_block (by decide), scanStep_block (by decide)]
    | curly => rw [scanStep_block (by decide), scanStep_block (by decide)]
  simp only [selectorScan, significant_append_cons (c := .nest pos (.block bracket) _) rfl]
  rw [scanSelector_append _ (.nest _ _ _) rfl, scanSelector_append _ (.nest _ _ _) rfl,
    scanSelector_cons, scanSelector_cons, hstep]

/-- What is found in a selector is found before some arguments, in them and after them. -/
theorem exists_selectorScan_fill (place : ArgumentPlace) :
    ∃ before after : SelectorScan, ∀ args,
      selectorScan (place.fill args) = before.append ((place.found args).append after) := by
  induction place with
  | arguments before pos name after =>
    obtain ⟨first, hfirst⟩ := exists_selectorScan_function before pos name after
    exact ⟨first, selectorScan after, fun args => hfirst args⟩
  | inside before pos n inner after ih =>
    cases n with
    | function name =>
      obtain ⟨first, hfirst⟩ := exists_selectorScan_function before pos name after
      obtain ⟨inBefore, inAfter, hinner⟩ := ih
      refine ⟨first.append inBefore, inAfter.append (selectorScan after), fun args => ?_⟩
      have hfound : (inside before pos (.function name) inner after).found args =
          inner.found args := rfl
      rw [fill, hfirst, hinner, hfound]
      simp only [SelectorScan.append_assoc]
    | block bracket =>
      -- nothing is found in the arguments, and nothing changes with them
      refine ⟨selectorScan (fill (inside before pos (.block bracket) inner after) []), ⟨[], []⟩,
        fun args => ?_⟩
      rw [fill, selectorScan_block before pos bracket inner after args []]
      exact (SelectorScan.append_nil _).symm

/-- The arguments of a function are scanned apart at a comma where they are selectors, and not scanned at all where
they are not. -/
theorem found_comma (place : ArgumentPlace) (xs ys : List Component) (pos : Position) :
    place.found (xs ++ .leaf pos (.literal ",") :: ys) = (place.found xs).append (place.found ys) := by
  unfold found
  split
  · exact selectorScan_comma xs ys pos
  · rfl

end ArgumentPlace

/-- **A list of selectors is scanned selector by selector.** With a comma between two lists, the names and the faults in
the first are followed by those in the second, and what is found in a list is what is found in its selectors, one after
the other. It is so in the arguments of functions as well: what is found around them hangs neither on them nor on the
commas in them. -/
theorem selectors_scan_apart :
    (∀ xs ys pos,
      selectorScan (xs ++ .leaf pos (.literal ",") :: ys) =
        (selectorScan xs).append (selectorScan ys)) ∧
      (∀ cs, selectorScan cs = .join ((cs.splitOnP (isLiteral ",")).map selectorScan)) ∧
      ∀ place : ArgumentPlace, ∃ before after : SelectorScan,
        (∀ args,
          selectorScan (place.fill args) = before.append ((place.found args).append after)) ∧
        ∀ xs ys pos,
          selectorScan (place.fill (xs ++ .leaf pos (.literal ",") :: ys)) =
            before.append ((place.found xs).append ((place.found ys).append after)) := by
  refine ⟨selectorScan_comma, selectorScan_eq_join, fun place => ?_⟩
  obtain ⟨before, after, hfill⟩ := place.exists_selectorScan_fill
  refine ⟨before, after, hfill, fun xs ys pos => ?_⟩
  rw [hfill, place.found_comma, SelectorScan.append_assoc]

end FeatureAudit.Stylesheet
