import Mathlib.Logic.Basic
import FeatureAudit.Room
import FeatureAudit.Proofs.Stylesheet.Places

/-!
# Which faults discard a stylesheet

A fault discards the uses of a stylesheet if it is met on the way. Not every place is looked at: the
scan of a selector does not enter blocks, and of at-rules only the preludes of `@media` and
`@supports` are read.

* **`Component.unblockedOf`** — the components of a selector outside all blocks.
* **`scanSelector_faults`** — the scan of a selector meets the faults among them, in order.
* **`Node.IsFaulty`**, **`Node.IsNoticed`** — an entry at which something is wrong, and one at which
  it is noticed.
* **`discarded_iff_noticed`** — a sheet is discarded exactly when a fault is noticed.
* **`faulty_sheet_kept`** — a faulty sheet whose uses are kept.
-/
namespace FeatureAudit.Stylesheet

open FeatureAudit.Text

/-! ## Components outside blocks -/

mutual

/-- A component and, if it is a function, what stands in its arguments outside all blocks. -/
def Component.unblocked : Component → List Component
  | .leaf pos l => [.leaf pos l]
  | .nest pos (.function name) args =>
    .nest pos (.function name) args :: Component.unblockedOf args
  | .nest pos (.block b) content => [.nest pos (.block b) content]

/-- The components of a list that stand outside all blocks. -/
def Component.unblockedOf : List Component → List Component
  | [] => []
  | c :: rest => c.unblocked ++ Component.unblockedOf rest

end

mutual

/-- What a component shows without opening a block is among what it holds at every depth. -/
theorem Component.unblocked_subset (c : Component) : c.unblocked ⊆ c.preorder := by
  match c with
  | .leaf pos l => exact List.Subset.refl _
  | .nest pos (.function name) args =>
    exact List.cons_subset_cons _ (Component.unblockedOf_subset args)
  | .nest pos (.block b) content =>
    exact List.cons_subset_cons _ (List.nil_subset _)

/-- What stands outside all blocks is a part of everything that there is. -/
theorem Component.unblockedOf_subset (cs : List Component) :
    Component.unblockedOf cs ⊆ Component.preorderOf cs := by
  cases cs with
  | nil => exact List.Subset.refl _
  | cons c rest =>
    rw [Component.unblockedOf, Component.preorderOf]
    exact List.append_subset.2
      ⟨List.subset_append_of_subset_left _ c.unblocked_subset,
        List.subset_append_of_subset_right _ (Component.unblockedOf_subset rest)⟩

end

/-- The faults outside all blocks. -/
def openFaults (cs : List Component) : List (Position × Fault) :=
  (Component.unblockedOf cs).filterMap Component.fault?

theorem openFaults_cons (c : Component) (rest : List Component) :
    openFaults (c :: rest) = c.unblocked.filterMap Component.fault? ++ openFaults rest := by
  rw [openFaults, Component.unblockedOf, List.filterMap_append]
  rfl

/-- A function is no block: the faults among its arguments are seen with those around it. -/
theorem openFaults_function (pos : Position) (name : String) (args rest : List Component) :
    openFaults (.nest pos (.function name) args :: rest) = openFaults args ++ openFaults rest := by
  rw [openFaults_cons, Component.unblocked, List.filterMap_cons_none rfl]
  rfl

/-- A component that is neither a fault nor a function adds no faults. -/
theorem openFaults_plain {c : Component} {rest : List Component}
    (hfault : ∀ pos fault, c ≠ .leaf pos (.error fault))
    (hfunction : ∀ pos name args, c ≠ .nest pos (.function name) args) :
    openFaults (c :: rest) = openFaults rest := by
  rw [openFaults_cons]
  cases c with
  | leaf pos l =>
    cases l with
    | error fault => exact absurd rfl (hfault pos fault)
    | _ => rfl
  | nest pos n content =>
    cases n with
    | function name => exact absurd rfl (hfunction pos name content)
    | block b => rfl

theorem openFaults_leaf {pos : Position} {l : Leaf} {rest : List Component}
    (h : ∀ fault, l ≠ .error fault) : openFaults (.leaf pos l :: rest) = openFaults rest :=
  openFaults_plain (fun _ fault heq => h fault (by injection heq)) (fun _ _ _ heq => by injection heq)

/-- The test for a literal says what the component is, with its text, wherever it stands. -/
theorem isLiteral_iff {text : String} {c : Component} :
    c.isLiteral text = true ↔ ∃ pos, c = .leaf pos (.literal text) := by
  constructor
  · intro h
    cases c with
    | leaf pos l =>
      cases l with
      | literal t =>
        rw [Component.isLiteral, beq_iff_eq] at h
        exact ⟨pos, by rw [h]⟩
      | _ => exact absurd h (by simp [Component.isLiteral])
    | nest pos n content => exact absurd h (by simp [Component.isLiteral])
  · rintro ⟨pos, rfl⟩
    simp [Component.isLiteral]

/-- A literal in front of a list is no fault, whatever its text. -/
theorem openFaults_literal {text : String} {c : Component} {rest : List Component}
    (h : c.isLiteral text = true) : openFaults (c :: rest) = openFaults rest := by
  obtain ⟨pos, rfl⟩ := isLiteral_iff.1 h
  exact openFaults_leaf fun _ heq => by injection heq

/-- The second colon of a pseudo-element is no fault, so to pass over it loses none. -/
theorem openFaults_afterColon (cs : List Component) :
    openFaults (afterColon cs) = openFaults cs := by
  cases cs with
  | nil => rfl
  | cons c rest =>
    rw [afterColon]
    split
    · rename_i h
      rw [openFaults_literal h]
    · rfl

/-- The two components after the first of a deep combinator are no faults. -/
theorem openFaults_drop_of_isDeep {c : Component} {rest : List Component}
    (h : isDeep c rest = true) : openFaults (rest.drop 2) = openFaults rest := by
  match rest, h with
  | second :: third :: rest, h =>
    simp only [isDeep, isChild, isSlash, Bool.or_eq_true, Bool.and_eq_true] at h
    rw [List.drop_succ_cons, List.drop_succ_cons, List.drop_zero]
    -- three arrows, or a name between two slashes
    rcases h with ⟨⟨-, hsecond⟩, hthird⟩ | ⟨⟨-, hsecond⟩, hthird⟩
    · rw [openFaults_literal hsecond, openFaults_literal hthird]
    · have hident : ∃ pos name, second = .leaf pos (.ident name) := by
        cases second with
        | leaf pos l =>
          cases l with
          | ident name => exact ⟨pos, name, rfl⟩
          | _ => exact absurd hsecond (by simp [Component.ident?])
        | nest pos n content => exact absurd hsecond (by simp [Component.ident?])
      obtain ⟨pos, name, rfl⟩ := hident
      rw [openFaults_leaf fun _ heq => by injection heq, openFaults_literal hthird]

/-- To leave out whitespace and comments loses no fault. -/
theorem openFaults_significant (cs : List Component) :
    openFaults (significant cs) = openFaults cs := by
  induction cs with
  | nil => rfl
  | cons c rest ih =>
    rw [significant, List.filter_cons]
    split
    · rw [openFaults_cons, openFaults_cons]
      exact congrArg _ ih
    · -- what is left out is whitespace, neither a fault nor a function
      rename_i hspace
      rw [openFaults_plain, ← ih]
      · rfl
      · rintro pos fault rfl
        exact hspace rfl
      · rintro pos name args rfl
        exact hspace rfl

/-! ## The scan of a selector -/

/-- The scan of a selector meets the faults outside all blocks, in order, whatever names it finds on
the way. The induction follows the scan: what it steps over is never a fault. -/
theorem scanSelector_faults (cs : List Component) : (scanSelector cs).faults = openFaults cs := by
  fun_induction scanSelector cs with
  | case1 => rfl
  | case2 rest pos fault ih =>
    rw [SelectorScan.append, ih, openFaults_cons]
    rfl
  | case3 rest pos name args ihArgs ih =>
    rw [SelectorScan.append, ihArgs, ih, openFaults_significant, openFaults_function]
  | case4 rest pos content ih =>
    rw [SelectorScan.append, ih, openFaults_cons]
    rfl
  -- after a colon comes a name, a function or nothing of interest
  | case5 c rest hcolon pos name rest' hafter _ _ _ ih =>
    rw [if_pos hcolon, openFaults_literal hcolon, ← openFaults_afterColon rest, hafter,
      openFaults_leaf fun _ heq => by injection heq, ← ih]
    rfl
  | case6 c rest hcolon pos name args rest' hafter _ _ _ ihArgs ih =>
    rw [if_pos hcolon, openFaults_literal hcolon, ← openFaults_afterColon rest, hafter,
      openFaults_function, ← ih, ← openFaults_significant args, ← ihArgs]
    rfl
  | case7 c rest hcolon _ _ _ hident hfunction ih =>
    rw [if_pos hcolon, openFaults_literal hcolon, ← ih]
    split
    · rename_i heq
      exact absurd heq (hident _ _ _)
    · rename_i heq
      exact absurd heq (hfunction _ _ _ _)
    · rfl
  -- anything else is plain, alone or as the start of a combinator
  | case8 c rest hcolon hdeep hfault hfunction _ ih =>
    rw [if_neg hcolon, if_pos hdeep, SelectorScan.append, ih, openFaults_drop_of_isDeep hdeep,
      openFaults_plain hfault hfunction]
    rfl
  | case9 c rest hcolon hdeep hfault hfunction _ ih =>
    rw [if_neg hcolon, if_neg hdeep, ih, openFaults_plain hfault hfunction]

/-! ## Faulty entries and noticed ones -/

/-- The component marks a fault. -/
def Component.IsFault (c : Component) : Prop := ∃ pos fault, c = .leaf pos (.error fault)

/-- Something is wrong at the entry: it is a fault, or one stands at some depth of its value or of
its prelude. -/
def Node.IsFaulty : Node → Prop
  | .declaration _ _ value _ => ∃ c ∈ Component.preorderOf value, c.IsFault
  | .rule _ prelude _ => ∃ c ∈ Component.preorderOf prelude, c.IsFault
  | .atRule _ _ prelude _ => ∃ c ∈ Component.preorderOf prelude, c.IsFault
  | .error _ _ => True

/-- Something is noticed to be wrong at the entry. In a selector that is a fault outside all blocks,
and in the prelude of an at-rule a fault of `@media` or `@supports`. -/
def Node.IsNoticed : Node → Prop
  | .declaration _ _ value _ => ∃ c ∈ Component.preorderOf value, c.IsFault
  | .rule _ prelude _ => ∃ c ∈ Component.unblockedOf prelude, c.IsFault
  | .atRule _ keyword prelude _ =>
    asciiLower keyword ∈ ["media", "supports"] ∧ ∃ c ∈ Component.preorderOf prelude, c.IsFault
  | .error _ _ => True

/-- A component is a fault exactly if an extraction reads a fault off it. -/
theorem isFault_iff {c : Component} : c.IsFault ↔ c.fault? ≠ none := by
  constructor
  · rintro ⟨pos, fault, rfl⟩
    simp [Component.fault?]
  · intro h
    cases c with
    | leaf pos l =>
      cases l with
      | error fault => exact ⟨pos, fault, rfl⟩
      | _ => exact absurd rfl h
    | nest pos n content => exact absurd rfl h

/-- Faults are read off a list of components exactly if one of them is a fault. -/
theorem filterMap_fault?_ne_nil_iff {cs : List Component} :
    cs.filterMap Component.fault? ≠ [] ↔ ∃ c ∈ cs, c.IsFault := by
  rw [Ne, List.filterMap_eq_nil_iff]
  simp only [isFault_iff, not_forall, exists_prop]

/-- The faults that are noticed at an entry itself, in order. -/
def Node.noticed : Node → List (Position × Fault)
  | .declaration _ _ value _ => (Component.preorderOf value).filterMap Component.fault?
  | .rule _ prelude _ => (Component.unblockedOf prelude).filterMap Component.fault?
  | .atRule _ keyword prelude _ =>
    if asciiLower keyword ∈ ["media", "supports"] then
      (Component.preorderOf prelude).filterMap Component.fault?
    else []
  | .error pos fault => [(pos, fault)]

/-- The traversals of an entry meet the faults that are noticed, and no others. -/
theorem metFaults_eq_noticed (n : Node) : n.metFaults = n.noticed := by
  cases n with
  | declaration pos name value important =>
    rw [Node.metFaults, Node.noticed, faultsIn_eq_filterMap]
  | rule pos prelude body =>
    rw [Node.metFaults, Node.noticed, scanSelector_faults, openFaults_significant, openFaults]
  | atRule pos keyword prelude body =>
    have hreads : readsPrelude (asciiLower keyword) = true ↔
        asciiLower keyword ∈ ["media", "supports"] := by
      simp [readsPrelude]
    rw [Node.metFaults, Node.noticed, faultsIn_eq_filterMap, if_congr hreads rfl rfl]
  | error pos fault => rfl

/-- An entry gives faults to notice exactly if it has one where an entry of its kind is looked through: anywhere in
the value of a declaration or in the prelude of `@media` and `@supports`, outside blocks in a selector, and in the
entry itself if it could not be read. -/
theorem noticed_ne_nil_iff {n : Node} : n.noticed ≠ [] ↔ n.IsNoticed := by
  cases n with
  | declaration pos name value important => exact filterMap_fault?_ne_nil_iff
  | rule pos prelude body => exact filterMap_fault?_ne_nil_iff
  | atRule pos keyword prelude body =>
    rw [Node.noticed, Node.IsNoticed]
    split
    · rename_i h
      rw [filterMap_fault?_ne_nil_iff, and_iff_right h]
    · rename_i h
      exact ⟨fun hne => absurd rfl hne, fun hnoticed => absurd hnoticed.1 h⟩
  | error pos fault => exact ⟨fun _ => trivial, fun _ h => by injection h⟩

/-- The faults that are noticed in a sheet, in order. -/
def noticedOf (nodes : List Node) : List (Position × Fault) :=
  (Node.preorderOf nodes).flatMap Node.noticed

/-- A forest gives faults to notice exactly if one of its entries does, at whatever depth it stands. -/
theorem noticedOf_ne_nil_iff {nodes : List Node} :
    noticedOf nodes ≠ [] ↔ ∃ n ∈ Node.preorderOf nodes, n.IsNoticed := by
  rw [noticedOf, Ne, List.flatMap_eq_nil_iff]
  simp only [← noticed_ne_nil_iff, not_forall, exists_prop]

theorem Node.IsNoticed.isFaulty {n : Node} (h : n.IsNoticed) : n.IsFaulty := by
  cases n with
  | declaration pos name value important => exact h
  | rule pos prelude body =>
    obtain ⟨c, hc, hfault⟩ := h
    exact ⟨c, Component.unblockedOf_subset prelude hc, hfault⟩
  | atRule pos keyword prelude body => exact h.2
  | error pos fault => trivial

/-! ## Discarded sheets -/

variable {room : Nat} {r : Registry} {target : Tier} {file : String}

/-- The faults that a walk meets over a forest are those to be noticed: entry by entry the two are one list. -/
theorem metFaultsOf_eq_noticedOf (nodes : List Node) : metFaultsOf nodes = noticedOf nodes := by
  rw [metFaultsOf, noticedOf, funext metFaults_eq_noticed]

/-- A sheet without noticed faults has the uses of the walk and no notice. -/
theorem extractNodes_of_unnoticed {nodes : List Node} (h : noticedOf nodes = []) :
    extractNodes r target file nodes = ⟨(walkAll r target file nodes .start).tally.usages, []⟩ := by
  simp only [extractNodes, walkAll_faults, metFaultsOf_eq_noticedOf, h]

/-- The first noticed fault of a sheet is told, and the uses are dropped. -/
theorem extractNodes_of_noticed {nodes : List Node} {pos : Position} {fault : Fault}
    {others : List (Position × Fault)} (h : noticedOf nodes = (pos, fault) :: others) :
    extractNodes r target file nodes =
      ⟨[], [.stylesheetSkipped file pos.line fault.message]⟩ := by
  simp only [extractNodes, walkAll_faults, metFaultsOf_eq_noticedOf, h]

/-- Within the limits a stylesheet is read and then looked through. -/
theorem extract_of_within {text : String} (hdigits : longInteger? (lexemes text) = none)
    (hdepth : Node.depthOfAll (sheet (lexemes text)) ≤ room) :
    extract room r target file text = .ok (extractNodes r target file (sheet (lexemes text))) := by
  simp only [extract, hdigits]
  exact if_neg (Nat.not_lt.2 hdepth)

/-- Only whether there is room for a stylesheet matters of the room. -/
theorem extract_congr_room {room' : Nat} {text : String}
    (h : Node.depthOfAll (sheet (lexemes text)) ≤ room ↔ Node.depthOfAll (sheet (lexemes text)) ≤ room') :
    extract room r target file text = extract room' r target file text := by
  have hbeyond : Node.depthOfAll (sheet (lexemes text)) > room ↔
      Node.depthOfAll (sheet (lexemes text)) > room' := by
    rw [gt_iff_lt, gt_iff_lt, ← Nat.not_le, ← Nat.not_le, h]
  simp only [extract, hbeyond]

/-- A stylesheet that there is no room for is not looked into. -/
theorem extract_of_beyond {text : String} (hdigits : longInteger? (lexemes text) = none)
    (hdepth : ¬ Node.depthOfAll (sheet (lexemes text)) ≤ room) :
    extract room r target file text = .error .nesting := by
  simp only [extract, hdigits]
  exact if_pos (Nat.not_le.1 hdepth)

/-- A stylesheet that is read has what is in its entries. -/
theorem eq_extractNodes_of_extract {text : String} {e : Extraction}
    (h : extract room r target file text = .ok e) :
    e = extractNodes r target file (sheet (lexemes text)) := by
  unfold extract at h
  dsimp only at h
  split at h
  · exact absurd h (by simp)
  · split at h
    · exact absurd h (by simp)
    · exact (Except.ok.inj h).symm

/-- A sheet is discarded: it has no uses, and one notice says so. -/
def IsDiscarded (e : Extraction) : Prop := e.usages = [] ∧ ∃ notice, e.notices = [notice]

/-- **A sheet is discarded exactly when a fault is noticed**, and otherwise nothing is told. -/
theorem discarded_iff_noticed (r : Registry) (target : Tier) (file : String) (nodes : List Node) :
    (IsDiscarded (extractNodes r target file nodes) ↔
        ∃ n ∈ Node.preorderOf nodes, n.IsNoticed) ∧
      ((¬ ∃ n ∈ Node.preorderOf nodes, n.IsNoticed) →
        (extractNodes r target file nodes).notices = []) ∧
      ∀ text room, sheet (lexemes text) = nodes → longInteger? (lexemes text) = none →
        Node.depthOfAll nodes ≤ room →
        extract room r target file text = .ok (extractNodes r target file nodes) := by
  rw [← noticedOf_ne_nil_iff]
  refine ⟨?_, ?_, ?_⟩
  · cases hnoticed : noticedOf nodes with
    | nil =>
      -- nothing noticed: the uses of the walk stay, and there is no notice to tell
      rw [extractNodes_of_unnoticed hnoticed]
      constructor
      · rintro ⟨-, notice, hnotice⟩
        exact absurd hnotice (by simp)
      · intro h
        exact absurd rfl h
    | cons first others =>
      -- the first fault makes the notice, and the uses are dropped
      rw [extractNodes_of_noticed hnoticed]
      exact ⟨fun _ => by simp, fun _ => ⟨rfl, _, rfl⟩⟩
  · intro h
    rw [extractNodes_of_unnoticed (Decidable.not_not.1 h)]
  · rintro text room rfl hdigits hdepth
    exact extract_of_within hdigits hdepth

/-! ### A fault that is not noticed -/

/-- A stylesheet with a bracket that closes nothing, inside the square brackets of a selector. -/
def strayBracket : String := "a[)]\x7bcolor:red\x7d"

/-- Its entries. -/
def strayBracketSheet : List Node :=
  [.rule ⟨1, 1⟩
    [.leaf ⟨1, 1⟩ (.ident "a"),
      .nest ⟨1, 2⟩ (.block .square) [.leaf ⟨1, 3⟩ (.error (.unmatched ')'))]]
    [.declaration ⟨1, 6⟩ "color" [.leaf ⟨1, 12⟩ (.ident "red")] false]]

/-- The lexemes of the stray bracket, each with its place. -/
theorem lexemes_strayBracket : lexemes strayBracket =
    [(⟨1, 1⟩, .leaf (.ident "a")), (⟨1, 2⟩, .opening (.block .square)), (⟨1, 3⟩, .closing ')'),
      (⟨1, 4⟩, .closing ']'), (⟨1, 5⟩, .opening (.block .curly)), (⟨1, 6⟩, .leaf (.ident "color")),
      (⟨1, 11⟩, .leaf (.literal ":")), (⟨1, 12⟩, .leaf (.ident "red")),
      (⟨1, 15⟩, .closing '}')] := by
  decide +kernel

/-- The rule that is read from it: the bracket that closes nothing is a fault inside the block of the selector, and
the block of the rule follows it as if nothing were wrong. -/
theorem sheet_strayBracket : sheet (lexemes strayBracket) = strayBracketSheet := by
  rw [lexemes_strayBracket, sheet, nodesOf_eq_map]
  simp [nested, nestedFrom, closeFrame, Nest.closer, Bracket.closer, items, isFiller, itemFrom,
    ruleItem, blockItem, upTo, endsDeclaration, declarationItem?, declarationOf, ValueScan.next,
    Component.isWhitespace, Component.isLiteral, Component.isCurly, Component.ident?,
    Component.pos, Item.node, nodesOf_eq_map, strayBracketSheet]

/-- The feature of a property. -/
def colorFeature : Feature := ⟨"color", "Color", .widelyAvailable, [], [], []⟩

/-- The uses in that sheet are kept: nothing is said of the fault. -/
theorem faulty_sheet_kept :
    (∃ n ∈ Node.preorderOf (sheet (lexemes strayBracket)), n.IsFaulty) ∧
      ∃ e, extract Room.usual.entries (Registry.ofFeatures [colorFeature]) .widelyAvailable "a.css"
          strayBracket = .ok e ∧
        e.usages ≠ [] ∧ e.notices = [] := by
  rw [sheet_strayBracket]
  refine ⟨⟨_, List.mem_cons_self, .leaf ⟨1, 3⟩ (.error (.unmatched ')')), ?_, _, _, rfl⟩, ?_⟩
  · simp [Component.preorderOf, Component.preorder]
  have hdigits : longInteger? (lexemes strayBracket) = none := by
    rw [lexemes_strayBracket]
    rfl
  have hdepth : Node.depthOfAll (sheet (lexemes strayBracket)) ≤ Room.usual.entries := by
    rw [sheet_strayBracket]
    decide
  have hlookup : (Registry.ofFeatures [colorFeature]).lookup "color" = some colorFeature := by
    decide +kernel
  have hscopes : ((sitesOf strayBracketSheet).map Site.scope).Nodup := by
    show [Scope.selector 1 1, Scope.declaration 1 6].Nodup
    decide
  refine ⟨_, extract_of_within hdigits hdepth, ?_⟩
  rw [sheet_strayBracket, extractNodes_of_unnoticed rfl]
  refine ⟨?_, rfl⟩
  dsimp only
  rw [walkAll_usages hscopes]
  have hsite : declarationSite ⟨1, 6⟩ "color" [.leaf ⟨1, 12⟩ (.ident "red")] false ∈
      sitesOf strayBracketSheet := by
    simp [sitesOf, strayBracketSheet, Node.preorderOf, Node.preorder, Node.site?]
  have htokens : (declarationSite ⟨1, 6⟩ "color" [.leaf ⟨1, 12⟩ (.ident "red")] false).tokens =
      ["color"] := by
    decide +kernel
  -- without uses the declaration would have none
  intro hnil
  have := List.flatMap_eq_nil_iff.1 hnil _ hsite
  rw [Site.usages, htokens, List.filterMap_cons, Site.usage?_eq, hlookup] at this
  simp [keepFirst] at this

end FeatureAudit.Stylesheet
