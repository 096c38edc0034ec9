import FeatureAudit.Stylesheet.Lexeme

/-!
The rules and declarations of a stylesheet.

* `Item` is one entry of a rule list or of the content of a block, its own block unread.
* `sheetItems` and `blockItems` divide components into items.
* `Node` is an entry with its block read; `nodesOf` reads every block.
-/
namespace FeatureAudit.Stylesheet

open Component

/-- An entry whose block has not been read. -/
inductive Item where
  | declaration (pos : Position) (name : String) (value : List Component) (important : Bool)
  | rule (pos : Position) (prelude content : List Component)
  | atRule (pos : Position) (keyword : String) (prelude content : List Component)
  | error (pos : Position) (fault : Fault)
  deriving Repr

/-- The components of an entry's block. -/
def Item.content : Item → List Component
  | .rule _ _ content => content
  | .atRule _ _ _ content => content
  | _ => []

/-- An entry of a stylesheet. The body of a rule is empty where it has no block. -/
inductive Node where
  | declaration (pos : Position) (name : String) (value : List Component) (important : Bool)
  | rule (pos : Position) (prelude : List Component) (body : List Node)
  | atRule (pos : Position) (keyword : String) (prelude : List Component) (body : List Node)
  | error (pos : Position) (fault : Fault)
  deriving Repr

/-! ### Items -/

/-- The components before the first that may stop them, and the rest from that one on. -/
def upTo (stops : Component → Bool) (cs : List Component) : List Component × List Component :=
  (cs.takeWhile fun c => !stops c, cs.dropWhile fun c => !stops c)

/-- A curly block or a semicolon. -/
def endsDeclaration (c : Component) : Bool := c.isCurly || c.isLiteral ";"

/-- Read an at-rule: what stands before its block or its semicolon, and the block. -/
def atRuleItem (pos : Position) (keyword : String) (cs : List Component) : Item × List Component :=
  let found := upTo endsDeclaration cs
  match found.2 with
  | .nest _ _ content :: rest => (.atRule pos keyword found.1 content, rest)
  | _ :: rest => (.atRule pos keyword found.1 [], rest)
  | [] => (.atRule pos keyword found.1 [], [])

/-- Read a rule with a selector. Inside a block a semicolon before the rule's own block is a
fault. -/
def ruleItem (inBlock : Bool) (first : Component) (cs : List Component) : Item × List Component :=
  match first with
  | .nest pos (.block .curly) content => (.rule pos [] content, cs)
  | _ =>
    let found := upTo (fun c => c.isCurly || (inBlock && c.isLiteral ";")) cs
    let prelude := first :: found.1
    match found.2 with
    | .nest _ _ content :: rest => (.rule first.pos prelude content, rest)
    | stop :: rest => (.error stop.pos .stopBeforeBlock, rest)
    | [] => (.error (prelude.getLast?.map Component.pos |>.getD first.pos) .endBeforeBlock, [])

/-- How far the reading of `!important` has come. -/
inductive Emphasis where
  | value
  | bang
  | important
  deriving DecidableEq, Repr

/-- What is known of a declaration's value: how far `!important` has come and how much of the value
stands before its mark, whether there is anything but whitespace, and whether a curly block comes
after it. -/
structure ValueScan where
  emphasis : Emphasis
  kept : Nat
  read : Nat
  started : Bool
  blockInside : Bool

/-- Take in one component of a value. -/
def ValueScan.next (s : ValueScan) (c : Component) : ValueScan :=
  let s' := { s with read := s.read + 1 }
  if s.emphasis = .value && c.isLiteral "!" then { s' with emphasis := .bang, kept := s.read }
  else if s.emphasis = .bang && c.ident?.any fun name => asciiLower name == "important" then
    { s' with emphasis := .important }
  else if c.isWhitespace then s'
  else
    { s' with
      emphasis := .value
      started := true
      blockInside := s.blockInside || (c.isCurly && s.started) }

/-- The declaration of a name and a value, unless a curly block stands inside the value. -/
def declarationOf (pos : Position) (name : String) (value : List Component) (scan : ValueScan) :
    Option Item :=
  if scan.blockInside then none
  else if scan.emphasis = .important then
    some (.declaration pos name (value.take scan.kept) true)
  else some (.declaration pos name value false)

/-- The declaration that the components form, if they form one. -/
def declarationItem? (first : Component) (cs : List Component) : Option Item :=
  match first with
  | .leaf pos (.ident name) =>
    match cs.dropWhile isWhitespace with
    | colon :: value =>
      if colon.isLiteral ":" then
        declarationOf pos name value (value.foldl ValueScan.next ⟨.value, 0, 0, false, false⟩)
      else none
    | [] => none
  | _ => none

/-- Read one entry of a block: a declaration, which ends at a semicolon or with its first curly
block, or else a rule. -/
def blockItem (first : Component) (cs : List Component) : Item × List Component :=
  let (run, rest) :=
    if first.isCurly then ([], cs)
    else
      let found := upTo endsDeclaration cs
      match found.2 with
      | [] => (found.1, [])
      | stop :: rest => if stop.isCurly then (found.1 ++ [stop], rest) else (found.1, rest)
  match declarationItem? first run with
  | some item => (item, rest)
  | none => ruleItem true first cs

/-- Read the entry that starts with a component. -/
def itemFrom (inBlock : Bool) (first : Component) (cs : List Component) : Item × List Component :=
  match first with
  | .leaf pos (.atKeyword keyword) => atRuleItem pos keyword cs
  | _ => if inBlock then blockItem first cs else ruleItem false first cs

/-- Components between entries that mean nothing: whitespace, and the semicolons of a block or the
comment marks of a sheet. -/
def isFiller (inBlock : Bool) (c : Component) : Bool :=
  c.isWhitespace ||
    (if inBlock then c.isLiteral ";" else c.isLiteral "<!--" || c.isLiteral "-->")

theorem upTo_weight_le (stops : Component → Bool) (cs : List Component) :
    weightOfAll (upTo stops cs).2 ≤ weightOfAll cs := by
  have h := weightOfAll_append (cs.takeWhile fun c => !stops c) (cs.dropWhile fun c => !stops c)
  rw [List.takeWhile_append_dropWhile] at h
  simp only [upTo]
  omega

theorem atRuleItem_weight (pos : Position) (keyword : String) (cs : List Component) :
    weightOfAll (atRuleItem pos keyword cs).1.content + weightOfAll (atRuleItem pos keyword cs).2 ≤
      weightOfAll cs := by
  have h := upTo_weight_le endsDeclaration cs
  simp only [atRuleItem]
  split <;> rename_i heq <;> rw [heq] at h <;>
    simp only [weightOfAll, weight, Item.content] at h ⊢ <;> omega

theorem ruleItem_weight (inBlock : Bool) (first : Component) (cs : List Component) :
    weightOfAll (ruleItem inBlock first cs).1.content + weightOfAll (ruleItem inBlock first cs).2 <
      first.weight + weightOfAll cs := by
  unfold ruleItem
  split
  · simp only [Item.content, weight]
    omega
  · have h := upTo_weight_le (fun c => c.isCurly || (inBlock && c.isLiteral ";")) cs
    have hf := weight_pos first
    simp only
    split <;> rename_i heq <;> rw [heq] at h <;>
      simp only [weightOfAll, weight, Item.content] at h ⊢ <;> omega

theorem declarationItem?_content {first : Component} {cs : List Component} {item : Item}
    (h : declarationItem? first cs = some item) : item.content = [] := by
  unfold declarationItem? declarationOf at h
  repeat' split at h
  all_goals simp only [reduceCtorEq, Option.some.injEq] at h
  all_goals
    subst h
    rfl

theorem blockItem_weight (first : Component) (cs : List Component) :
    weightOfAll (blockItem first cs).1.content + weightOfAll (blockItem first cs).2 <
      first.weight + weightOfAll cs := by
  have hf := weight_pos first
  have h := upTo_weight_le endsDeclaration cs
  have hr := ruleItem_weight true first cs
  simp only [blockItem]
  split
  · rename_i item heq
    rw [declarationItem?_content heq]
    simp only [weightOfAll]
    split
    · simp only
      omega
    · split
      · simp only [weightOfAll]
        omega
      · rename_i stop rest heq'
        rw [heq'] at h
        simp only [weightOfAll] at h
        split <;> simp only <;> omega
  · exact hr

theorem itemFrom_weight (inBlock : Bool) (first : Component) (cs : List Component) :
    weightOfAll (itemFrom inBlock first cs).1.content + weightOfAll (itemFrom inBlock first cs).2 <
      first.weight + weightOfAll cs := by
  unfold itemFrom
  split
  · rename_i pos keyword
    have h := atRuleItem_weight pos keyword cs
    have hf := weight_pos (.leaf pos (.atKeyword keyword))
    omega
  · split
    · exact blockItem_weight first cs
    · exact ruleItem_weight false first cs

/-- Divide components into entries. -/
def items (inBlock : Bool) (cs : List Component) : List Item :=
  match cs with
  | [] => []
  | c :: rest =>
    if isFiller inBlock c then items inBlock rest
    else (itemFrom inBlock c rest).1 :: items inBlock (itemFrom inBlock c rest).2
termination_by weightOfAll cs
decreasing_by
  · have := weight_pos c
    simp only [weightOfAll]
    omega
  · have := itemFrom_weight inBlock c rest
    simp only [weightOfAll]
    omega

/-- The block of an entry is smaller than what the entries were read from. -/
theorem content_weight_lt {inBlock : Bool} {cs : List Component} {item : Item}
    (h : item ∈ items inBlock cs) : weightOfAll item.content < weightOfAll cs := by
  fun_induction items inBlock cs with
  | case1 => simp at h
  | case2 c rest _ ih =>
    have := ih h
    simp only [weightOfAll]
    omega
  | case3 c rest _ ih =>
    have hw := itemFrom_weight inBlock c rest
    simp only [weightOfAll]
    rcases List.mem_cons.1 h with rfl | h
    · omega
    · have := ih h
      omega

/-! ### Nodes -/

/-- Read the blocks of entries. -/
def nodesOf (inBlock : Bool) (cs : List Component) : List Node :=
  (items inBlock cs).attach.map fun ⟨item, _⟩ =>
    match item with
    | .declaration pos name value important => .declaration pos name value important
    | .rule pos prelude content => .rule pos prelude (nodesOf true content)
    | .atRule pos keyword prelude content => .atRule pos keyword prelude (nodesOf true content)
    | .error pos fault => .error pos fault
termination_by weightOfAll cs
decreasing_by
  all_goals
    rename_i h
    exact content_weight_lt h

/-- The entries of a stylesheet. -/
def sheet (lexemes : List (Position × Lexeme)) : List Node := nodesOf false (nested lexemes)

mutual

/-- How many calls are open inside each other on the way down into an entry: one for every rule around, and two for every
function and block in the components of an entry. -/
def Node.depth : Node → Nat
  | .declaration _ _ value _ => 2 * Component.depthOfAll value
  | .rule _ prelude body => max (2 * Component.depthOfAll prelude) (Node.depthOfAll body + 1)
  | .atRule _ _ prelude body => max (2 * Component.depthOfAll prelude) (Node.depthOfAll body + 1)
  | .error _ _ => 0

/-- The greatest depth of some entries. -/
def Node.depthOfAll : List Node → Nat
  | [] => 0
  | n :: rest => max n.depth (Node.depthOfAll rest)

end

end FeatureAudit.Stylesheet
